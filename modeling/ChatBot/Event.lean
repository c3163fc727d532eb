import ChatBot.Message

/-!
# Events

What the platform reports to the bot, in the order in which it happened there.
-/

namespace ChatBot

/-- How a message event departs from a message newly posted. -/
inductive MessageChange where
  | changed (message : Message)
  | deleted (timestamp : Timestamp)
  deriving DecidableEq, Repr

/-- A report about one message.  `replyTo` is not zero when the platform echoes
back a reply of the bot. -/
structure MessageEvent where
  channel : String
  user : String
  text : String
  timestamp : Timestamp
  replyTo : UInt64
  change : Option MessageChange
  deriving DecidableEq, Repr

namespace MessageEvent

def posted (message : Message) : MessageEvent :=
  { channel := message.channel
    user := message.user
    text := message.text
    timestamp := message.timestamp
    replyTo := 0
    change := none }

/-- The report, itself at `timestamp`, that a message of the channel reads
differently now. -/
def changed (channel : String) (timestamp : Timestamp) (edited : Message) : MessageEvent :=
  { channel, timestamp, user := "", text := "", replyTo := 0
    change := some (.changed { edited with channel }) }

/-- The report, itself at `timestamp`, that a message of the channel is gone. -/
def deleted (channel : String) (timestamp deleted : Timestamp) : MessageEvent :=
  { channel, timestamp, user := "", text := "", replyTo := 0
    change := some (.deleted deleted) }

/-- Whether the platform echoes back a reply of the bot. -/
def isReplyEcho (event : MessageEvent) : Bool :=
  event.replyTo != 0

def message (event : MessageEvent) : Message :=
  ⟨event.channel, event.user, event.text, event.timestamp⟩

end MessageEvent

/-- A report of the platform. -/
inductive Event where
  | connected
  | message (event : MessageEvent)
  | latencyReport (milliseconds : UInt64)
  | transportError (code : Int32) (message : String)
  | invalidCredentials
  | termination
  deriving DecidableEq, Repr

namespace Event

/-- The name of the kind of an event. -/
def name : Event → String
  | connected => "connected"
  | message _ => "message"
  | latencyReport _ => "latency_report"
  | transportError _ _ => "transport_error"
  | invalidCredentials => "invalid_credentials"
  | termination => "termination"

/-- The report of a delay of so many nanoseconds: whole milliseconds, at most
the greatest 64-bit number. -/
def ofLatency (nanoseconds : Nat) : Event :=
  latencyReport (UInt64.ofNat (min (nanoseconds / 1000000) (UInt64.size - 1)))

end Event

end ChatBot
