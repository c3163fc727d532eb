import ChatBot.Answer
import ChatBot.Log

/-!
# The chat platform

What the bot can ask of the platform: to post, change and delete messages, to
say who a user is, and to say who the bot is.  Each request may fail.

A chat driver carries a state of its own, which every call may change; nothing
else is assumed of it.  Look-ups are numbered from zero, and a look-up may be
answered differently each time.
-/

namespace ChatBot

/-- Why the platform refused a request. -/
inductive ApiError where
  | notConnected
  | platform (code : Int32) (text : String)
  | userNotFound (id : String)
  | transport (text : String)
  | other (text : String)
  deriving DecidableEq, Repr

namespace ApiError

def message : ApiError → String
  | notConnected => "not connected to the chat platform"
  | platform code text => "platform error (" ++ toString code.toInt ++ "): " ++ text
  | userNotFound id => "user '" ++ id ++ "' not found"
  | transport text => "transport error: " ++ text
  | other text => text

end ApiError

/-- The means of posting to the platform, with a state of its own. -/
structure ChatDriver (δ : Type) where
  send : δ → String → OutgoingMessage → Except ApiError Receipt × δ
  update : δ → String → Timestamp → OutgoingMessage → Except ApiError Receipt × δ
  delete : δ → String → Timestamp → Except ApiError Unit × δ

/-- What the platform answers to the look-up of a user, given how many look-ups
came before it. -/
abbrev UserFinder := Nat → String → Except ApiError UserInfo

/-- What the platform answers to the question who the bot is, given how often it
was asked before. -/
abbrev IdentityFinder := Nat → Except ApiError Identity

namespace UserFinder

/-- Look-ups in a fixed table, where a later entry replaces an earlier one of
the same user. -/
def ofTable (users : List UserInfo) : UserFinder := fun _ id =>
  match users.reverse.find? (·.id = id) with
  | some user => .ok user
  | none => .error (.userNotFound id)

end UserFinder

/-- The place of a message on the platform. -/
structure MessageKey where
  channel : String
  timestamp : Timestamp
  deriving DecidableEq, Inhabited, Repr

namespace MessageKey

/-- The channel and the timestamp with a slash between them. -/
def text (key : MessageKey) : String :=
  key.channel ++ "/" ++ key.timestamp.text

end MessageKey

/-- One call of a chat driver, with its result. -/
inductive Call where
  | send (channel : String) (message : OutgoingMessage) (result : Except ApiError Receipt)
  | update (channel : String) (timestamp : Timestamp) (message : OutgoingMessage)
      (result : Except ApiError Receipt)
  | delete (channel : String) (timestamp : Timestamp) (result : Except ApiError Unit)

/-- On whose behalf a call is made: for a source message, or for a scheduled
action. -/
inductive Origin where
  | source (key : MessageKey)
  | schedule
  deriving DecidableEq, Repr

/-- Something that the bot did: a call of the chat driver, or a log event. -/
inductive Entry where
  | call (origin : Origin) (call : Call)
  | log (event : LogEvent)

namespace Entry

/-- The call of an entry, if it is one. -/
def call? : Entry → Option Call
  | call _ made => some made
  | log _ => none

/-- The log event of an entry, if it is one. -/
def log? : Entry → Option LogEvent
  | call _ _ => none
  | log event => some event

end Entry

end ChatBot
