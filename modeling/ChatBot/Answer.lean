import ChatBot.Json
import ChatBot.Message

/-!
# Answers and replies

An answer is what an action wants to say.  An outgoing message is what is handed
to the platform for it, a receipt what the platform gives back, and a reply
record what is remembered of it.
-/

namespace ChatBot

/-- Where an answer goes, as far as it departs from the bot's settings. -/
structure AnswerOptions where
  threaded : Option Bool
  broadcast : Option Bool
  deriving DecidableEq, Inhabited, Repr

/-- What an action wants to say. -/
structure Answer where
  text : String
  blocks : List Json
  options : AnswerOptions
  deriving Inhabited

namespace Answer

def ofText (text : String) : Answer :=
  ⟨text, [], ⟨none, none⟩⟩

/-- The answer with rich content of its own. -/
def withBlocks (answer : Answer) (blocks : List Json) : Answer :=
  { answer with blocks }

/-- The answer with its own wish to stand in a thread or not. -/
def inThread (answer : Answer) (threaded : Bool) : Answer :=
  { answer with options := { answer.options with threaded := some threaded } }

/-- The answer with its own wish to be shown outside its thread or not. -/
def broadcast (answer : Answer) (broadcast : Bool) : Answer :=
  { answer with options := { answer.options with broadcast := some broadcast } }

/-- An answer says nothing when its text is blank and it has no blocks. -/
def isEmpty (answer : Answer) : Bool :=
  Text.isAllBlank answer.text && answer.blocks.isEmpty

end Answer

/-- The thread in which a message is posted. -/
structure ThreadTarget where
  timestamp : Timestamp
  broadcast : Bool
  deriving DecidableEq, Inhabited, Repr

/-- A message handed to the platform. -/
structure OutgoingMessage where
  text : String
  blocks : List Json
  thread : Option ThreadTarget
  deriving Inhabited

namespace OutgoingMessage

/-- A message of plain text outside any thread. -/
def ofText (text : String) : OutgoingMessage :=
  ⟨text, [], none⟩

end OutgoingMessage

/-- What the platform reports about a message it has posted or changed. -/
structure Receipt where
  channel : String
  timestamp : Timestamp
  text : String
  deriving DecidableEq, Inhabited, Repr

/-- What is remembered of a reply that the platform accepted. -/
structure ReplyRecord where
  channel : String
  timestamp : Timestamp
  text : String
  deriving DecidableEq, Inhabited, Repr

namespace Receipt

/-- The record of the reply that a receipt reports. -/
def toReply (receipt : Receipt) : ReplyRecord :=
  ⟨receipt.channel, receipt.timestamp, receipt.text⟩

end Receipt

end ChatBot
