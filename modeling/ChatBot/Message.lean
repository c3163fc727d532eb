import ChatBot.Text.Blank
import ChatBot.Timestamp

/-!
# Messages and who takes part in them

A message as the platform reports it, the identity of the bot, what the platform
knows about a user, and the envelope in which a message reaches the actions.

An envelope tells whether the message is meant for the bot: it is when it stands
in a direct channel or starts with the bot's mention.  Its body is the text
without that mention and without blanks at the ends.
-/

namespace ChatBot

/-- A message as the platform reports it. -/
structure Message where
  channel : String
  user : String
  text : String
  timestamp : Timestamp
  deriving DecidableEq, Inhabited, Repr

/-- Who the bot is on the platform. -/
structure Identity where
  id : String
  name : String
  deriving DecidableEq, Inhabited, Repr

namespace Identity

/-- The text that mentions the identity in a message. -/
def mention (me : Identity) : String :=
  "<@" ++ me.id ++ ">"

end Identity

/-- What the platform knows about a user. -/
structure UserInfo where
  id : String
  name : String
  realName : Option String
  deriving DecidableEq, Inhabited, Repr

namespace UserInfo

/-- The name to call a user by: the real name unless it is missing or empty. -/
def displayName (user : UserInfo) : String :=
  match user.realName with
  | some real => if real = "" then user.name else real
  | none => user.name

end UserInfo

/-- Direct channels have names that start with `D`. -/
def isDirectChannel (channel : String) : Bool :=
  channel.toList.head? = some 'D'

/-- A message as the actions see it. -/
structure Envelope where
  channel : String
  user : String
  text : String
  timestamp : Timestamp
  addressed : Bool
  body : String
  deriving DecidableEq, Inhabited, Repr

namespace Envelope

/-- What is left of a trimmed text after the mention: colons may follow it, with
blanks on either side of them. -/
def afterMention (rest : List Char) : List Char :=
  Text.strip ((Text.dropBlanks rest).dropWhile (· = ':'))

/-- The envelope of a message for a bot of the given identity. -/
def of (message : Message) (me : Identity) : Envelope :=
  let trimmed := Text.strip message.text.toList
  let rest := me.mention.toList.isPrefixOf? trimmed
  { channel := message.channel
    user := message.user
    text := message.text
    timestamp := message.timestamp
    addressed := rest.isSome || isDirectChannel message.channel
    body := String.ofList ((rest.map afterMention).getD trimmed) }

/-- Whether the message stands in a direct channel. -/
def isDirect (envelope : Envelope) : Bool :=
  isDirectChannel envelope.channel

end Envelope

end ChatBot
