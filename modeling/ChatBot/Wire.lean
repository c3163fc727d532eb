import ChatBot.Answer
import ChatBot.Event
import ChatBot.Json.Reader
import ChatBot.Json.Record
import ChatBot.Json.Writer

/-!
# The JSON form of messages, events and answers

Each type has an encoder into a JSON tree, with its fields in a fixed order, and
a decoder that takes the same fields in any order.  Text fields of a message
event, and all of a message but its timestamp, may be left out.

An event carries its kind in a member `type`, or as the first item when it is
written as an array.  Its tree is kept whole before the kind is known, so every
part of it has to be readable and within the depth limit, even parts that are
skipped afterwards.
-/

namespace ChatBot

namespace Timestamp

def toJson (timestamp : Timestamp) : Json :=
  .str timestamp.text

def ofJson? (json : Json) : Option Timestamp :=
  json.text?.map Timestamp.mk

end Timestamp

namespace Message

def toJson (message : Message) : Json :=
  .obj [
    ("channel", .str message.channel),
    ("user", .str message.user),
    ("text", .str message.text),
    ("timestamp", message.timestamp.toJson)]

/-- Reads a message; only its timestamp has to be there. -/
def ofJson? (json : Json) : Option Message := do
  match ← json.fields? ["channel", "user", "text", "timestamp"] with
  | [channel, user, text, timestamp] =>
    some {
      channel := ← Json.withDefault "" Json.text? channel
      user := ← Json.withDefault "" Json.text? user
      text := ← Json.withDefault "" Json.text? text
      timestamp := ← Json.required Timestamp.ofJson? timestamp }
  | _ => none

end Message

namespace Identity

def toJson (me : Identity) : Json :=
  .obj [("id", .str me.id), ("name", .str me.name)]

def ofJson? (json : Json) : Option Identity := do
  match ← json.fields? ["id", "name"] with
  | [id, name] =>
    some {
      id := ← Json.required Json.text? id
      name := ← Json.required Json.text? name }
  | _ => none

end Identity

namespace UserInfo

/-- What is known of a user as a tree. -/
def toJson (user : UserInfo) : Json :=
  .obj [
    ("id", .str user.id),
    ("name", .str user.name),
    ("real_name", Json.ofOption .str user.realName)]

/-- Reads what is known of a user; the real name may be left out. -/
def ofJson? (json : Json) : Option UserInfo := do
  match ← json.fields? ["id", "name", "real_name"] with
  | [id, name, realName] =>
    some {
      id := ← Json.required Json.text? id
      name := ← Json.required Json.text? name
      realName := ← Json.withDefault none (Json.nullable Json.text?) realName }
  | _ => none

end UserInfo

namespace MessageChange

/-- A change as a tree: an object whose one member is named for the kind. -/
def toJson : MessageChange → Json
  | changed message =>
    .obj [("message_changed", .obj [("message", message.toJson)])]
  | deleted timestamp =>
    .obj [("message_deleted", .obj [("deleted_timestamp", timestamp.toJson)])]

def ofJson? (json : Json) : Option MessageChange := do
  let (kind, content) ← json.taggedChoice?
  if kind = "message_changed" then
    match ← content.fields? ["message"] with
    | [message] => return .changed (← Json.required Message.ofJson? message)
    | _ => none
  else if kind = "message_deleted" then
    match ← content.fields? ["deleted_timestamp"] with
    | [timestamp] => return .deleted (← Json.required Timestamp.ofJson? timestamp)
    | _ => none
  else none

end MessageChange

namespace MessageEvent

/-- The members of a message event; a plain post has no `subtype`. -/
def toMembers (event : MessageEvent) : List (String × Json) :=
  [ ("channel", .str event.channel),
    ("user", .str event.user),
    ("text", .str event.text),
    ("timestamp", event.timestamp.toJson),
    ("reply_to", .int event.replyTo.toNat) ] ++
  match event.change with
  | none => []
  | some change => [("subtype", change.toJson)]

/-- Reads a message event; every field may be left out. -/
def ofJson? (json : Json) : Option MessageEvent := do
  match ← json.fields? ["channel", "user", "text", "timestamp", "reply_to", "subtype"] with
  | [channel, user, text, timestamp, replyTo, change] =>
    some {
      channel := ← Json.withDefault "" Json.text? channel
      user := ← Json.withDefault "" Json.text? user
      text := ← Json.withDefault "" Json.text? text
      timestamp := ← Json.withDefault ⟨""⟩ Timestamp.ofJson? timestamp
      replyTo := UInt64.ofNat (← Json.withDefault 0 Json.nat64? replyTo)
      change := ← Json.withDefault none (Json.nullable MessageChange.ofJson?) change }
  | _ => none

end MessageEvent

namespace Event

/-- The members of an event besides its `type`. -/
def toMembers : Event → List (String × Json)
  | message event => event.toMembers
  | latencyReport milliseconds => [("latency_ms", .int milliseconds.toNat)]
  | transportError code text => [("code", .int code.toInt), ("message", .str text)]
  | connected | invalidCredentials | termination => []

/-- An event as a tree, its kind first. -/
def toJson (event : Event) : Json :=
  .obj (("type", .str event.name) :: event.toMembers)

/-- Reads the content of an event of the named kind. -/
def ofContent? (kind : String) (content : Json) : Option Event :=
  if kind = "connected" then
    (content.fields? []).map fun _ => connected
  else if kind = "message" then
    (MessageEvent.ofJson? content).map message
  else if kind = "latency_report" then do
    match ← content.fields? ["latency_ms"] with
    | [milliseconds] =>
      return latencyReport (UInt64.ofNat (← Json.required Json.nat64? milliseconds))
    | _ => none
  else if kind = "transport_error" then do
    match ← content.fields? ["code", "message"] with
    | [code, text] =>
      return transportError (Int32.ofInt (← Json.required Json.int32? code))
        (← Json.required Json.text? text)
    | _ => none
  else if kind = "invalid_credentials" then
    (content.fields? []).map fun _ => invalidCredentials
  else if kind = "termination" then
    (content.fields? []).map fun _ => termination
  else none

/-- Separates the kind of an event from its content. -/
def splitKind? : Json → Option (String × Json)
  | .obj members =>
    match members.filter (·.1 = "type") with
    | [(_, .str kind)] => some (kind, .obj (members.filter (·.1 ≠ "type")))
    | _ => none
  | .arr (.str kind :: items) => some (kind, .arr items)
  | _ => none

def ofJson? (json : Json) : Option Event := do
  if !(json.isReadable && json.depth ≤ Json.maxDepth) then none
  let (kind, content) ← splitKind? json
  ofContent? kind content

def write (event : Event) : String :=
  event.toJson.write

def read (text : String) : Option Event := do
  ofJson? (← Json.read text)

end Event

namespace AnswerOptions

def toJson (options : AnswerOptions) : Json :=
  .obj [
    ("threaded", Json.ofOption .bool options.threaded),
    ("broadcast", Json.ofOption .bool options.broadcast)]

/-- Reads answer options; both may be left out. -/
def ofJson? (json : Json) : Option AnswerOptions := do
  match ← json.fields? ["threaded", "broadcast"] with
  | [threaded, broadcast] =>
    some {
      threaded := ← Json.withDefault none (Json.nullable Json.bool?) threaded
      broadcast := ← Json.withDefault none (Json.nullable Json.bool?) broadcast }
  | _ => none

end AnswerOptions

namespace Json

/-- The member that holds blocks, left out when there are none. -/
def blockMembers (blocks : List Json) : List (String × Json) :=
  if blocks.isEmpty then [] else [("blocks", arr blocks)]

/-- Reads the blocks of a record that is itself not enclosed. -/
def blocks? : Option Json → Option (List Json) :=
  withDefault [] (list? (anyValue? 2))

end Json

namespace Answer

def toJson (answer : Answer) : Json :=
  .obj (("text", .str answer.text) :: Json.blockMembers answer.blocks ++
    [("options", answer.options.toJson)])

/-- Reads an answer; only its text has to be there. -/
def ofJson? (json : Json) : Option Answer := do
  match ← json.fields? ["text", "blocks", "options"] with
  | [text, blocks, options] =>
    some {
      text := ← Json.required Json.text? text
      blocks := ← Json.blocks? blocks
      options := ← Json.withDefault ⟨none, none⟩ AnswerOptions.ofJson? options }
  | _ => none

end Answer

namespace ThreadTarget

def toJson (target : ThreadTarget) : Json :=
  .obj [("timestamp", target.timestamp.toJson), ("broadcast", .bool target.broadcast)]

def ofJson? (json : Json) : Option ThreadTarget := do
  match ← json.fields? ["timestamp", "broadcast"] with
  | [timestamp, broadcast] =>
    some {
      timestamp := ← Json.required Timestamp.ofJson? timestamp
      broadcast := ← Json.required Json.bool? broadcast }
  | _ => none

end ThreadTarget

namespace OutgoingMessage

/-- An outgoing message as a tree; without blocks or a thread it has no member
for them. -/
def toJson (message : OutgoingMessage) : Json :=
  .obj (("text", .str message.text) :: Json.blockMembers message.blocks ++
    match message.thread with
    | none => []
    | some target => [("thread", target.toJson)])

/-- Reads an outgoing message; only its text has to be there. -/
def ofJson? (json : Json) : Option OutgoingMessage := do
  match ← json.fields? ["text", "blocks", "thread"] with
  | [text, blocks, thread] =>
    some {
      text := ← Json.required Json.text? text
      blocks := ← Json.blocks? blocks
      thread := ← Json.withDefault none (Json.nullable ThreadTarget.ofJson?) thread }
  | _ => none

end OutgoingMessage

namespace Receipt

def toJson (receipt : Receipt) : Json :=
  .obj [
    ("channel", .str receipt.channel),
    ("timestamp", receipt.timestamp.toJson),
    ("text", .str receipt.text)]

def ofJson? (json : Json) : Option Receipt := do
  match ← json.fields? ["channel", "timestamp", "text"] with
  | [channel, timestamp, text] =>
    some {
      channel := ← Json.required Json.text? channel
      timestamp := ← Json.required Timestamp.ofJson? timestamp
      text := ← Json.required Json.text? text }
  | _ => none

end Receipt

namespace ReplyRecord

def toJson (reply : ReplyRecord) : Json :=
  .obj [
    ("channel", .str reply.channel),
    ("timestamp", reply.timestamp.toJson),
    ("text", .str reply.text)]

def ofJson? (json : Json) : Option ReplyRecord := do
  match ← json.fields? ["channel", "timestamp", "text"] with
  | [channel, timestamp, text] =>
    some {
      channel := ← Json.required Json.text? channel
      timestamp := ← Json.required Timestamp.ofJson? timestamp
      text := ← Json.required Json.text? text }
  | _ => none

end ReplyRecord

end ChatBot
