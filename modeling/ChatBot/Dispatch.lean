import ChatBot.Cache.Replies
import ChatBot.Routing

/-!
# Dispatch

Posting the answers to messages, and keeping the replies in step with their
source messages.  A new message is answered.  When a source message is edited,
its replies are changed in place if their number stays the same; otherwise all of
them are deleted and the new answers are posted.  When it is deleted, its replies
are deleted.  A call that fails is reported and otherwise passed over.
-/

namespace ChatBot

/-- Where replies go unless an answer says otherwise. -/
structure ReplySettings where
  threadedReplies : Bool
  broadcastThreadedReplies : Bool
  deriving DecidableEq, Inhabited, Repr

/-- What does not change while messages are dispatched. -/
structure Dispatcher (δ : Type) where
  registry : Registry
  settings : ReplySettings
  driver : ChatDriver δ
  users : UserFinder

/-- What changes while messages are dispatched: the replies that are tracked,
the users that are known, and the state of the chat driver. -/
structure Desk (δ : Type) where
  replies : ReplyCache
  users : UserCache
  driver : δ

variable {δ : Type}

namespace ReplySettings

/-- The message that is posted for an answer to a source message. -/
def outgoing (settings : ReplySettings) (source : Timestamp) (answer : Answer) :
    OutgoingMessage where
  text := answer.text
  blocks := answer.blocks
  thread :=
    if answer.options.threaded.getD settings.threadedReplies then
      some ⟨source, answer.options.broadcast.getD settings.broadcastThreadedReplies⟩
    else none

def describe (settings : ReplySettings) : String :=
  "ReplySettings \x7b threaded_replies: " ++ toString settings.threadedReplies ++
    ", broadcast_threaded_replies: " ++ toString settings.broadcastThreadedReplies ++ " \x7d"

end ReplySettings

namespace Answer

/-- The message that takes the place of a posted answer; it stays in the thread
in which it stands. -/
def replacement (answer : Answer) : OutgoingMessage :=
  ⟨answer.text, answer.blocks, none⟩

end Answer

namespace Envelope

def key (envelope : Envelope) : MessageKey :=
  ⟨envelope.channel, envelope.timestamp⟩

end Envelope

/-- The reports of the dispatcher. -/
inductive DispatchReport where
  | sent (reply : Timestamp)
  | sendFailed (channel : String) (error : ApiError)
  | updated (reply : Timestamp)
  | updateFailed (channel : String) (reply : Timestamp) (error : ApiError)
  | deleted (reply : Timestamp)
  | deleteFailed (channel : String) (reply : Timestamp) (error : ApiError)
  | editIgnored
  | countChanged (previous current : Nat)
  | nothingTracked

namespace DispatchReport

def event : DispatchReport → LogEvent
  | sent reply => ⟨.debug, "Sent reply", [("reply", reply.text)]⟩
  | sendFailed channel error =>
    ⟨.error, "Failed to send reply", [("channel", channel), ("error", error.message)]⟩
  | updated reply => ⟨.debug, "Updated reply", [("reply", reply.text)]⟩
  | updateFailed channel reply error =>
    ⟨.error, "Failed to update reply",
      [("channel", channel), ("reply", reply.text), ("error", error.message)]⟩
  | deleted reply => ⟨.debug, "Deleted reply", [("reply", reply.text)]⟩
  | deleteFailed channel reply error =>
    ⟨.error, "Failed to delete reply",
      [("channel", channel), ("reply", reply.text), ("error", error.message)]⟩
  | editIgnored => ⟨.debug, "Response cache disabled, ignoring edit", []⟩
  | countChanged previous current =>
    ⟨.debug, "Reply count changed, replacing replies",
      [("previous", toString previous), ("current", toString current)]⟩
  | nothingTracked => ⟨.trace, "No tracked replies for deleted message", []⟩

def entry (report : DispatchReport) : Entry :=
  .log report.event

end DispatchReport

namespace Dispatcher

variable (dispatcher : Dispatcher δ)

/-- Posts answers to a source message.  Gives the records of those that were
accepted. -/
def sendAll (source : MessageKey) :
    List Answer → δ → List ReplyRecord × δ × List Entry
  | [], state => ([], state, [])
  | answer :: rest, state =>
    let message := dispatcher.settings.outgoing source.timestamp answer
    let (result, state) := dispatcher.driver.send state source.channel message
    let (replies, state, entries) := sendAll source rest state
    let call := Entry.call (.source source) (.send source.channel message result)
    match result with
    | .ok receipt =>
      (receipt.toReply :: replies, state,
        call :: DispatchReport.entry (.sent receipt.timestamp) :: entries)
    | .error error =>
      (replies, state,
        call :: DispatchReport.entry (.sendFailed source.channel error) :: entries)

/-- Changes replies in place, one answer a reply.  Gives their records after
that; a reply that could not be changed keeps its record. -/
def updateAll (source : MessageKey) :
    List (ReplyRecord × Answer) → δ → List ReplyRecord × δ × List Entry
  | [], state => ([], state, [])
  | (old, answer) :: rest, state =>
    let message := answer.replacement
    let (result, state) := dispatcher.driver.update state old.channel old.timestamp message
    let (replies, state, entries) := updateAll source rest state
    let call := Entry.call (.source source) (.update old.channel old.timestamp message result)
    match result with
    | .ok receipt =>
      ({ old with text := receipt.text } :: replies, state,
        call :: DispatchReport.entry (.updated old.timestamp) :: entries)
    | .error error =>
      (old :: replies, state,
        call :: DispatchReport.entry (.updateFailed old.channel old.timestamp error) :: entries)

def deleteAll (source : MessageKey) : List ReplyRecord → δ → δ × List Entry
  | [], state => (state, [])
  | reply :: rest, state =>
    let (result, state) := dispatcher.driver.delete state reply.channel reply.timestamp
    let (state, entries) := deleteAll source rest state
    let call := Entry.call (.source source) (.delete reply.channel reply.timestamp result)
    match result with
    | .ok _ => (state, call :: DispatchReport.entry (.deleted reply.timestamp) :: entries)
    | .error error =>
      (state,
        call :: DispatchReport.entry (.deleteFailed reply.channel reply.timestamp error) ::
          entries)

def answersFor (desk : Desk δ) (envelope : Envelope) : List Answer × Desk δ × List Entry :=
  let (answers, users, events) :=
    (dispatcher.registry.answersFor envelope).run dispatcher.users desk.users
  (answers, { desk with users }, events.map .log)

def handleNew (desk : Desk δ) (envelope : Envelope) : Desk δ × List Entry :=
  let (answers, desk, worked) := dispatcher.answersFor desk envelope
  let (replies, driver, posted) := dispatcher.sendAll envelope.key answers desk.driver
  ({ desk with driver, replies := ReplyCache.store desk.replies envelope.key replies },
    worked ++ posted)

/-- Brings the replies that a source message has now in step with the answers to
its new text.  Gives their records after that. -/
def reconcile (source : MessageKey) (previous : List ReplyRecord) (answers : List Answer)
    (state : δ) : List ReplyRecord × δ × List Entry :=
  if answers.isEmpty then
    let (state, entries) := dispatcher.deleteAll source previous state
    ([], state, entries)
  else if previous.length = answers.length then
    dispatcher.updateAll source (previous.zip answers) state
  else
    let (state, removed) := dispatcher.deleteAll source previous state
    let (replies, state, posted) := dispatcher.sendAll source answers state
    (replies, state,
      DispatchReport.entry (.countChanged previous.length answers.length) ::
        (removed ++ posted))

/-- Answers an edited message again.  Without a cache there is nothing to keep
in step and the edit is ignored. -/
def handleEdited (desk : Desk δ) (envelope : Envelope) : Desk δ × List Entry :=
  if !desk.replies.isEnabled then (desk, [DispatchReport.entry .editIgnored])
  else
    let (answers, desk, worked) := dispatcher.answersFor desk envelope
    let (previous, cache) := desk.replies.get? envelope.key
    match previous with
    | none =>
      if answers.isEmpty then (desk, worked)
      else
        let (replies, driver, posted) := dispatcher.sendAll envelope.key answers desk.driver
        ({ desk with driver, replies := ReplyCache.store cache envelope.key replies },
          worked ++ posted)
    | some previous =>
      let (replies, driver, done) :=
        dispatcher.reconcile envelope.key previous answers desk.driver
      ({ desk with driver, replies := ReplyCache.store cache envelope.key replies }, worked ++ done)

/-- Deletes the replies of a source message that is gone. -/
def handleDeleted (desk : Desk δ) (key : MessageKey) : Desk δ × List Entry :=
  let (previous, replies) := desk.replies.remove key
  match previous with
  | some previous =>
    let (driver, entries) := dispatcher.deleteAll key previous desk.driver
    ({ desk with driver, replies }, entries)
  | none => ({ desk with replies }, [DispatchReport.entry .nothingTracked])

/-- The diagnostic text of a dispatcher at work. -/
def describe (desk : Desk δ) : String :=
  "Dispatcher \x7b responses: " ++ desk.replies.describe ++ ", settings: " ++
    dispatcher.settings.describe ++ " \x7d"

end Dispatcher

end ChatBot
