import ChatBot.Proofs.Dispatch.Steps

/-!
# What is asked of the platform

A call is a request together with the platform's answer to it.  A chat driver carries out
requests one after another, and its state goes from each to the next.  Posting, changing and
deleting replies come to lists of requests that are fixed before the first of them is made: however
the platform answers one, the others follow.  What is remembered is read off the answers.
-/

namespace ChatBot

/-- What can be asked of the platform. -/
inductive Request where
  | send (channel : String) (message : OutgoingMessage)
  | update (channel : String) (timestamp : Timestamp) (message : OutgoingMessage)
  | delete (channel : String) (timestamp : Timestamp)

namespace Request

/-- The request to post an answer to a source message. -/
def post (settings : ReplySettings) (source : MessageKey) (answer : Answer) : Request :=
  .send source.channel (settings.outgoing source.timestamp answer)

/-- The request to put an answer in the place of a reply. -/
def change (reply : ReplyRecord) (answer : Answer) : Request :=
  .update reply.channel reply.timestamp answer.replacement

/-- The request to delete a reply. -/
def deletion (reply : ReplyRecord) : Request :=
  .delete reply.channel reply.timestamp

end Request

namespace Call

/-- What a call asked for. -/
def request : Call → Request
  | send channel message _ => .send channel message
  | update channel timestamp message _ => .update channel timestamp message
  | delete channel timestamp _ => .delete channel timestamp

/-- The record of the reply that a call posted, if it was accepted. -/
def posted? : Call → Option ReplyRecord
  | send _ _ (.ok receipt) => some receipt.toReply
  | _ => none

/-- The record of a reply after a call that was to change it: it has the text of the receipt, if
there is one. -/
def changed (reply : ReplyRecord) : Call → ReplyRecord
  | update _ _ _ (.ok receipt) => { reply with text := receipt.text }
  | _ => reply

@[simp]
theorem changed_place (reply : ReplyRecord) (call : Call) :
    (changed reply call).place = reply.place := by
  unfold changed
  split <;> rfl

end Call

namespace ChatDriver

variable {δ : Type} (driver : ChatDriver δ)

/-- Carries out a request. -/
def perform (state : δ) : Request → Call × δ
  | .send channel message =>
    let (result, state) := driver.send state channel message
    (.send channel message result, state)
  | .update channel timestamp message =>
    let (result, state) := driver.update state channel timestamp message
    (.update channel timestamp message result, state)
  | .delete channel timestamp =>
    let (result, state) := driver.delete state channel timestamp
    (.delete channel timestamp result, state)

/-- Carries out requests one after another. -/
def performAll (state : δ) : List Request → List Call × δ
  | [] => ([], state)
  | request :: rest =>
    let (call, state) := driver.perform state request
    let (calls, state) := performAll state rest
    (call :: calls, state)

@[simp]
theorem performAll_nil (state : δ) : driver.performAll state [] = ([], state) :=
  rfl

theorem performAll_cons (state : δ) (request : Request) (rest : List Request) :
    driver.performAll state (request :: rest) =
      ((driver.perform state request).1 ::
          (driver.performAll (driver.perform state request).2 rest).1,
        (driver.performAll (driver.perform state request).2 rest).2) :=
  rfl

theorem performAll_append (state : δ) (first second : List Request) :
    driver.performAll state (first ++ second) =
      ((driver.performAll state first).1 ++
          (driver.performAll (driver.performAll state first).2 second).1,
        (driver.performAll (driver.performAll state first).2 second).2) := by
  induction first generalizing state with
  | nil => rfl
  | cons request rest ih => rw [List.cons_append, performAll_cons, performAll_cons, ih]; rfl

theorem request_perform (state : δ) (request : Request) :
    (driver.perform state request).1.request = request := by
  cases request <;> rfl

/-- Each request is made once, in order, whatever the platform answers. -/
theorem map_request_performAll (state : δ) (requests : List Request) :
    (driver.performAll state requests).1.map Call.request = requests := by
  induction requests generalizing state with
  | nil => rfl
  | cons request rest ih => rw [performAll_cons, List.map_cons, request_perform, ih]

/-- Nothing is posted by requests to delete. -/
theorem posted?_deletions (state : δ) (replies : List ReplyRecord) :
    (driver.performAll state (replies.map Request.deletion)).1.filterMap Call.posted? = [] := by
  induction replies generalizing state with
  | nil => rfl
  | cons reply rest ih => exact ih (driver.perform state (Request.deletion reply)).2

end ChatDriver

/-! ## Posting, changing and deleting as requests -/

namespace Dispatcher

variable {δ : Type} (dispatcher : Dispatcher δ) (source : MessageKey)

theorem sendAll_performs (answers : List Answer) (state : δ) :
    let made := dispatcher.driver.performAll state
      (answers.map (Request.post dispatcher.settings source))
    (dispatcher.sendAll source answers state).1 = made.1.filterMap Call.posted? ∧
      (dispatcher.sendAll source answers state).2.1 = made.2 ∧
      callsOf (dispatcher.sendAll source answers state).2.2 = made.1.map (.source source, ·) := by
  induction answers generalizing state with
  | nil => exact ⟨rfl, rfl, rfl⟩
  | cons answer rest ih =>
      cases answered : dispatcher.driver.send state source.channel
          (dispatcher.settings.outgoing source.timestamp answer) with
      | mk result next =>
          obtain ⟨replies_eq, state_eq, calls_eq⟩ := ih next
          cases result with
          | ok receipt =>
              simp [sendAll, answered, Request.post, ChatDriver.performAll_cons,
                ChatDriver.perform, Call.posted?, replies_eq, state_eq, calls_eq]
          | error error =>
              simp [sendAll, answered, Request.post, ChatDriver.performAll_cons,
                ChatDriver.perform, List.filterMap_cons, Call.posted?, replies_eq, state_eq,
                calls_eq]

theorem updateAll_performs (previous : List ReplyRecord) (answers : List Answer) (state : δ)
    (same : previous.length = answers.length) :
    let made := dispatcher.driver.performAll state (List.zipWith Request.change previous answers)
    (dispatcher.updateAll source (previous.zip answers) state).1 =
        List.zipWith Call.changed previous made.1 ∧
      (dispatcher.updateAll source (previous.zip answers) state).2.1 = made.2 ∧
      callsOf (dispatcher.updateAll source (previous.zip answers) state).2.2 =
        made.1.map (.source source, ·) := by
  induction previous generalizing answers state with
  | nil => exact ⟨rfl, rfl, rfl⟩
  | cons old others ih =>
      cases answers with
      | nil => simp at same
      | cons answer rest =>
          cases answered : dispatcher.driver.update state old.channel old.timestamp
              answer.replacement with
          | mk result next =>
              obtain ⟨replies_eq, state_eq, calls_eq⟩ := ih rest next (Nat.succ.inj same)
              cases result with
              | ok receipt =>
                  simp [updateAll, answered, Request.change, ChatDriver.performAll_cons,
                    ChatDriver.perform, Call.changed, replies_eq, state_eq, calls_eq]
              | error error =>
                  simp [updateAll, answered, Request.change, ChatDriver.performAll_cons,
                    ChatDriver.perform, Call.changed, replies_eq, state_eq, calls_eq]

theorem deleteAll_performs (replies : List ReplyRecord) (state : δ) :
    let made := dispatcher.driver.performAll state (replies.map Request.deletion)
    (dispatcher.deleteAll source replies state).1 = made.2 ∧
      callsOf (dispatcher.deleteAll source replies state).2 = made.1.map (.source source, ·) := by
  induction replies generalizing state with
  | nil => exact ⟨rfl, rfl⟩
  | cons reply rest ih =>
      cases answered : dispatcher.driver.delete state reply.channel reply.timestamp with
      | mk result next =>
          obtain ⟨state_eq, calls_eq⟩ := ih next
          cases result with
          | ok _ =>
              simp [deleteAll, answered, Request.deletion, ChatDriver.performAll_cons,
                ChatDriver.perform, state_eq, calls_eq]
          | error error =>
              simp [deleteAll, answered, Request.deletion, ChatDriver.performAll_cons,
                ChatDriver.perform, state_eq, calls_eq]

/-- As many answers as replies change the replies in place. -/
theorem reconcile_changes (previous : List ReplyRecord) (answers : List Answer) (state : δ)
    (same : previous.length = answers.length) :
    let made := dispatcher.driver.performAll state (List.zipWith Request.change previous answers)
    (dispatcher.reconcile source previous answers state).1 =
        List.zipWith Call.changed previous made.1 ∧
      (dispatcher.reconcile source previous answers state).2.1 = made.2 ∧
      callsOf (dispatcher.reconcile source previous answers state).2.2 =
        made.1.map (.source source, ·) := by
  cases answers with
  | nil =>
      obtain rfl := List.eq_nil_of_length_eq_zero same
      exact ⟨rfl, rfl, rfl⟩
  | cons answer rest =>
      rw [reconcile, if_neg (by simp), if_pos same]
      exact dispatcher.updateAll_performs source previous (answer :: rest) state same

/-- Another number of answers than of replies replaces all the replies by new ones. -/
theorem reconcile_replaces (previous : List ReplyRecord) (answers : List Answer) (state : δ)
    (differ : previous.length ≠ answers.length) :
    let made := dispatcher.driver.performAll state
      (previous.map Request.deletion ++ answers.map (Request.post dispatcher.settings source))
    (dispatcher.reconcile source previous answers state).1 = made.1.filterMap Call.posted? ∧
      (dispatcher.reconcile source previous answers state).2.1 = made.2 ∧
      callsOf (dispatcher.reconcile source previous answers state).2.2 =
        made.1.map (.source source, ·) := by
  obtain ⟨deleted, deletes_eq⟩ := dispatcher.deleteAll_performs source previous state
  simp only [ChatDriver.performAll_append, List.filterMap_append, ChatDriver.posted?_deletions,
    List.nil_append, List.map_append]
  rw [← deleted, ← deletes_eq]
  cases answers with
  | nil => simp [reconcile_nil_right]
  | cons answer rest =>
      obtain ⟨replies_eq, sent, posts_eq⟩ := dispatcher.sendAll_performs source (answer :: rest)
        (dispatcher.deleteAll source previous state).1
      rw [← replies_eq, ← sent, ← posts_eq, reconcile, if_neg (by simp), if_neg differ]
      simp

/-! ## Steps as requests -/

/-- A step makes the given requests and no others, for its own message, and remembers the replies
that are read off the calls. -/
structure Makes (desk : Desk δ) (step : DispatchStep) (requests : List Request)
    (replies : List Call → List ReplyRecord) : Prop where
  driver : (dispatcher.take desk step).1.driver =
    (dispatcher.driver.performAll desk.driver requests).2
  calls : callsOf (dispatcher.take desk step).2 =
    (dispatcher.driver.performAll desk.driver requests).1.map (.source step.key, ·)
  replies : (dispatcher.take desk step).1.replies =
    ReplyCache.store desk.replies step.key
      (replies (dispatcher.driver.performAll desk.driver requests).1)

variable {dispatcher} {desk : Desk δ} {step : DispatchStep}

theorem makes_changes (wellFormed : desk.replies.WellFormed)
    (same : (step.previous desk.replies).length = (dispatcher.wanted desk step).length) :
    dispatcher.Makes desk step
      (List.zipWith Request.change (step.previous desk.replies) (dispatcher.wanted desk step))
      (List.zipWith Call.changed (step.previous desk.replies)) := by
  have settled := dispatcher.settles wellFormed step
  obtain ⟨replies_eq, driver_eq, calls_eq⟩ := dispatcher.reconcile_changes step.key
    (step.previous desk.replies) (dispatcher.wanted desk step) desk.driver same
  constructor
  · exact settled.driver.trans driver_eq
  · exact settled.calls.trans calls_eq
  · rw [settled.replies, settle, replies_eq]

theorem makes_replacements (wellFormed : desk.replies.WellFormed)
    (differ : (step.previous desk.replies).length ≠ (dispatcher.wanted desk step).length) :
    dispatcher.Makes desk step
      ((step.previous desk.replies).map Request.deletion ++
        (dispatcher.wanted desk step).map (Request.post dispatcher.settings step.key))
      (List.filterMap Call.posted?) := by
  have settled := dispatcher.settles wellFormed step
  obtain ⟨replies_eq, driver_eq, calls_eq⟩ := dispatcher.reconcile_replaces step.key
    (step.previous desk.replies) (dispatcher.wanted desk step) desk.driver differ
  constructor
  · exact settled.driver.trans driver_eq
  · exact settled.calls.trans calls_eq
  · rw [settled.replies, settle, replies_eq]

/-- The calls of a step are its requests as the platform answers them. -/
theorem Makes.performed {requests : List Request} {replies : List Call → List ReplyRecord}
    (makes : dispatcher.Makes desk step requests replies) :
    let calls := (callsOf (dispatcher.take desk step).2).map Prod.snd
    calls = (dispatcher.driver.performAll desk.driver requests).1 ∧
      calls.map Call.request = requests ∧
      callsOf (dispatcher.take desk step).2 = calls.map (.source step.key, ·) ∧
      dispatcher.driver.performAll desk.driver (calls.map Call.request) =
        (calls, (dispatcher.take desk step).1.driver) := by
  intro calls
  have calls_eq : calls = (dispatcher.driver.performAll desk.driver requests).1 := by
    simp [calls, makes.calls, Function.comp_def]
  have asked : calls.map Call.request = requests := by
    rw [calls_eq, ChatDriver.map_request_performAll]
  refine ⟨calls_eq, asked, ?_, ?_⟩
  · rw [makes.calls, calls_eq]
  · rw [asked, makes.driver, calls_eq]

end Dispatcher

end ChatBot
