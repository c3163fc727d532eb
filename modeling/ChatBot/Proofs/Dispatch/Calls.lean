import ChatBot.Dispatch

/-!
# The calls of a dispatcher

A call of the chat driver together with the one on whose behalf it is made, and
the attempts that the dispatcher makes to post, to change and to delete replies.
An attempt is what was to be done with the platform's answer to it.  Posting,
changing and deleting make one call for each attempt, in order, whatever becomes
of the others, and the attempts alone decide which replies are remembered.
-/

namespace ChatBot

/-- A call of the chat driver, with the one on whose behalf it is made. -/
abbrev MadeCall := Origin × Call

namespace Entry

/-- The call of an entry with its origin, if it is one. -/
def made? : Entry → Option MadeCall
  | call origin made => some (origin, made)
  | log _ => none

end Entry

/-- The calls among entries. -/
def callsOf (entries : List Entry) : List MadeCall :=
  entries.filterMap Entry.made?

@[simp]
theorem callsOf_nil : callsOf [] = [] :=
  rfl

@[simp]
theorem callsOf_append (first second : List Entry) :
    callsOf (first ++ second) = callsOf first ++ callsOf second :=
  List.filterMap_append

@[simp]
theorem callsOf_call (origin : Origin) (made : Call) (rest : List Entry) :
    callsOf (.call origin made :: rest) = (origin, made) :: callsOf rest :=
  rfl

@[simp]
theorem callsOf_log (event : LogEvent) (rest : List Entry) :
    callsOf (.log event :: rest) = callsOf rest :=
  rfl

@[simp]
theorem callsOf_dispatchReport (report : DispatchReport) (rest : List Entry) :
    callsOf (report.entry :: rest) = callsOf rest :=
  rfl

@[simp]
theorem callsOf_logs (events : List LogEvent) : callsOf (events.map Entry.log) = [] := by
  induction events with
  | nil => rfl
  | cons event rest ih => exact ih

namespace Receipt

/-- The place of the message that a receipt is about. -/
def place (receipt : Receipt) : MessageKey :=
  ⟨receipt.channel, receipt.timestamp⟩

end Receipt

namespace ReplyRecord

/-- The place of a reply. -/
def place (reply : ReplyRecord) : MessageKey :=
  ⟨reply.channel, reply.timestamp⟩

end ReplyRecord

namespace Call

/-- The message that an update or a deletion is aimed at. -/
def target? : Call → Option MessageKey
  | send _ _ _ => none
  | update channel timestamp _ _ => some ⟨channel, timestamp⟩
  | delete channel timestamp _ => some ⟨channel, timestamp⟩

/-- The timestamp that a successful send was given. -/
def postedTimestamp? : Call → Option Timestamp
  | send _ _ (.ok receipt) => some receipt.timestamp
  | _ => none

/-- The timestamp of the message that a deletion is aimed at. -/
def deletedTimestamp? : Call → Option Timestamp
  | delete _ timestamp _ => some timestamp
  | _ => none

end Call

/-- An attempt to post an answer, with the platform's answer to it. -/
abbrev PostAttempt := Answer × Except ApiError Receipt

/-- An attempt to change a reply, with the platform's answer to it. -/
abbrev ChangeAttempt := (ReplyRecord × Answer) × Except ApiError Receipt

/-- An attempt to delete a reply, with the platform's answer to it. -/
abbrev DeleteAttempt := ReplyRecord × Except ApiError Unit

namespace PostAttempt

/-- The call of an attempt to post. -/
def call (settings : ReplySettings) (source : MessageKey) (attempt : PostAttempt) : MadeCall :=
  (.source source,
    .send source.channel (settings.outgoing source.timestamp attempt.1) attempt.2)

/-- The reply that is remembered after an attempt to post, if it was accepted. -/
def reply? (attempt : PostAttempt) : Option ReplyRecord :=
  match attempt.2 with
  | .ok receipt => some receipt.toReply
  | .error _ => none

@[simp]
theorem reply?_ok (answer : Answer) (receipt : Receipt) :
    reply? (answer, .ok receipt) = some receipt.toReply :=
  rfl

@[simp]
theorem reply?_error (answer : Answer) (error : ApiError) : reply? (answer, .error error) = none :=
  rfl

end PostAttempt

namespace ChangeAttempt

/-- The call of an attempt to change a reply. -/
def call (source : MessageKey) (attempt : ChangeAttempt) : MadeCall :=
  (.source source,
    .update attempt.1.1.channel attempt.1.1.timestamp attempt.1.2.replacement attempt.2)

/-- The reply that is remembered after an attempt to change it. -/
def reply (attempt : ChangeAttempt) : ReplyRecord :=
  match attempt.2 with
  | .ok receipt => { attempt.1.1 with text := receipt.text }
  | .error _ => attempt.1.1

@[simp]
theorem reply_place (attempt : ChangeAttempt) : attempt.reply.place = attempt.1.1.place := by
  obtain ⟨⟨old, answer⟩, result⟩ := attempt
  cases result <;> rfl

@[simp]
theorem reply_timestamp (attempt : ChangeAttempt) :
    attempt.reply.timestamp = attempt.1.1.timestamp :=
  congrArg MessageKey.timestamp attempt.reply_place

variable {attempts : List ChangeAttempt} {previous : List ReplyRecord} {answers : List Answer}

theorem map_old (same : previous.length = answers.length)
    (changes : attempts.map Prod.fst = previous.zip answers) :
    attempts.map (fun attempt => attempt.1.1) = previous := by
  have olds : (attempts.map Prod.fst).map Prod.fst = previous := by
    rw [changes, List.map_fst_zip (Nat.le_of_eq same)]
  rw [List.map_map] at olds
  exact olds

/-- Changed replies stay where they are. -/
theorem map_reply_place (same : previous.length = answers.length)
    (changes : attempts.map Prod.fst = previous.zip answers) :
    (attempts.map reply).map (·.place) = previous.map (·.place) := by
  rw [← map_old same changes, List.map_map, List.map_map]
  apply List.map_congr_left
  intro attempt _
  exact attempt.reply_place

end ChangeAttempt

namespace DeleteAttempt

/-- The call of an attempt to delete a reply. -/
def call (source : MessageKey) (attempt : DeleteAttempt) : MadeCall :=
  (.source source, .delete attempt.1.channel attempt.1.timestamp attempt.2)

end DeleteAttempt

namespace Dispatcher

variable {δ : Type} (dispatcher : Dispatcher δ)

/-- Posting makes one attempt for each answer and remembers those accepted. -/
theorem sendAll_attempts (source : MessageKey) (answers : List Answer) (state : δ) :
    ∃ attempts : List PostAttempt, attempts.map Prod.fst = answers ∧
      callsOf (dispatcher.sendAll source answers state).2.2 =
        attempts.map (PostAttempt.call dispatcher.settings source) ∧
      (dispatcher.sendAll source answers state).1 = attempts.filterMap PostAttempt.reply? := by
  induction answers generalizing state with
  | nil => exact ⟨[], rfl, rfl, rfl⟩
  | cons answer rest ih =>
      cases answered : dispatcher.driver.send state source.channel
          (dispatcher.settings.outgoing source.timestamp answer) with
      | mk result next =>
          obtain ⟨attempts, answers_eq, calls_eq, replies_eq⟩ := ih next
          refine ⟨(answer, result) :: attempts, by simp [answers_eq], ?_⟩
          cases result with
          | ok receipt => simp [sendAll, answered, calls_eq, replies_eq, PostAttempt.call]
          | error error =>
              simp [sendAll, answered, calls_eq, replies_eq, PostAttempt.call, List.filterMap_cons]

theorem updateAll_attempts (source : MessageKey) (changes : List (ReplyRecord × Answer))
    (state : δ) :
    ∃ attempts : List ChangeAttempt, attempts.map Prod.fst = changes ∧
      callsOf (dispatcher.updateAll source changes state).2.2 =
        attempts.map (ChangeAttempt.call source) ∧
      (dispatcher.updateAll source changes state).1 = attempts.map ChangeAttempt.reply := by
  induction changes generalizing state with
  | nil => exact ⟨[], rfl, rfl, rfl⟩
  | cons change rest ih =>
      obtain ⟨old, answer⟩ := change
      cases answered : dispatcher.driver.update state old.channel old.timestamp
          answer.replacement with
      | mk result next =>
          obtain ⟨attempts, changes_eq, calls_eq, replies_eq⟩ := ih next
          refine ⟨((old, answer), result) :: attempts, by simp [changes_eq], ?_⟩
          cases result with
          | ok receipt =>
              simp [updateAll, answered, calls_eq, replies_eq, ChangeAttempt.call,
                ChangeAttempt.reply]
          | error error =>
              simp [updateAll, answered, calls_eq, replies_eq, ChangeAttempt.call,
                ChangeAttempt.reply]

theorem deleteAll_attempts (source : MessageKey) (replies : List ReplyRecord) (state : δ) :
    ∃ attempts : List DeleteAttempt, attempts.map Prod.fst = replies ∧
      callsOf (dispatcher.deleteAll source replies state).2 =
        attempts.map (DeleteAttempt.call source) := by
  induction replies generalizing state with
  | nil => exact ⟨[], rfl, rfl⟩
  | cons reply rest ih =>
      cases answered : dispatcher.driver.delete state reply.channel reply.timestamp with
      | mk result next =>
          obtain ⟨attempts, replies_eq, calls_eq⟩ := ih next
          refine ⟨(reply, result) :: attempts, by simp [replies_eq], ?_⟩
          cases result with
          | ok _ => simp [deleteAll, answered, calls_eq, DeleteAttempt.call]
          | error error => simp [deleteAll, answered, calls_eq, DeleteAttempt.call]

end Dispatcher

/-- What can become of the replies to a source message when they are brought in
step with answers: the calls that are made and the replies that are remembered.
As many answers as replies change them in place; otherwise the replies are all
deleted and the answers posted. -/
inductive Reconciled (settings : ReplySettings) (source : MessageKey)
    (previous : List ReplyRecord) (answers : List Answer) :
    List MadeCall → List ReplyRecord → Prop where
  | changed (attempts : List ChangeAttempt) (same : previous.length = answers.length)
      (changes : attempts.map Prod.fst = previous.zip answers) :
      Reconciled settings source previous answers (attempts.map (ChangeAttempt.call source))
        (attempts.map ChangeAttempt.reply)
  | replaced (deletions : List DeleteAttempt) (posts : List PostAttempt)
      (differ : previous.length ≠ answers.length) (deleted : deletions.map Prod.fst = previous)
      (posted : posts.map Prod.fst = answers) :
      Reconciled settings source previous answers
        (deletions.map (DeleteAttempt.call source) ++ posts.map (PostAttempt.call settings source))
        (posts.filterMap PostAttempt.reply?)

theorem Reconciled.origin_eq {settings : ReplySettings} {source : MessageKey}
    {previous replies : List ReplyRecord} {answers : List Answer} {calls : List MadeCall}
    (reconciled : Reconciled settings source previous answers calls replies) :
    ∀ made ∈ calls, made.1 = .source source := by
  intro made member
  cases reconciled with
  | changed attempts same changes =>
      obtain ⟨attempt, -, rfl⟩ := List.mem_map.mp member
      rfl
  | replaced deletions posts differ deleted posted =>
      rcases List.mem_append.mp member with member | member
      · obtain ⟨attempt, -, rfl⟩ := List.mem_map.mp member
        rfl
      · obtain ⟨attempt, -, rfl⟩ := List.mem_map.mp member
        rfl

theorem Dispatcher.reconcile_reconciled {δ : Type} (dispatcher : Dispatcher δ)
    (source : MessageKey) (previous : List ReplyRecord) (answers : List Answer) (state : δ) :
    Reconciled dispatcher.settings source previous answers
      (callsOf (dispatcher.reconcile source previous answers state).2.2)
      (dispatcher.reconcile source previous answers state).1 := by
  by_cases same : previous.length = answers.length
  · obtain ⟨attempts, changes, calls_eq, replies_eq⟩ :=
      dispatcher.updateAll_attempts source (previous.zip answers) state
    cases answers with
    | nil =>
        have none := List.eq_nil_of_length_eq_zero same
        subst none
        exact .changed [] rfl rfl
    | cons answer rest =>
        rw [Dispatcher.reconcile, if_neg (by simp), if_pos same, calls_eq, replies_eq]
        exact .changed attempts same changes
  · obtain ⟨deletions, deleted, deletes_eq⟩ :=
      dispatcher.deleteAll_attempts source previous state
    cases answers with
    | nil =>
        have whole : Reconciled dispatcher.settings source previous [] _ _ :=
          .replaced deletions [] same deleted rfl
        simpa [Dispatcher.reconcile, deletes_eq] using whole
    | cons answer rest =>
        obtain ⟨posts, posted, posts_eq, replies_eq⟩ :=
          dispatcher.sendAll_attempts source (answer :: rest)
            (dispatcher.deleteAll source previous state).1
        have whole : Reconciled dispatcher.settings source previous (answer :: rest) _ _ :=
          .replaced deletions posts same deleted posted
        rw [Dispatcher.reconcile, if_neg (by simp), if_neg same]
        simpa [deletes_eq, posts_eq, replies_eq] using whole

end ChatBot
