import ChatBot.Proofs.Dispatch.Wording

/-!
# Replies in threads

The settings of a dispatcher, and the wishes of answers that go before them, decide in which
thread an answer is posted, and nothing else.  Two dispatchers with different settings work
side by side on a platform that pays no attention to threads: they make the same calls and
come to the same records, but for the threads of what they post.  A message that takes the
place of a reply never stands in a thread of its own.
-/

namespace ChatBot

/-! ## Which thread an answer goes to -/

namespace Call

def isSend : Call → Bool
  | send _ _ _ => true
  | update _ _ _ _ | delete _ _ _ => false

/-- What a call puts in the place of a reply names no thread. -/
def LeavesThread : Call → Prop
  | update _ _ message _ => message.thread = none
  | send _ _ _ | delete _ _ _ => True

end Call

/-- A call posts an answer to a source message.  The post goes to a thread if the answer wishes
so, or if it has no wish and the settings say so; that thread is the source message's, and it is
shown outside if the answer wishes so, or if it has no wish and the settings say so. -/
def Posts (settings : ReplySettings) (source : MessageKey) (answer : Answer)
    (made : MadeCall) : Prop :=
  ∃ message result, made = (.source source, .send source.channel message result) ∧
    message.text = answer.text ∧ message.blocks = answer.blocks ∧
    (message.thread.isSome = true ↔
      answer.options.threaded.getD settings.threadedReplies = true) ∧
    ∀ thread, message.thread = some thread → thread.timestamp = source.timestamp ∧
      thread.broadcast = answer.options.broadcast.getD settings.broadcastThreadedReplies

theorem PostAttempt.posts_call (settings : ReplySettings) (source : MessageKey)
    (attempt : PostAttempt) : Posts settings source attempt.1 (attempt.call settings source) := by
  refine ⟨settings.outgoing source.timestamp attempt.1, attempt.2, rfl, rfl, rfl, ?_, ?_⟩
  · simp only [ReplySettings.outgoing]
    split <;> simp_all
  · intro thread thread_eq
    simp only [ReplySettings.outgoing] at thread_eq
    split at thread_eq
    · obtain rfl := Option.some.inj thread_eq
      exact ⟨rfl, rfl⟩
    · cases thread_eq

/-- The posts among calls are those of the answers to a source message, in order, or there are
none; and nothing that is changed is moved to a thread. -/
structure Threaded (settings : ReplySettings) (source : MessageKey) (answers : List Answer)
    (calls : List MadeCall) : Prop where
  posts : calls.filter (·.2.isSend) = [] ∨
    List.Forall₂ (Posts settings source) answers (calls.filter (·.2.isSend))
  changes : ∀ made ∈ calls, made.2.LeavesThread

theorem Reconciled.threaded {settings : ReplySettings} {source : MessageKey}
    {previous replies : List ReplyRecord} {answers : List Answer} {calls : List MadeCall}
    (reconciled : Reconciled settings source previous answers calls replies) :
    Threaded settings source answers calls := by
  cases reconciled with
  | changed attempts same changes =>
      refine ⟨Or.inl ?_, ?_⟩
      · rw [List.filter_eq_nil_iff, List.forall_mem_map]
        exact fun attempt _ => Bool.false_ne_true
      · rw [List.forall_mem_map]
        exact fun attempt _ => rfl
  | replaced deletions posts differ deleted posted =>
      have none : (deletions.map (DeleteAttempt.call source)).filter (·.2.isSend) = [] := by
        rw [List.filter_eq_nil_iff, List.forall_mem_map]
        exact fun attempt _ => Bool.false_ne_true
      have all : (posts.map (PostAttempt.call settings source)).filter (·.2.isSend) =
          posts.map (PostAttempt.call settings source) := by
        rw [List.filter_eq_self, List.forall_mem_map]
        exact fun attempt _ => rfl
      refine ⟨Or.inr ?_, ?_⟩
      · rw [List.filter_append, none, all, List.nil_append, ← posted, List.forall₂_map_left_iff,
          List.forall₂_map_right_iff]
        exact List.forall₂_same.mpr fun attempt _ =>
          PostAttempt.posts_call settings source attempt
      · rw [List.forall_mem_append, List.forall_mem_map, List.forall_mem_map]
        exact ⟨fun attempt _ => trivial, fun attempt _ => trivial⟩

/-! ## What differs in threads only -/

def OutgoingMessage.unthreaded (message : OutgoingMessage) : OutgoingMessage :=
  { message with thread := none }

/-- The entry with a post for a source message taken out of its thread. -/
def Entry.unthreaded : Entry → Entry
  | call (.source source) (.send channel message result) =>
    call (.source source) (.send channel message.unthreaded result)
  | entry => entry

theorem ReplySettings.unthreaded_outgoing (settings settings' : ReplySettings)
    (source : Timestamp) (answer : Answer) :
    (settings.outgoing source answer).unthreaded = (settings'.outgoing source answer).unthreaded :=
  rfl

variable {δ : Type}

/-- A platform pays no attention to threads: in states that are alike it gives the same results
and gets to states that are alike, whatever the threads of messages. -/
structure ChatDriver.ThreadBlind (driver : ChatDriver δ) (alike : δ → δ → Prop) : Prop where
  send : ∀ {state state'}, alike state state' → ∀ channel {message message'},
    OutgoingMessage.unthreaded message = OutgoingMessage.unthreaded message' →
      (driver.send state channel message).1 = (driver.send state' channel message').1 ∧
        alike (driver.send state channel message).2 (driver.send state' channel message').2
  update : ∀ {state state'}, alike state state' → ∀ channel timestamp message,
    (driver.update state channel timestamp message).1 =
        (driver.update state' channel timestamp message).1 ∧
      alike (driver.update state channel timestamp message).2
        (driver.update state' channel timestamp message).2
  delete : ∀ {state state'}, alike state state' → ∀ channel timestamp,
    (driver.delete state channel timestamp).1 = (driver.delete state' channel timestamp).1 ∧
      alike (driver.delete state channel timestamp).2 (driver.delete state' channel timestamp).2

theorem MemoryPlatform.threadBlind : driver.ThreadBlind Alike where
  send {state state'} alike channel message message' same := by
    obtain ⟨next, failing⟩ := alike
    obtain ⟨text_eq, -, -⟩ := OutgoingMessage.mk.inj same
    simp only [driver, send, failing, next, text_eq]
    split
    · exact ⟨rfl, next, failing⟩
    · exact ⟨rfl, rfl, rfl⟩
  update {state state'} alike channel timestamp message := by
    obtain ⟨next, failing⟩ := alike
    simp only [driver, update, failing]
    split
    · exact ⟨rfl, next, failing⟩
    · exact ⟨rfl, next, rfl⟩
  delete := textBlind.delete

theorem Scripted.threadBlind (redirect : List (String × String)) {inner : ChatDriver δ}
    {alike : δ → δ → Prop} (blind : inner.ThreadBlind alike) :
    (driver redirect inner).ThreadBlind (Alike alike) where
  send start channel message message' same := by
    obtain ⟨outcome, after⟩ := guarded_alike Eq (fun _ => rfl)
      (fun related => blind.send related channel same) start
    exact ⟨congrArg (Except.map (redirectReceipt redirect)) outcome, after⟩
  update start channel timestamp message := by
    obtain ⟨outcome, after⟩ := guarded_alike Eq (fun _ => rfl)
      (fun related => blind.update related channel timestamp message) start
    exact ⟨congrArg (Except.map (redirectReceipt redirect)) outcome, after⟩
  delete start channel timestamp :=
    guarded_alike Eq (fun _ => rfl) (fun related => blind.delete related channel timestamp) start

/-! ## Dispatchers with different settings -/

def Dispatcher.withSettings (dispatcher : Dispatcher δ) (settings : ReplySettings) :
    Dispatcher δ :=
  { dispatcher with settings }

/-- What two dispatchers come to that differ in threads only: the same replies on record, states
of the platform that are alike, and the same entries outside any threads. -/
structure ThreadsApart (alike : δ → δ → Prop) (first second : List ReplyRecord × δ × List Entry) :
    Prop where
  replies : first.1 = second.1
  driver : alike first.2.1 second.2.1
  entries : first.2.2.map Entry.unthreaded = second.2.2.map Entry.unthreaded

/-- Two desks with the same records, on platforms that are alike. -/
structure Desk.Matches (alike : δ → δ → Prop) (first second : Desk δ) : Prop where
  replies : first.replies = second.replies
  users : first.users = second.users
  driver : alike first.driver second.driver

namespace Dispatcher

/-- Which answers are wanted, and which users are looked up for them, does not depend on the
settings, nor on the state of the platform. -/
theorem answersFor_withSettings (dispatcher : Dispatcher δ) (settings : ReplySettings)
    (replies : ReplyCache) (users : UserCache) (driver driver' : δ) (envelope : Envelope) :
    ∃ answers known worked,
      dispatcher.answersFor ⟨replies, users, driver⟩ envelope =
          (answers, ⟨replies, known, driver⟩, worked) ∧
        (dispatcher.withSettings settings).answersFor ⟨replies, users, driver'⟩ envelope =
          (answers, ⟨replies, known, driver'⟩, worked) :=
  ⟨_, _, _, rfl, rfl⟩

variable (dispatcher : Dispatcher δ) {alike : δ → δ → Prop}
  (blind : dispatcher.driver.ThreadBlind alike) (settings : ReplySettings)

include blind

theorem sendAll_threadsApart (source : MessageKey) (answers : List Answer) {state state' : δ}
    (start : alike state state') :
    ThreadsApart alike (dispatcher.sendAll source answers state)
      ((dispatcher.withSettings settings).sendAll source answers state') := by
  induction answers generalizing state state' with
  | nil => exact ⟨rfl, start, rfl⟩
  | cons answer rest ih =>
      have same := dispatcher.settings.unthreaded_outgoing settings source.timestamp answer
      obtain ⟨result_eq, next⟩ := blind.send start source.channel same
      obtain ⟨replies, driver, entries⟩ := ih next
      simp only [sendAll, withSettings, ← result_eq] at replies driver entries ⊢
      cases (dispatcher.driver.send state source.channel
          (dispatcher.settings.outgoing source.timestamp answer)).1 with
      | ok receipt =>
          refine ⟨congrArg (receipt.toReply :: ·) replies, driver, ?_⟩
          simp only [List.map_cons, entries, Entry.unthreaded, same]
      | error error =>
          refine ⟨replies, driver, ?_⟩
          simp only [List.map_cons, entries, Entry.unthreaded, same]

theorem updateAll_threadsApart (source : MessageKey) (changes : List (ReplyRecord × Answer))
    {state state' : δ} (start : alike state state') :
    ThreadsApart alike (dispatcher.updateAll source changes state)
      ((dispatcher.withSettings settings).updateAll source changes state') := by
  induction changes generalizing state state' with
  | nil => exact ⟨rfl, start, rfl⟩
  | cons change rest ih =>
      obtain ⟨old, answer⟩ := change
      obtain ⟨result_eq, next⟩ :=
        blind.update start old.channel old.timestamp answer.replacement
      obtain ⟨replies, driver, entries⟩ := ih next
      simp only [updateAll, withSettings, ← result_eq] at replies driver entries ⊢
      cases (dispatcher.driver.update state old.channel old.timestamp answer.replacement).1 with
      | ok receipt =>
          exact ⟨congrArg ({ old with text := receipt.text } :: ·) replies, driver,
            by simp only [List.map_cons, entries]⟩
      | error error =>
          exact ⟨congrArg (old :: ·) replies, driver, by simp only [List.map_cons, entries]⟩

theorem deleteAll_threadsApart (source : MessageKey) (previous : List ReplyRecord)
    {state state' : δ} (start : alike state state') :
    alike (dispatcher.deleteAll source previous state).1
        ((dispatcher.withSettings settings).deleteAll source previous state').1 ∧
      (dispatcher.deleteAll source previous state).2.map Entry.unthreaded =
        ((dispatcher.withSettings settings).deleteAll source previous state').2.map
          Entry.unthreaded := by
  induction previous generalizing state state' with
  | nil => exact ⟨start, rfl⟩
  | cons reply rest ih =>
      obtain ⟨result_eq, next⟩ := blind.delete start reply.channel reply.timestamp
      obtain ⟨driver, entries⟩ := ih next
      simp only [deleteAll, withSettings, ← result_eq] at driver entries ⊢
      cases (dispatcher.driver.delete state reply.channel reply.timestamp).1 with
      | ok result => exact ⟨driver, by simp only [List.map_cons, entries]⟩
      | error error => exact ⟨driver, by simp only [List.map_cons, entries]⟩

theorem reconcile_threadsApart (source : MessageKey) (previous : List ReplyRecord)
    (answers : List Answer) {state state' : δ} (start : alike state state') :
    ThreadsApart alike (dispatcher.reconcile source previous answers state)
      ((dispatcher.withSettings settings).reconcile source previous answers state') := by
  obtain ⟨deleted, removed⟩ :=
    dispatcher.deleteAll_threadsApart blind settings source previous start
  unfold reconcile
  split
  · exact ⟨rfl, deleted, removed⟩
  · split
    · exact dispatcher.updateAll_threadsApart blind settings source _ start
    · obtain ⟨replies, driver, posted⟩ :=
        dispatcher.sendAll_threadsApart blind settings source answers deleted
      refine ⟨replies, driver, ?_⟩
      simp only [List.map_cons, List.map_append, removed, posted]

variable {desk desk' : Desk δ} (start : desk.Matches alike desk')

include start

theorem handleNew_threadsApart (envelope : Envelope) :
    let first := dispatcher.handleNew desk envelope
    let second := (dispatcher.withSettings settings).handleNew desk' envelope
    first.1.Matches alike second.1 ∧
      first.2.map Entry.unthreaded = second.2.map Entry.unthreaded := by
  obtain ⟨replies, users, driver⟩ := desk
  obtain ⟨replies', users', driver'⟩ := desk'
  obtain ⟨rfl, rfl, related⟩ := start
  obtain ⟨answers, known, worked, answered, answered'⟩ :=
    dispatcher.answersFor_withSettings settings replies users driver driver' envelope
  obtain ⟨replies_eq, driver_alike, posted⟩ :=
    dispatcher.sendAll_threadsApart blind settings envelope.key answers related
  simp only [handleNew, answered, answered']
  refine ⟨⟨congrArg (ReplyCache.store replies envelope.key) replies_eq, rfl, driver_alike⟩, ?_⟩
  simp only [List.map_append, posted]

theorem handleEdited_threadsApart (envelope : Envelope) :
    let first := dispatcher.handleEdited desk envelope
    let second := (dispatcher.withSettings settings).handleEdited desk' envelope
    first.1.Matches alike second.1 ∧
      first.2.map Entry.unthreaded = second.2.map Entry.unthreaded := by
  obtain ⟨replies, users, driver⟩ := desk
  obtain ⟨replies', users', driver'⟩ := desk'
  obtain ⟨rfl, rfl, related⟩ := start
  obtain ⟨answers, known, worked, answered, answered'⟩ :=
    dispatcher.answersFor_withSettings settings replies users driver driver' envelope
  simp only [handleEdited, answered, answered']
  split
  · exact ⟨⟨rfl, rfl, related⟩, rfl⟩
  · cases Lru.get? replies envelope.key with
    | mk previous cache =>
        cases previous with
        | none =>
            simp only
            split
            · exact ⟨⟨rfl, rfl, related⟩, rfl⟩
            · obtain ⟨replies_eq, driver_alike, posted⟩ :=
                dispatcher.sendAll_threadsApart blind settings envelope.key answers related
              refine ⟨⟨congrArg (ReplyCache.store cache envelope.key) replies_eq, rfl,
                driver_alike⟩, ?_⟩
              simp only [List.map_append, posted]
        | some previous =>
            obtain ⟨replies_eq, driver_alike, done⟩ :=
              dispatcher.reconcile_threadsApart blind settings envelope.key previous answers related
            refine ⟨⟨congrArg (ReplyCache.store cache envelope.key) replies_eq, rfl,
              driver_alike⟩, ?_⟩
            simp only [List.map_append, done]

theorem handleDeleted_threadsApart (key : MessageKey) :
    let first := dispatcher.handleDeleted desk key
    let second := (dispatcher.withSettings settings).handleDeleted desk' key
    first.1.Matches alike second.1 ∧
      first.2.map Entry.unthreaded = second.2.map Entry.unthreaded := by
  obtain ⟨replies, users, driver⟩ := desk
  obtain ⟨replies', users', driver'⟩ := desk'
  obtain ⟨rfl, rfl, related⟩ := start
  simp only [handleDeleted]
  cases (Lru.remove replies key).1 with
  | none => exact ⟨⟨rfl, rfl, related⟩, rfl⟩
  | some previous =>
      obtain ⟨driver_alike, removed⟩ :=
        dispatcher.deleteAll_threadsApart blind settings key previous related
      exact ⟨⟨rfl, rfl, driver_alike⟩, removed⟩

/-- A step takes desks that match to desks that match, whatever the settings. -/
theorem take_threadsApart (step : DispatchStep) :
    let first := dispatcher.take desk step
    let second := (dispatcher.withSettings settings).take desk' step
    first.1.Matches alike second.1 ∧
      first.2.map Entry.unthreaded = second.2.map Entry.unthreaded := by
  cases step with
  | posted envelope => exact dispatcher.handleNew_threadsApart blind settings start envelope
  | edited envelope => exact dispatcher.handleEdited_threadsApart blind settings start envelope
  | deleted key => exact dispatcher.handleDeleted_threadsApart blind settings start key

end Dispatcher

end ChatBot
