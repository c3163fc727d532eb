import ChatBot.Proofs.Cache.Recency
import ChatBot.Proofs.Dispatch.Calls

/-!
# The steps of a dispatcher

A dispatcher is told about messages that are new, edited or gone.  Whatever it is
told, it does one thing: it takes the replies that it finds, brings them in step
with the answers that are wanted now, and remembers what comes of it.  New
messages find no replies, and messages that are gone want no answers.
-/

namespace ChatBot

/-- What a dispatcher is told about a message. -/
inductive DispatchStep where
  | posted (envelope : Envelope)
  | edited (envelope : Envelope)
  | deleted (key : MessageKey)

namespace DispatchStep

/-- The message that a step is about. -/
@[simp]
def key : DispatchStep → MessageKey
  | posted envelope => envelope.key
  | edited envelope => envelope.key
  | deleted key => key

/-- The replies that a step finds.  A new message does not look for any. -/
@[simp]
def previous (cache : ReplyCache) : DispatchStep → List ReplyRecord
  | posted _ => []
  | edited envelope => cache.repliesTo envelope.key
  | deleted key => cache.repliesTo key

/-- The replies that a step finds are those on record, unless the message is new. -/
theorem posted_or_previous_eq (cache : ReplyCache) (step : DispatchStep) :
    (∃ envelope, step = .posted envelope) ∨ step.previous cache = cache.repliesTo step.key := by
  cases step with
  | posted envelope => exact Or.inl ⟨envelope, rfl⟩
  | edited envelope => exact Or.inr rfl
  | deleted key => exact Or.inr rfl

theorem previous_eq (cache : ReplyCache) (step : DispatchStep) :
    step.previous cache = [] ∨ step.previous cache = cache.repliesTo step.key := by
  rcases step.posted_or_previous_eq cache with ⟨envelope, rfl⟩ | found
  · exact Or.inl rfl
  · exact Or.inr found

theorem previous_eq_nil_or_mem (cache : ReplyCache) (step : DispatchStep) :
    step.previous cache = [] ∨ (step.key, step.previous cache) ∈ cache.entries := by
  by_cases none : step.previous cache = []
  · exact Or.inl none
  · have found := (step.previous_eq cache).resolve_left none
    rw [found] at none ⊢
    exact Or.inr (ReplyCache.mem_entries_of_repliesTo none)

end DispatchStep

namespace Dispatcher

variable {δ : Type} (dispatcher : Dispatcher δ)

/-- Takes a step. -/
def take (desk : Desk δ) : DispatchStep → Desk δ × List Entry
  | .posted envelope => dispatcher.handleNew desk envelope
  | .edited envelope => dispatcher.handleEdited desk envelope
  | .deleted key => dispatcher.handleDeleted desk key

/-- Takes steps one after the other. -/
def takeAll (desk : Desk δ) : List DispatchStep → Desk δ × List Entry
  | [] => (desk, [])
  | step :: rest =>
    let (desk, entries) := dispatcher.take desk step
    let (desk, others) := takeAll desk rest
    (desk, entries ++ others)

/-- The answers that are wanted after a step: none to a message that is gone, and
none to an edit that is ignored. -/
def wanted (desk : Desk δ) : DispatchStep → List Answer
  | .posted envelope => (dispatcher.answersFor desk envelope).1
  | .edited envelope =>
    if desk.replies.isEnabled then (dispatcher.answersFor desk envelope).1 else []
  | .deleted _ => []

/-- Brings the replies that a step finds in step with the answers that are
wanted. -/
def settle (desk : Desk δ) (step : DispatchStep) : List ReplyRecord × δ × List Entry :=
  dispatcher.reconcile step.key (step.previous desk.replies) (dispatcher.wanted desk step)
    desk.driver

@[simp]
theorem takeAll_nil (desk : Desk δ) : dispatcher.takeAll desk [] = (desk, []) :=
  rfl

theorem takeAll_cons (desk : Desk δ) (step : DispatchStep) (rest : List DispatchStep) :
    dispatcher.takeAll desk (step :: rest) =
      ((dispatcher.takeAll (dispatcher.take desk step).1 rest).1,
        (dispatcher.take desk step).2 ++
          (dispatcher.takeAll (dispatcher.take desk step).1 rest).2) :=
  rfl

theorem takeAll_append (desk : Desk δ) (first second : List DispatchStep) :
    dispatcher.takeAll desk (first ++ second) =
      ((dispatcher.takeAll (dispatcher.takeAll desk first).1 second).1,
        (dispatcher.takeAll desk first).2 ++
          (dispatcher.takeAll (dispatcher.takeAll desk first).1 second).2) := by
  induction first generalizing desk with
  | nil => rfl
  | cons step rest ih =>
      rw [List.cons_append, takeAll_cons, ih, takeAll_cons, List.append_assoc]

theorem takeAll_concat (desk : Desk δ) (steps : List DispatchStep) (step : DispatchStep) :
    dispatcher.takeAll desk (steps ++ [step]) =
      ((dispatcher.take (dispatcher.takeAll desk steps).1 step).1,
        (dispatcher.takeAll desk steps).2 ++
          (dispatcher.take (dispatcher.takeAll desk steps).1 step).2) := by
  rw [takeAll_append, takeAll_cons, takeAll_nil, List.append_nil]

theorem reconcile_nil_right (source : MessageKey) (previous : List ReplyRecord) (state : δ) :
    dispatcher.reconcile source previous [] state =
      ([], dispatcher.deleteAll source previous state) :=
  rfl

theorem reconcile_nil_left (source : MessageKey) (answers : List Answer) (state : δ) :
    (dispatcher.reconcile source [] answers state).1 = (dispatcher.sendAll source answers state).1 ∧
      (dispatcher.reconcile source [] answers state).2.1 =
        (dispatcher.sendAll source answers state).2.1 ∧
      callsOf (dispatcher.reconcile source [] answers state).2.2 =
        callsOf (dispatcher.sendAll source answers state).2.2 := by
  cases answers with
  | nil => exact ⟨rfl, rfl, rfl⟩
  | cons answer rest => exact ⟨rfl, rfl, rfl⟩

/-- A step comes to the replies and calls that settling it comes to. -/
structure Settles (desk : Desk δ) (step : DispatchStep) : Prop where
  replies : (dispatcher.take desk step).1.replies =
    ReplyCache.store desk.replies step.key (dispatcher.settle desk step).1
  driver : (dispatcher.take desk step).1.driver = (dispatcher.settle desk step).2.1
  calls : callsOf (dispatcher.take desk step).2 = callsOf (dispatcher.settle desk step).2.2

theorem settles_posted (desk : Desk δ) (envelope : Envelope) :
    dispatcher.Settles desk (.posted envelope) := by
  obtain ⟨replies_eq, driver_eq, calls_eq⟩ :=
    dispatcher.reconcile_nil_left envelope.key (dispatcher.answersFor desk envelope).1 desk.driver
  constructor
  · simp only [settle, DispatchStep.key, DispatchStep.previous, wanted, replies_eq]
    rfl
  · simp only [settle, DispatchStep.key, DispatchStep.previous, wanted, driver_eq]
    rfl
  · simp only [settle, DispatchStep.key, DispatchStep.previous, wanted, calls_eq]
    simp [take, handleNew, answersFor]

theorem settles_edited_off {desk : Desk δ} (wellFormed : desk.replies.WellFormed)
    (envelope : Envelope) (off : desk.replies.capacity = 0) :
    dispatcher.Settles desk (.edited envelope) := by
  have absent : desk.replies.peek? envelope.key = none := by
    simp [Lru.peek?, wellFormed.entries_eq_nil off]
  have previous_eq : desk.replies.repliesTo envelope.key = [] := by
    simp [ReplyCache.repliesTo, absent]
  have removed := Lru.remove_eq_self absent
  have disabled : desk.replies.isEnabled = false := by
    simp [Lru.isEnabled, off]
  constructor
  · simp [settle, wanted, take, handleEdited, previous_eq, disabled, removed,
      reconcile_nil_right]
  · simp [settle, wanted, take, handleEdited, previous_eq, disabled, reconcile_nil_right,
      deleteAll]
  · simp [settle, wanted, take, handleEdited, previous_eq, disabled, reconcile_nil_right,
      deleteAll]

/-- Where nothing is tracked, an edited message is answered like a new one. -/
theorem settles_edited_untracked {desk : Desk δ} (envelope : Envelope)
    (enabled : desk.replies.isEnabled = true) (absent : desk.replies.peek? envelope.key = none) :
    dispatcher.Settles desk (.edited envelope) := by
  have got : desk.replies.get? envelope.key = (none, desk.replies) := by
    simp [Lru.get?, absent]
  have previous_eq : desk.replies.repliesTo envelope.key = [] := by
    simp [ReplyCache.repliesTo, absent]
  have removed := Lru.remove_eq_self absent
  cases answers_eq :
      ((dispatcher.registry.answersFor envelope).run dispatcher.users desk.users).1 with
  | nil =>
      -- The handler returns at once, which reconciling nothing with nothing comes to as well.
      constructor <;>
        simp [settle, wanted, take, handleEdited, previous_eq, enabled, got, answersFor,
          answers_eq, reconcile_nil_right, deleteAll, removed]
  | cons answer rest =>
      obtain ⟨replies_eq, driver_eq, calls_eq⟩ :=
        dispatcher.reconcile_nil_left envelope.key (answer :: rest) desk.driver
      constructor <;>
        simp [settle, wanted, take, handleEdited, previous_eq, enabled, got, answersFor,
          answers_eq, replies_eq, driver_eq, calls_eq]

theorem settles_edited_tracked {desk : Desk δ} (envelope : Envelope)
    {tracked : List ReplyRecord} (enabled : desk.replies.isEnabled = true)
    (found : desk.replies.peek? envelope.key = some tracked) :
    dispatcher.Settles desk (.edited envelope) := by
  have previous_eq : desk.replies.repliesTo envelope.key = tracked := by
    simp [ReplyCache.repliesTo, found]
  have stored := ReplyCache.store_get? desk.replies envelope.key
  cases got : desk.replies.get? envelope.key with
  | mk looked cache =>
      have looked_eq : looked = some tracked := by
        rw [← found, ← Lru.get?_fst, got]
      subst looked_eq
      rw [got] at stored
      constructor
      · simp [settle, wanted, take, handleEdited, previous_eq, enabled, got, answersFor, ← stored]
      · simp [settle, wanted, take, handleEdited, previous_eq, enabled, got, answersFor]
      · simp [settle, wanted, take, handleEdited, previous_eq, enabled, got, answersFor]

theorem settles_deleted (desk : Desk δ) (key : MessageKey) :
    dispatcher.Settles desk (.deleted key) := by
  cases found : desk.replies.peek? key with
  | none =>
      have previous_eq : desk.replies.repliesTo key = [] := by
        simp [ReplyCache.repliesTo, found]
      constructor <;>
        simp [settle, wanted, take, handleDeleted, previous_eq, reconcile_nil_right, Lru.remove,
          found, deleteAll]
  | some tracked =>
      have previous_eq : desk.replies.repliesTo key = tracked := by
        simp [ReplyCache.repliesTo, found]
      constructor <;>
        simp [settle, wanted, take, handleDeleted, previous_eq, reconcile_nil_right, Lru.remove,
          found]

/-- Whatever a dispatcher is told, it settles the replies that it finds. -/
theorem settles {desk : Desk δ} (wellFormed : desk.replies.WellFormed) (step : DispatchStep) :
    dispatcher.Settles desk step := by
  cases step with
  | posted envelope => exact dispatcher.settles_posted desk envelope
  | deleted key => exact dispatcher.settles_deleted desk key
  | edited envelope =>
      by_cases off : desk.replies.capacity = 0
      · exact dispatcher.settles_edited_off wellFormed envelope off
      · have enabled := Lru.isEnabled_eq_true.mpr (Nat.pos_of_ne_zero off)
        cases found : desk.replies.peek? envelope.key with
        | none => exact dispatcher.settles_edited_untracked envelope enabled found
        | some tracked => exact dispatcher.settles_edited_tracked envelope enabled found

/-- The calls of a step and the replies that are tracked after it come from
reconciling what was found with what is wanted. -/
theorem take_reconciled {desk : Desk δ} (wellFormed : desk.replies.WellFormed)
    (step : DispatchStep) :
    ∃ replies, (dispatcher.take desk step).1.replies =
        ReplyCache.store desk.replies step.key replies ∧
      Reconciled dispatcher.settings step.key (step.previous desk.replies)
        (dispatcher.wanted desk step) (callsOf (dispatcher.take desk step).2) replies := by
  have settled := dispatcher.settles wellFormed step
  refine ⟨(dispatcher.settle desk step).1, settled.replies, ?_⟩
  rw [settled.calls]
  exact dispatcher.reconcile_reconciled _ _ _ _

/-- A step finds out about users in answering a message, and not otherwise. -/
theorem users_take (desk : Desk δ) (step : DispatchStep) :
    (dispatcher.take desk step).1.users = desk.users ∨
      ∃ envelope, (dispatcher.take desk step).1.users =
        (dispatcher.answersFor desk envelope).2.1.users := by
  cases step with
  | posted envelope => exact Or.inr ⟨envelope, rfl⟩
  | deleted key =>
      simp only [take, handleDeleted]
      split <;> exact Or.inl rfl
  | edited envelope =>
      simp only [take, handleEdited, answersFor]
      cases desk.replies.isEnabled with
      | false => exact Or.inl rfl
      | true =>
          refine Or.inr ⟨envelope, ?_⟩
          cases (desk.replies.get? envelope.key).1 with
          | some previous => rfl
          | none =>
              by_cases silent : ((dispatcher.registry.answersFor envelope).run dispatcher.users
                  desk.users).1.isEmpty
              · simp only [silent, if_true]
                rfl
              · simp only [silent]
                rfl

theorem tidy_take {desk : Desk δ} (tidy : desk.replies.Tidy) (step : DispatchStep) :
    (dispatcher.take desk step).1.replies.Tidy := by
  rw [(dispatcher.settles tidy.toWellFormed step).replies]
  exact tidy.store _ _

theorem capacity_take {desk : Desk δ} (wellFormed : desk.replies.WellFormed)
    (step : DispatchStep) :
    (dispatcher.take desk step).1.replies.capacity = desk.replies.capacity := by
  rw [(dispatcher.settles wellFormed step).replies, ReplyCache.capacity_store]

theorem tidy_takeAll {desk : Desk δ} (tidy : desk.replies.Tidy) (steps : List DispatchStep) :
    (dispatcher.takeAll desk steps).1.replies.Tidy := by
  induction steps generalizing desk with
  | nil => exact tidy
  | cons step rest ih => exact ih (dispatcher.tidy_take tidy step)

theorem capacity_takeAll {desk : Desk δ} (tidy : desk.replies.Tidy)
    (steps : List DispatchStep) :
    (dispatcher.takeAll desk steps).1.replies.capacity = desk.replies.capacity := by
  induction steps generalizing desk with
  | nil => rfl
  | cons step rest ih =>
      have later := ih (dispatcher.tidy_take tidy step)
      rw [takeAll_cons, later, dispatcher.capacity_take tidy.toWellFormed]

/-- A dispatcher that answers every message with its text. -/
def echo (driver : ChatDriver δ) : Dispatcher δ where
  registry :=
    { Registry.empty with
      hearActions := [⟨"echo",
        { Action.new .hear "anything" with
          predicate := some fun _ _ => true
          answer := some fun envelope => .done (some (.ofText envelope.text)) }⟩] }
  settings := ⟨false, false⟩
  driver := driver
  users := .ofTable []

end Dispatcher

end ChatBot
