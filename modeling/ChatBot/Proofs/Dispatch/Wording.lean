import ChatBot.Platform.Memory
import ChatBot.Platform.Scripted
import ChatBot.Proofs.Dispatch.Attendance

/-!
# Calls that differ in wording

Two dispatchers with the same settings work side by side on a platform that pays no
attention to what messages say.  As long as the answers that are wanted of them differ only
in their texts, they make the same calls, but for the texts, and keep track of replies in
the same places.  How texts may differ is left open: it is a relation between them.
-/

namespace ChatBot

/-! ## Places of tracked replies -/

namespace Lru

variable {κ α β : Type} [DecidableEq κ]

/-- A cache with something else for each value. -/
def map (change : α → β) (cache : Lru κ α) : Lru κ β :=
  ⟨cache.capacity, cache.entries.map (Prod.map id change)⟩

variable (change : α → β)

theorem map_without (key : κ) (entries : List (κ × α)) :
    (without key entries).map (Prod.map id change) =
      without key (entries.map (Prod.map id change)) := by
  simp [without, List.filter_map, Function.comp_def]

theorem peek?_map (cache : Lru κ α) (key : κ) :
    (cache.map change).peek? key = (cache.peek? key).map change := by
  obtain ⟨capacity, entries⟩ := cache
  simp only [peek?, map]
  induction entries with
  | nil => rfl
  | cons entry rest ih =>
      obtain ⟨own, value⟩ := entry
      by_cases found : key = own
      · subst found
        simp
      · have other : (key == own) = false := beq_false_of_ne found
        simp [List.lookup_cons, other, ih]

theorem map_put (cache : Lru κ α) (key : κ) (value : α) :
    (cache.put key value).map change = (cache.map change).put key (change value) := by
  simp [put, map, List.map_take, map_without]

theorem map_remove (cache : Lru κ α) (key : κ) :
    (cache.remove key).2.map change = ((cache.map change).remove key).2 := by
  simp [remove, map, map_without]

end Lru

namespace ReplyCache

/-- Where the tracked replies stand. -/
def places (cache : ReplyCache) : Lru MessageKey (List MessageKey) :=
  cache.map (List.map ReplyRecord.place)

variable {cache cache' : ReplyCache}

theorem places_repliesTo (same : cache.places = cache'.places) (key : MessageKey) :
    (cache.repliesTo key).map ReplyRecord.place = (cache'.repliesTo key).map ReplyRecord.place := by
  have places_eq (cache : ReplyCache) : (cache.repliesTo key).map ReplyRecord.place =
      (cache.places.peek? key).getD [] := by
    rw [places, Lru.peek?_map, repliesTo]
    cases cache.peek? key <;> rfl
  rw [places_eq, places_eq, same]

theorem isEnabled_of_places (same : cache.places = cache'.places) :
    cache.isEnabled = cache'.isEnabled := by
  have capacity_eq : cache.places.capacity = cache'.places.capacity := by rw [same]
  rw [Lru.isEnabled, Lru.isEnabled]
  exact congrArg (decide <| · ≠ 0) capacity_eq

theorem places_store (same : cache.places = cache'.places) (key : MessageKey)
    {replies replies' : List ReplyRecord}
    (placed : replies.map ReplyRecord.place = replies'.map ReplyRecord.place) :
    (store cache key replies).places = (store cache' key replies').places := by
  have empty_eq : replies.isEmpty = replies'.isEmpty := by
    rw [← List.isEmpty_map (f := ReplyRecord.place), placed, List.isEmpty_map]
  rw [store, store, empty_eq]
  split
  · rw [places, places, Lru.map_remove, Lru.map_remove, ← places, ← places, same]
  · rw [places, places, Lru.map_put, Lru.map_put, ← places, ← places, same, placed]

end ReplyCache

/-! ## What differs in wording only -/

/-- Messages that are the same but for what they say. -/
structure OutgoingMessage.Alike (wording : String → String → Prop)
    (first second : OutgoingMessage) : Prop where
  text : wording first.text second.text
  blocks : first.blocks = second.blocks
  thread : first.thread = second.thread

/-- Answers that are the same but for what they say. -/
structure Answer.Alike (wording : String → String → Prop) (first second : Answer) : Prop where
  text : wording first.text second.text
  blocks : first.blocks = second.blocks
  options : first.options = second.options

/-- The platform accepts both requests and reports the same place, or refuses both for the
same reason. -/
def SameOutcome (first second : Except ApiError Receipt) : Prop :=
  first.map Receipt.place = second.map Receipt.place

theorem SameOutcome.cases {first second : Except ApiError Receipt}
    (outcome : SameOutcome first second) :
    (∃ receipt receipt', first = .ok receipt ∧ second = .ok receipt' ∧
      receipt.place = receipt'.place) ∨ ∃ error, first = .error error ∧ second = .error error := by
  cases first with
  | error error =>
      cases second with
      | error error' => exact Or.inr ⟨error, rfl, congrArg _ (Except.error.inj outcome).symm⟩
      | ok receipt' => cases outcome
  | ok receipt =>
      cases second with
      | error error' => cases outcome
      | ok receipt' => exact Or.inl ⟨receipt, receipt', rfl, rfl, Except.ok.inj outcome⟩

/-- Calls that are the same but for what their messages say, and that have the same
outcome. -/
inductive Call.Alike (wording : String → String → Prop) : Call → Call → Prop where
  | send (channel : String) {message message' : OutgoingMessage}
      {result result' : Except ApiError Receipt} (worded : message.Alike wording message')
      (outcome : SameOutcome result result') :
      Alike wording (.send channel message result) (.send channel message' result')
  | update (channel : String) (timestamp : Timestamp) {message message' : OutgoingMessage}
      {result result' : Except ApiError Receipt} (worded : message.Alike wording message')
      (outcome : SameOutcome result result') :
      Alike wording (.update channel timestamp message result)
        (.update channel timestamp message' result')
  | delete (channel : String) (timestamp : Timestamp) (result : Except ApiError Unit) :
      Alike wording (.delete channel timestamp result) (.delete channel timestamp result)

/-- Calls that are made on the same behalf and are the same but for what their messages
say. -/
def MadeCall.Alike (wording : String → String → Prop) (first second : MadeCall) : Prop :=
  first.1 = second.1 ∧ first.2.Alike wording second.2

section Alike

variable {wording : String → String → Prop} {answer answer' : Answer}

theorem Answer.Alike.outgoing (alike : answer.Alike wording answer') (settings : ReplySettings)
    (source : Timestamp) :
    (settings.outgoing source answer).Alike wording (settings.outgoing source answer') where
  text := alike.text
  blocks := alike.blocks
  thread := by rw [ReplySettings.outgoing, ReplySettings.outgoing, alike.options]

theorem Answer.Alike.replacement (alike : answer.Alike wording answer') :
    answer.replacement.Alike wording answer'.replacement :=
  ⟨alike.text, alike.blocks, rfl⟩

end Alike

/-! ## Platforms that pay no attention to texts -/

/-- A platform pays no attention to what messages say: in states that are alike it places
messages alike and gets to states that are alike, whatever the messages say. -/
structure ChatDriver.TextBlind {δ : Type} (driver : ChatDriver δ) (alike : δ → δ → Prop) :
    Prop where
  send : ∀ {state state'}, alike state state' → ∀ channel {wording message message'},
    OutgoingMessage.Alike wording message message' →
      SameOutcome (driver.send state channel message).1 (driver.send state' channel message').1 ∧
        alike (driver.send state channel message).2 (driver.send state' channel message').2
  update : ∀ {state state'}, alike state state' → ∀ channel timestamp {wording message message'},
    OutgoingMessage.Alike wording message message' →
      SameOutcome (driver.update state channel timestamp message).1
          (driver.update state' channel timestamp message').1 ∧
        alike (driver.update state channel timestamp message).2
          (driver.update state' channel timestamp message').2
  delete : ∀ {state state'}, alike state state' → ∀ channel timestamp,
    (driver.delete state channel timestamp).1 = (driver.delete state' channel timestamp).1 ∧
      alike (driver.delete state channel timestamp).2 (driver.delete state' channel timestamp).2

/-- Platforms in memory that fail alike and hand out the same timestamps. -/
def MemoryPlatform.Alike (first second : MemoryPlatform) : Prop :=
  first.nextTimestamp = second.nextTimestamp ∧ first.failing = second.failing

theorem MemoryPlatform.textBlind : driver.TextBlind Alike where
  send {state state'} alike channel wording message message' worded := by
    obtain ⟨next, failing⟩ := alike
    simp only [driver, send, failing]
    split
    · exact ⟨rfl, next, failing⟩
    · rw [next]
      exact ⟨rfl, rfl, rfl⟩
  update {state state'} alike channel timestamp wording message message' worded := by
    obtain ⟨next, failing⟩ := alike
    simp only [driver, update, failing]
    split
    · exact ⟨rfl, next, failing⟩
    · exact ⟨rfl, next, rfl⟩
  delete {state state'} alike channel timestamp := by
    obtain ⟨next, failing⟩ := alike
    simp only [driver, delete, failing]
    split
    · exact ⟨rfl, next, failing⟩
    · exact ⟨rfl, next, rfl⟩

namespace Scripted

variable {δ : Type}

/-- Scripted platforms with the same script on platforms that are alike. -/
def Alike (alike : δ → δ → Prop) (first second : Scripted δ) : Prop :=
  first.script = second.script ∧ alike first.inner second.inner

variable {alike : δ → δ → Prop} {state state' : Scripted δ}

theorem guarded_alike {α : Type} (same : Except ApiError α → Except ApiError α → Prop)
    (refused : ∀ error, same (.error error) (.error error)) {call call' : δ → Except ApiError α × δ}
    (called : ∀ {inner inner'}, alike inner inner' →
      same (call inner).1 (call' inner').1 ∧ alike (call inner).2 (call' inner').2)
    (start : Alike alike state state') :
    same (guarded call state).1 (guarded call' state').1 ∧
      Alike alike (guarded call state).2 (guarded call' state').2 := by
  obtain ⟨script, inner⟩ := state
  obtain ⟨script', inner'⟩ := state'
  obtain ⟨rfl, related⟩ : script = script' ∧ alike inner inner' := start
  obtain ⟨answered, after⟩ := called related
  cases script with
  | nil => exact ⟨answered, rfl, after⟩
  | cons entry rest =>
      cases entry with
      | some error => exact ⟨refused error, rfl, related⟩
      | none => exact ⟨answered, rfl, after⟩

theorem sameOutcome_redirect (redirect : List (String × String))
    {result result' : Except ApiError Receipt} (outcome : SameOutcome result result') :
    SameOutcome (result.map (redirectReceipt redirect))
      (result'.map (redirectReceipt redirect)) := by
  rcases outcome.cases with ⟨receipt, receipt', rfl, rfl, same⟩ | ⟨error, rfl, rfl⟩
  · obtain ⟨channel_eq, timestamp_eq⟩ := MessageKey.mk.inj same
    simp only [SameOutcome, Except.map, Receipt.place, redirectReceipt, channel_eq, timestamp_eq]
  · rfl

/-- A script of failures pays no attention to texts. -/
theorem textBlind (redirect : List (String × String)) {inner : ChatDriver δ}
    (blind : inner.TextBlind alike) : (driver redirect inner).TextBlind (Alike alike) where
  send start channel wording message message' worded := by
    obtain ⟨outcome, after⟩ := guarded_alike SameOutcome (fun _ => rfl)
      (fun related => blind.send related channel worded) start
    exact ⟨sameOutcome_redirect redirect outcome, after⟩
  update start channel timestamp wording message message' worded := by
    obtain ⟨outcome, after⟩ := guarded_alike SameOutcome (fun _ => rfl)
      (fun related => blind.update related channel timestamp worded) start
    exact ⟨sameOutcome_redirect redirect outcome, after⟩
  delete start channel timestamp :=
    guarded_alike Eq (fun _ => rfl) (fun related => blind.delete related channel timestamp) start

end Scripted

/-! ## Dispatchers side by side -/

variable {δ : Type}

/-- Two dispatchers that differ in their registries at most. -/
structure Dispatcher.Twins (first second : Dispatcher δ) : Prop where
  settings : first.settings = second.settings
  driver : first.driver = second.driver
  users : first.users = second.users

/-- What two dispatchers come to side by side: replies on record in the same places, states of
the platform that are alike, and calls that differ in wording only. -/
structure SideBySide (alike : δ → δ → Prop) (wording : String → String → Prop)
    (first second : List ReplyRecord × δ × List Entry) : Prop where
  replies : first.1.map ReplyRecord.place = second.1.map ReplyRecord.place
  driver : alike first.2.1 second.2.1
  calls : List.Forall₂ (MadeCall.Alike wording) (callsOf first.2.2) (callsOf second.2.2)

/-- Two desks that track replies in the same places, on platforms that are alike. -/
structure Desk.Alike (alike : δ → δ → Prop) (first second : Desk δ) : Prop where
  replies : first.replies.places = second.replies.places
  driver : alike first.driver second.driver

namespace Dispatcher.Twins

variable {dispatcher dispatcher' : Dispatcher δ} {alike : δ → δ → Prop}
  {wording : String → String → Prop}

theorem sendAll (twins : dispatcher.Twins dispatcher') (blind : dispatcher.driver.TextBlind alike)
    (source : MessageKey) {answers answers' : List Answer}
    (worded : List.Forall₂ (Answer.Alike wording) answers answers') {state state' : δ}
    (start : alike state state') :
    SideBySide alike wording (dispatcher.sendAll source answers state)
      (dispatcher'.sendAll source answers' state') := by
  induction worded generalizing state state' with
  | nil => exact ⟨rfl, start, .nil⟩
  | @cons answer answer' rest rest' here later ih =>
      have message := here.outgoing dispatcher.settings source.timestamp
      obtain ⟨outcome, next⟩ := blind.send start source.channel message
      obtain ⟨replies, driver, calls⟩ := ih next
      have call := Call.Alike.send source.channel message outcome
      simp only [Dispatcher.sendAll, ← twins.settings, ← twins.driver]
      rcases outcome.cases with ⟨receipt, receipt', sent, sent', same⟩ | ⟨error, sent, sent'⟩
      · rw [sent, sent'] at call ⊢
        exact ⟨congrArg₂ List.cons same replies, driver, .cons ⟨rfl, call⟩ calls⟩
      · rw [sent, sent'] at call ⊢
        exact ⟨replies, driver, .cons ⟨rfl, call⟩ calls⟩

theorem updateAll (twins : dispatcher.Twins dispatcher')
    (blind : dispatcher.driver.TextBlind alike) (source : MessageKey)
    {previous previous' : List ReplyRecord} {answers answers' : List Answer}
    (placed : List.Forall₂ (fun old old' => old.place = old'.place) previous previous')
    (worded : List.Forall₂ (Answer.Alike wording) answers answers') {state state' : δ}
    (start : alike state state') :
    SideBySide alike wording (dispatcher.updateAll source (previous.zip answers) state)
      (dispatcher'.updateAll source (previous'.zip answers') state') := by
  induction placed generalizing answers answers' state state' with
  | nil => exact ⟨rfl, start, .nil⟩
  | @cons old old' rest rest' same later ih =>
      cases worded with
      | nil => exact ⟨rfl, start, .nil⟩
      | @cons answer answer' more more' here others =>
          obtain ⟨channel_eq, timestamp_eq⟩ := MessageKey.mk.inj same
          have message := here.replacement
          obtain ⟨outcome, next⟩ := blind.update start old.channel old.timestamp message
          obtain ⟨replies, driver, calls⟩ := ih others next
          have call := Call.Alike.update old.channel old.timestamp message outcome
          simp only [List.zip_cons_cons, Dispatcher.updateAll, ← twins.driver, ← channel_eq,
            ← timestamp_eq]
          rcases outcome.cases with
            ⟨receipt, receipt', changed, changed', -⟩ | ⟨error, changed, changed'⟩
          · rw [changed, changed'] at call ⊢
            exact ⟨congrArg₂ List.cons rfl replies, driver, .cons ⟨rfl, call⟩ calls⟩
          · rw [changed, changed'] at call ⊢
            exact ⟨congrArg₂ List.cons same replies, driver, .cons ⟨rfl, call⟩ calls⟩

theorem deleteAll (twins : dispatcher.Twins dispatcher')
    (blind : dispatcher.driver.TextBlind alike) (wording : String → String → Prop)
    (source : MessageKey) {previous previous' : List ReplyRecord}
    (placed : List.Forall₂ (fun old old' => old.place = old'.place) previous previous')
    {state state' : δ} (start : alike state state') :
    alike (dispatcher.deleteAll source previous state).1
        (dispatcher'.deleteAll source previous' state').1 ∧
      List.Forall₂ (MadeCall.Alike wording)
        (callsOf (dispatcher.deleteAll source previous state).2)
        (callsOf (dispatcher'.deleteAll source previous' state').2) := by
  induction placed generalizing state state' with
  | nil => exact ⟨start, .nil⟩
  | @cons old old' rest rest' same later ih =>
      obtain ⟨channel_eq, timestamp_eq⟩ := MessageKey.mk.inj same
      obtain ⟨result_eq, next⟩ := blind.delete start old.channel old.timestamp
      obtain ⟨driver, calls⟩ := ih next
      simp only [Dispatcher.deleteAll, ← twins.driver, ← channel_eq, ← timestamp_eq, ← result_eq]
      cases (dispatcher.driver.delete state old.channel old.timestamp).1 with
      | ok result => exact ⟨driver, .cons ⟨rfl, .delete _ _ _⟩ calls⟩
      | error error => exact ⟨driver, .cons ⟨rfl, .delete _ _ _⟩ calls⟩

theorem reconcile (twins : dispatcher.Twins dispatcher')
    (blind : dispatcher.driver.TextBlind alike) (source : MessageKey)
    {previous previous' : List ReplyRecord} {answers answers' : List Answer}
    (placed : previous.map ReplyRecord.place = previous'.map ReplyRecord.place)
    (worded : List.Forall₂ (Answer.Alike wording) answers answers') {state state' : δ}
    (start : alike state state') :
    SideBySide alike wording (dispatcher.reconcile source previous answers state)
      (dispatcher'.reconcile source previous' answers' state') := by
  have related : List.Forall₂ (fun old old' => old.place = old'.place) previous previous' := by
    rw [← List.forall₂_eq_eq_eq, List.forall₂_map_left_iff, List.forall₂_map_right_iff] at placed
    exact placed
  have previous_length := related.length_eq
  have answers_length := worded.length_eq
  obtain ⟨deleted, deletions⟩ := twins.deleteAll blind wording source related start
  cases worded with
  | nil => exact ⟨rfl, deleted, deletions⟩
  | @cons answer answer' rest rest' here later =>
      have worded := List.Forall₂.cons here later
      simp only [Dispatcher.reconcile, List.isEmpty_cons, Bool.false_eq_true, if_false,
        ← previous_length, ← answers_length]
      by_cases same : previous.length = (answer :: rest).length
      · rw [if_pos same, if_pos same]
        exact twins.updateAll blind source related worded start
      · rw [if_neg same, if_neg same]
        obtain ⟨replies, driver, sent⟩ := twins.sendAll blind source worded deleted
        refine ⟨replies, driver, ?_⟩
        simpa using List.rel_append deletions sent

/-- A step takes desks that are alike to desks that are alike, if the answers that are wanted
differ in wording only; and so do the calls. -/
theorem take (twins : dispatcher.Twins dispatcher') (blind : dispatcher.driver.TextBlind alike)
    {desk desk' : Desk δ} (wellFormed : desk.replies.WellFormed)
    (wellFormed' : desk'.replies.WellFormed) (start : desk.Alike alike desk') (step : DispatchStep)
    (worded : List.Forall₂ (Answer.Alike wording) (dispatcher.wanted desk step)
      (dispatcher'.wanted desk' step)) :
    (dispatcher.take desk step).1.Alike alike (dispatcher'.take desk' step).1 ∧
      List.Forall₂ (MadeCall.Alike wording) (callsOf (dispatcher.take desk step).2)
        (callsOf (dispatcher'.take desk' step).2) := by
  have settled := dispatcher.settles wellFormed step
  have settled' := dispatcher'.settles wellFormed' step
  have found : (step.previous desk.replies).map ReplyRecord.place =
      (step.previous desk'.replies).map ReplyRecord.place := by
    cases step with
    | posted envelope => rfl
    | edited envelope => exact ReplyCache.places_repliesTo start.replies envelope.key
    | deleted key => exact ReplyCache.places_repliesTo start.replies key
  have reconciled := twins.reconcile blind step.key found worded start.driver
  refine ⟨⟨?_, ?_⟩, ?_⟩
  · rw [settled.replies, settled'.replies]
    exact ReplyCache.places_store start.replies step.key reconciled.replies
  · rw [settled.driver, settled'.driver]
    exact reconciled.driver
  · rw [settled.calls, settled'.calls]
    exact reconciled.calls

end Dispatcher.Twins

end ChatBot
