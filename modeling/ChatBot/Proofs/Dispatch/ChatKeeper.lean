import ChatBot.Platform.Memory
import ChatBot.Proofs.Dispatch.Chat
import ChatBot.Proofs.Text.Numerals

/-!
# Platforms that keep a chat

A platform that accepts every request about its own messages keeps a chat of them.
What a dispatcher has made of the chat follows from its calls.  The platform kept in
memory is one: what stands in its chat is what it was asked to post, without what it
was asked to delete, and with the latest changes.
-/

namespace ChatBot

variable {δ : Type}

/-- A driver of a platform that keeps a chat.  In a state that is ready it accepts
every post, and every request about a message that it was asked to post, and is ready
again; each post is given a timestamp that was not given before. -/
structure ChatKeeper (driver : ChatDriver δ) where
  ready : δ → Prop
  live : δ → List LiveMessage
  given : δ → List Timestamp
  given_nodup : ∀ {state}, ready state → (given state).Nodup
  given_of_live : ∀ {state}, ready state → ∀ message ∈ live state,
    message.place.timestamp ∈ given state
  send : ∀ {state} channel message, ready state → ∃ receipt next,
    driver.send state channel message = (.ok receipt, next) ∧ ready next ∧
      given next = given state ++ [receipt.timestamp] ∧
      live next = live state ++ [⟨receipt.place, message.text, message.blocks⟩]
  update : ∀ {state} channel timestamp message, ready state → timestamp ∈ given state →
    ∃ receipt next, driver.update state channel timestamp message = (.ok receipt, next) ∧
      ready next ∧ given next = given state ∧
      live next = replaceAt ⟨channel, timestamp⟩ message (live state)
  delete : ∀ {state} channel timestamp, ready state → timestamp ∈ given state →
    ∃ next, driver.delete state channel timestamp = (.ok (), next) ∧
      ready next ∧ given next = given state ∧
      live next = removeAt ⟨channel, timestamp⟩ (live state)

namespace ChatKeeper

variable {driver : ChatDriver δ} (keeper : ChatKeeper driver)

/-- Calls that were all accepted lead from one state to another, and the chat and the
timestamps are what the calls make of them. -/
structure Follows (state next : δ) (calls : List MadeCall) : Prop where
  ready : keeper.ready next
  given : keeper.given next = keeper.given state ++ postedTimestamps calls
  live : keeper.live next = chatAfter (keeper.live state) calls
  accepted : ∀ made ∈ calls, made.2.accepted

namespace Follows

variable {keeper}

theorem refl {state : δ} (ready : keeper.ready state) : keeper.Follows state state [] where
  ready := ready
  given := (List.append_nil _).symm
  live := rfl
  accepted := by simp

theorem trans {first second third : δ} {calls others : List MadeCall}
    (start : keeper.Follows first second calls) (rest : keeper.Follows second third others) :
    keeper.Follows first third (calls ++ others) where
  ready := rest.ready
  given := by rw [rest.given, start.given, postedTimestamps_append, List.append_assoc]
  live := by rw [rest.live, start.live, chatAfter_append]
  accepted made member :=
    (List.mem_append.mp member).elim (start.accepted made) (rest.accepted made)

theorem given_subset {state next : δ} {calls : List MadeCall}
    (follows : keeper.Follows state next calls) : keeper.given state ⊆ keeper.given next := by
  rw [follows.given]
  exact List.subset_append_left _ _

end Follows

variable (dispatcher : Dispatcher δ) (keeper : ChatKeeper dispatcher.driver)
  (source : MessageKey)

theorem follows_sendAll (answers : List Answer) {state : δ} (ready : keeper.ready state) :
    keeper.Follows state (dispatcher.sendAll source answers state).2.1
      (callsOf (dispatcher.sendAll source answers state).2.2) := by
  induction answers generalizing state with
  | nil => exact .refl ready
  | cons answer rest ih =>
      obtain ⟨receipt, next, sent, nextReady, given, live⟩ := keeper.send source.channel
        (dispatcher.settings.outgoing source.timestamp answer) ready
      have first : keeper.Follows state next
          [(.source source, .send source.channel
            (dispatcher.settings.outgoing source.timestamp answer) (.ok receipt))] :=
        ⟨nextReady, given, live, by simp [Call.accepted]⟩
      have whole := first.trans (ih nextReady)
      simpa [Dispatcher.sendAll, sent] using whole

theorem follows_updateAll (changes : List (ReplyRecord × Answer)) {state : δ}
    (ready : keeper.ready state)
    (known : ∀ change ∈ changes, change.1.timestamp ∈ keeper.given state) :
    keeper.Follows state (dispatcher.updateAll source changes state).2.1
      (callsOf (dispatcher.updateAll source changes state).2.2) := by
  induction changes generalizing state with
  | nil => exact .refl ready
  | cons change rest ih =>
      obtain ⟨old, answer⟩ := change
      obtain ⟨receipt, next, updated, nextReady, given, live⟩ :=
        keeper.update old.channel old.timestamp answer.replacement ready
          (known _ (List.mem_cons_self ..))
      have first : keeper.Follows state next
          [(.source source,
            .update old.channel old.timestamp answer.replacement (.ok receipt))] :=
        ⟨nextReady, by simpa [postedTimestamps, Call.postedTimestamp?] using given, live,
          by simp [Call.accepted]⟩
      have later := ih nextReady fun change member =>
        first.given_subset (known change (List.mem_cons_of_mem _ member))
      have whole := first.trans later
      simpa [Dispatcher.updateAll, updated] using whole

theorem follows_deleteAll (replies : List ReplyRecord) {state : δ}
    (ready : keeper.ready state)
    (known : ∀ reply ∈ replies, reply.timestamp ∈ keeper.given state) :
    keeper.Follows state (dispatcher.deleteAll source replies state).1
      (callsOf (dispatcher.deleteAll source replies state).2) := by
  induction replies generalizing state with
  | nil => exact .refl ready
  | cons reply rest ih =>
      obtain ⟨next, deleted, nextReady, given, live⟩ :=
        keeper.delete reply.channel reply.timestamp ready (known _ (List.mem_cons_self ..))
      have first : keeper.Follows state next
          [(.source source, .delete reply.channel reply.timestamp (.ok ()))] :=
        ⟨nextReady, by simpa [postedTimestamps, Call.postedTimestamp?] using given, live,
          by simp [Call.accepted]⟩
      have later := ih nextReady fun reply member =>
        first.given_subset (known reply (List.mem_cons_of_mem _ member))
      have whole := first.trans later
      simpa [Dispatcher.deleteAll, deleted] using whole

theorem follows_reconcile (previous : List ReplyRecord) (answers : List Answer) {state : δ}
    (ready : keeper.ready state)
    (known : ∀ reply ∈ previous, reply.timestamp ∈ keeper.given state) :
    keeper.Follows state (dispatcher.reconcile source previous answers state).2.1
      (callsOf (dispatcher.reconcile source previous answers state).2.2) := by
  have deleted := follows_deleteAll dispatcher keeper source previous ready known
  by_cases none : answers.isEmpty
  · simpa [Dispatcher.reconcile, none] using deleted
  · by_cases same : previous.length = answers.length
    · rw [Dispatcher.reconcile, if_neg none, if_pos same]
      apply follows_updateAll dispatcher keeper source _ ready
      intro change member
      exact known change.1 (List.of_mem_zip member).1
    · have whole := deleted.trans
        (follows_sendAll dispatcher keeper source answers deleted.ready)
      simpa [Dispatcher.reconcile, none, same] using whole

/-- A step of a dispatcher is accepted as a whole, if the replies that it finds were
posted on this platform. -/
theorem follows_take {desk : Desk δ} (wellFormed : desk.replies.WellFormed)
    (step : DispatchStep) (ready : keeper.ready desk.driver)
    (known : ∀ reply ∈ step.previous desk.replies, reply.timestamp ∈ keeper.given desk.driver) :
    keeper.Follows desk.driver (dispatcher.take desk step).1.driver
      (callsOf (dispatcher.take desk step).2) := by
  have settled := dispatcher.settles wellFormed step
  rw [settled.driver, settled.calls]
  exact follows_reconcile dispatcher keeper step.key _ _ ready known

end ChatKeeper

/-! ## The platform kept in memory -/

namespace MemoryPlatform

/-- The timestamps that were given to posts. -/
def given (platform : MemoryPlatform) : List Timestamp :=
  platform.sent.map (·.2.2)

/-- What a message says after the changes that were made at its place. -/
def changed (channel : String) (timestamp : Timestamp)
    (changes : List (String × Timestamp × OutgoingMessage)) (message : OutgoingMessage) :
    OutgoingMessage :=
  changes.foldl (fun said change =>
    if change.1 = channel ∧ change.2.1 = timestamp then change.2.2 else said) message

/-- What is left in the chat of a message that was posted. -/
def left (platform : MemoryPlatform) : String × OutgoingMessage × Timestamp → Option LiveMessage
  | (channel, message, timestamp) =>
    let said := changed channel timestamp platform.updated message
    if (channel, timestamp) ∈ platform.deleted then none
    else some ⟨⟨channel, timestamp⟩, said.text, said.blocks⟩

/-- The chat. -/
def live (platform : MemoryPlatform) : List LiveMessage :=
  platform.sent.filterMap platform.left

/-- The platform accepts requests, and it was not asked to change or delete what it was
not asked to post. -/
structure Ready (platform : MemoryPlatform) : Prop where
  working : platform.failing = false
  numbered : ∀ timestamp ∈ platform.given,
    ∃ seconds < platform.nextTimestamp, timestampAt seconds = timestamp
  distinct : platform.given.Nodup
  updated : ∀ change ∈ platform.updated, change.2.1 ∈ platform.given
  deleted : ∀ place ∈ platform.deleted, place.2 ∈ platform.given

theorem ready_empty : Ready empty where
  working := rfl
  numbered := by simp [given, empty]
  distinct := List.nodup_nil
  updated := by simp [empty]
  deleted := by simp [empty]

theorem timestampAt_injective {first second : Nat}
    (same : timestampAt first = timestampAt second) : first = second :=
  Numeral.toString_append_injective ".000000" (congrArg Timestamp.text same)

variable {platform : MemoryPlatform}

theorem Ready.next_not_given (ready : platform.Ready) :
    timestampAt platform.nextTimestamp ∉ platform.given := by
  intro member
  obtain ⟨seconds, earlier, same⟩ := ready.numbered _ member
  exact Nat.ne_of_lt earlier (timestampAt_injective same)

theorem place_of_left {sent : String × OutgoingMessage × Timestamp} {message : LiveMessage}
    (standing : platform.left sent = some message) : message.place = ⟨sent.1, sent.2.2⟩ := by
  simp only [left, Option.ite_none_left_eq_some, Option.some.injEq] at standing
  rw [← standing.2]

theorem changed_of_unknown {channel : String} {timestamp : Timestamp}
    {changes : List (String × Timestamp × OutgoingMessage)} (message : OutgoingMessage)
    (unknown : ∀ change ∈ changes, change.2.1 ≠ timestamp) :
    changed channel timestamp changes message = message := by
  induction changes with
  | nil => rfl
  | cons change rest ih =>
      have later := ih fun other member => unknown other (List.mem_cons_of_mem _ member)
      have away : ¬ (change.1 = channel ∧ change.2.1 = timestamp) := fun both =>
        unknown change (List.mem_cons_self ..) both.2
      unfold changed at later ⊢
      rw [List.foldl_cons, if_neg away, later]

theorem live_send (ready : platform.Ready) (channel : String) (message : OutgoingMessage) :
    live (platform.send channel message).2 = platform.live ++
      [⟨⟨channel, timestampAt platform.nextTimestamp⟩, message.text, message.blocks⟩] := by
  have fresh := ready.next_not_given
  have standing : (channel, timestampAt platform.nextTimestamp) ∉ platform.deleted :=
    fun gone => fresh (ready.deleted _ gone)
  have said : changed channel (timestampAt platform.nextTimestamp) platform.updated message =
      message := by
    apply changed_of_unknown
    rintro change member same
    exact fresh (same ▸ ready.updated change member)
  simp only [live, send, ready.working, Bool.false_eq_true, if_false, List.filterMap_append]
  congr 1
  simp [left, standing, said]

theorem live_update (ready : platform.Ready) (channel : String) (timestamp : Timestamp)
    (message : OutgoingMessage) :
    live (platform.update channel timestamp message).2 =
      replaceAt ⟨channel, timestamp⟩ message platform.live := by
  simp only [live, replaceAt, update, ready.working, Bool.false_eq_true, if_false,
    List.map_filterMap]
  apply List.filterMap_congr
  rintro ⟨other, posted, given⟩ _
  by_cases gone : (other, given) ∈ platform.deleted
  · simp [left, gone]
  · by_cases here : channel = other ∧ timestamp = given
    · obtain ⟨rfl, rfl⟩ := here
      simp [left, gone, changed, List.foldl_append]
    · have away : ¬ (other = channel ∧ given = timestamp) := fun both =>
        here ⟨both.1.symm, both.2.symm⟩
      simp [left, gone, changed, List.foldl_append, here, away]

theorem live_delete (ready : platform.Ready) (channel : String) (timestamp : Timestamp) :
    live (platform.delete channel timestamp).2 =
      removeAt ⟨channel, timestamp⟩ platform.live := by
  simp only [live, removeAt, delete, ready.working, Bool.false_eq_true, if_false,
    List.filter_filterMap]
  apply List.filterMap_congr
  rintro ⟨other, posted, given⟩ _
  by_cases gone : (other, given) ∈ platform.deleted
  · simp [left, gone]
  · by_cases here : other = channel ∧ given = timestamp
    · obtain ⟨rfl, rfl⟩ := here
      simp [left, gone, Option.filter]
    · simp [left, gone, here, Option.filter]

theorem Ready.send (ready : platform.Ready) (channel : String) (message : OutgoingMessage) :
    Ready (platform.send channel message).2 := by
  have next_eq : (platform.send channel message).2 =
      { platform with
        nextTimestamp := platform.nextTimestamp + timestampStep
        sent := platform.sent ++ [(channel, message, timestampAt platform.nextTimestamp)] } := by
    simp [MemoryPlatform.send, ready.working]
  have given_eq : given (platform.send channel message).2 =
      platform.given ++ [timestampAt platform.nextTimestamp] := by
    simp [next_eq, given]
  constructor
  · rw [next_eq]
    exact ready.working
  · intro timestamp member
    rw [given_eq, List.mem_append, List.mem_singleton] at member
    rw [next_eq]
    rcases member with earlier | rfl
    · obtain ⟨seconds, before, same⟩ := ready.numbered timestamp earlier
      exact ⟨seconds, Nat.lt_add_right timestampStep before, same⟩
    · exact ⟨platform.nextTimestamp, Nat.lt_add_of_pos_right (by decide), rfl⟩
  · rw [given_eq, List.nodup_append]
    refine ⟨ready.distinct, List.nodup_singleton _, ?_⟩
    rintro earlier member now last rfl
    rw [List.mem_singleton.mp last] at member
    exact ready.next_not_given member
  · rw [given_eq, next_eq]
    intro change member
    exact List.mem_append_left _ (ready.updated change member)
  · rw [given_eq, next_eq]
    intro place member
    exact List.mem_append_left _ (ready.deleted place member)

theorem Ready.update (ready : platform.Ready) (channel : String) {timestamp : Timestamp}
    (message : OutgoingMessage) (known : timestamp ∈ platform.given) :
    Ready (platform.update channel timestamp message).2 := by
  have next_eq : (platform.update channel timestamp message).2 =
      { platform with updated := platform.updated ++ [(channel, timestamp, message)] } := by
    simp [MemoryPlatform.update, ready.working]
  rw [next_eq]
  refine ⟨ready.working, ready.numbered, ready.distinct, ?_, ready.deleted⟩
  intro change member
  rcases List.mem_append.mp member with earlier | now
  · exact ready.updated change earlier
  · obtain rfl := List.mem_singleton.mp now
    exact known

theorem Ready.delete (ready : platform.Ready) (channel : String) {timestamp : Timestamp}
    (known : timestamp ∈ platform.given) :
    Ready (platform.delete channel timestamp).2 := by
  have next_eq : (platform.delete channel timestamp).2 =
      { platform with deleted := platform.deleted ++ [(channel, timestamp)] } := by
    simp [MemoryPlatform.delete, ready.working]
  rw [next_eq]
  refine ⟨ready.working, ready.numbered, ready.distinct, ready.updated, ?_⟩
  intro place member
  rcases List.mem_append.mp member with earlier | now
  · exact ready.deleted place earlier
  · obtain rfl := List.mem_singleton.mp now
    exact known

/-- The platform kept in memory keeps a chat. -/
def keeper : ChatKeeper driver where
  ready := Ready
  live := live
  given := given
  given_nodup ready := ready.distinct
  given_of_live := by
    intro platform ready message member
    obtain ⟨sent, inside, standing⟩ := List.mem_filterMap.mp member
    rw [place_of_left standing]
    exact List.mem_map_of_mem inside
  send := by
    intro platform channel message ready
    refine ⟨⟨channel, timestampAt platform.nextTimestamp, message.text⟩,
      (platform.send channel message).2, ?_, ready.send channel message, ?_,
      live_send ready channel message⟩
    · simp [driver, send, ready.working]
    · simp [given, send, ready.working]
  update := by
    intro platform channel timestamp message ready known
    refine ⟨⟨channel, timestamp, message.text⟩, (platform.update channel timestamp message).2, ?_,
      ready.update channel message known, ?_, live_update ready channel timestamp message⟩
    · simp [driver, update, ready.working]
    · simp [given, update, ready.working]
  delete := by
    intro platform channel timestamp ready known
    refine ⟨(platform.delete channel timestamp).2, ?_, ready.delete channel known, ?_,
      live_delete ready channel timestamp⟩
    · simp [driver, delete, ready.working]
    · simp [given, delete, ready.working]

end MemoryPlatform

end ChatBot
