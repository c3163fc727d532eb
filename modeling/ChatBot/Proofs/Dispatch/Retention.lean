import ChatBot.Platform.Memory
import ChatBot.Platform.Scripted
import ChatBot.Proofs.Dispatch.Ledger

/-!
# No reply is forgotten silently

A reply that was accepted stays on record until its deletion is tried, until its
source message is posted anew, or until another message takes the place of its entry
in a full cache.  What is on record was accepted, in that order; a change that fails
leaves the record as it was.
-/

namespace ChatBot

theorem postedPlaces_posts (settings : ReplySettings) (source : MessageKey)
    (attempts : List PostAttempt) :
    postedPlaces (attempts.map (PostAttempt.call settings source)) source =
      (attempts.filterMap PostAttempt.reply?).map (·.place) := by
  induction attempts with
  | nil => rfl
  | cons attempt rest ih =>
      obtain ⟨answer, result⟩ := attempt
      rw [List.map_cons, ← List.singleton_append, postedPlaces_append, ih]
      cases result with
      | error error => rfl
      | ok receipt =>
          have first : postedPlaces [PostAttempt.call settings source (answer, .ok receipt)]
              source = [receipt.place] := by
            simp [postedPlaces, PostAttempt.call, postedFor?]
          rw [first]
          rfl

namespace Reconciled

variable {settings : ReplySettings} {source : MessageKey} {previous replies : List ReplyRecord}
  {answers : List Answer} {calls : List MadeCall}

/-- What is accepted while replies are brought in step is on record afterwards. -/
theorem tracked_of_posted
    (reconciled : Reconciled settings source previous answers calls replies)
    {other place : MessageKey} (posted : Posted calls other place) :
    other = source ∧ place ∈ replies.map (·.place) := by
  have made_for : other = source := by
    obtain ⟨message, receipt, member, -⟩ := posted
    exact Origin.source.inj (reconciled.origin_eq _ member)
  subst made_for
  refine ⟨rfl, ?_⟩
  cases reconciled with
  | changed attempts same changes =>
      obtain ⟨message, receipt, member, -⟩ := posted
      simp [ChangeAttempt.call] at member
  | replaced deletions posts differ deleted sent =>
      rw [← postedPlaces_posts settings, mem_postedPlaces]
      obtain ⟨message, receipt, member, place_eq⟩ := posted
      rcases List.mem_append.mp member with deletion | post
      · simp [DeleteAttempt.call] at deletion
      · exact ⟨message, receipt, post, place_eq⟩

/-- What was on record stays there, unless its deletion is tried. -/
theorem tracked_or_deleted
    (reconciled : Reconciled settings source previous answers calls replies)
    {place : MessageKey} (tracked : place ∈ previous.map (·.place)) :
    place ∈ replies.map (·.place) ∨
      ∃ result, (.source source, .delete place.channel place.timestamp result) ∈ calls := by
  cases reconciled with
  | changed attempts same changes =>
      left
      rw [ChangeAttempt.map_reply_place same changes]
      exact tracked
  | replaced deletions posts differ deleted sent =>
      right
      obtain ⟨reply, member, rfl⟩ := List.mem_map.mp tracked
      rw [← deleted] at member
      obtain ⟨⟨old, result⟩, inside, rfl⟩ := List.mem_map.mp member
      exact ⟨result, List.mem_append_left _ (List.mem_map.mpr ⟨_, inside, rfl⟩)⟩

/-- What is on record afterwards was there before or is accepted now, in order. -/
theorem sublist_posted {history : List MadeCall}
    (reconciled : Reconciled settings source previous answers calls replies)
    (before : (previous.map (·.place)).Sublist (postedPlaces history source)) :
    (replies.map (·.place)).Sublist (postedPlaces (history ++ calls) source) := by
  rw [postedPlaces_append]
  cases reconciled with
  | changed attempts same changes =>
      rw [ChangeAttempt.map_reply_place same changes]
      exact before.trans (List.sublist_append_left _ _)
  | replaced deletions posts differ deleted sent =>
      rw [postedPlaces_append, postedPlaces_posts]
      exact (List.sublist_append_right _ _).trans (List.sublist_append_right _ _)

/-- A change that fails is one of a reply on record, and leaves its record as it is. -/
theorem kept_of_failed_update
    (reconciled : Reconciled settings source previous answers calls replies) {index : Nat}
    {origin : Origin} {channel : String} {timestamp : Timestamp} {message : OutgoingMessage}
    {error : ApiError}
    (failed : calls[index]? = some (origin, .update channel timestamp message (.error error))) :
    replies.map (·.place) = previous.map (·.place) ∧ replies[index]? = previous[index]? ∧
      (previous[index]?).map (·.place) = some ⟨channel, timestamp⟩ := by
  cases reconciled with
  | changed attempts same changes =>
      refine ⟨ChangeAttempt.map_reply_place same changes, ?_⟩
      rw [List.getElem?_map] at failed
      obtain ⟨⟨⟨old, answer⟩, result⟩, here, made⟩ := Option.map_eq_some_iff.mp failed
      simp only [ChangeAttempt.call, Prod.mk.injEq, Call.update.injEq] at made
      obtain ⟨-, rfl, rfl, -, rfl⟩ := made
      rw [← ChangeAttempt.map_old same changes, List.getElem?_map, List.getElem?_map, here]
      exact ⟨rfl, rfl⟩
  | replaced deletions posts differ deleted sent =>
      have member := List.mem_of_getElem? failed
      simp [DeleteAttempt.call, PostAttempt.call] at member

end Reconciled

namespace Dispatcher

variable {δ : Type} (dispatcher : Dispatcher δ)

/-- How a step can take a reply off the record: its deletion is tried; or another message,
new to a full cache, takes the place of the entry; or the source message is posted
anew. -/
inductive Drops (desk : Desk δ) (step : DispatchStep) (source place : MessageKey) : Prop where
  | deleted (result : Except ApiError Unit)
      (called : (.source source, .delete place.channel place.timestamp result) ∈
        callsOf (dispatcher.take desk step).2)
  | evicted (other : step.key ≠ source) (full : desk.replies.Evicts step.key source)
      (inserted : (dispatcher.take desk step).1.replies.peek? step.key ≠ none)
      (gone : (dispatcher.take desk step).1.replies.peek? source = none)
  | renewed (envelope : Envelope) (arrived : step = .posted envelope)
      (same : envelope.key = source)

variable {desk : Desk δ}

/-- A step drops nothing from the record for any other reason. -/
theorem take_retains (tidy : desk.replies.Tidy) (enabled : 0 < desk.replies.capacity)
    (step : DispatchStep) {source place : MessageKey}
    (tracked : place ∈ (desk.replies.repliesTo source).map (·.place)) :
    place ∈ ((dispatcher.take desk step).1.replies.repliesTo source).map (·.place) ∨
      dispatcher.Drops desk step source place := by
  obtain ⟨replies, replies_eq, reconciled⟩ := dispatcher.take_reconciled tidy.toWellFormed step
  by_cases own : step.key = source
  · subst own
    rcases step.posted_or_previous_eq desk.replies with ⟨envelope, arrived⟩ | found
    · exact Or.inr (.renewed envelope arrived (by rw [arrived]; rfl))
    · rw [found] at reconciled
      rcases reconciled.tracked_or_deleted tracked with kept | ⟨result, called⟩
      · left
        rw [replies_eq, ReplyCache.repliesTo_store_self _ _ _ enabled]
        exact kept
      · exact Or.inr (.deleted result called)
  · by_cases nonempty : replies = []
    · left
      rw [replies_eq, tidy.repliesTo_store_of_ne replies (Ne.symm own) (Or.inl nonempty)]
      exact tracked
    · by_cases full : desk.replies.Evicts step.key source
      · right
        refine .evicted own full ?_ ?_
        · rw [replies_eq, ReplyCache.store_of_ne_nil _ _ nonempty,
            Lru.peek?_put_self _ _ _ enabled]
          exact Option.some_ne_none replies
        · rw [replies_eq, ReplyCache.store_of_ne_nil _ _ nonempty]
          exact tidy.toWellFormed.peek?_put_of_evicts replies enabled full
      · left
        rw [replies_eq, tidy.repliesTo_store_of_ne replies (Ne.symm own)
          (Or.inr ⟨enabled, full⟩)]
        exact tracked

/-- What is on record stays there over all steps, unless one of them drops it. -/
theorem takeAll_retains (tidy : desk.replies.Tidy) (enabled : 0 < desk.replies.capacity)
    (steps : List DispatchStep) {source place : MessageKey}
    (tracked : place ∈ (desk.replies.repliesTo source).map (·.place)) :
    place ∈ ((dispatcher.takeAll desk steps).1.replies.repliesTo source).map (·.place) ∨
      ∃ before step after, steps = before ++ step :: after ∧
        dispatcher.Drops (dispatcher.takeAll desk before).1 step source place := by
  induction steps generalizing desk with
  | nil => exact Or.inl tracked
  | cons step rest ih =>
      rcases dispatcher.take_retains tidy enabled step tracked with kept | dropped
      · have room : 0 < (dispatcher.take desk step).1.replies.capacity := by
          rw [dispatcher.capacity_take tidy.toWellFormed]
          exact enabled
        rcases ih (dispatcher.tidy_take tidy step) room kept with
          later | ⟨before, last, after, rfl, dropped⟩
        · exact Or.inl later
        · exact Or.inr ⟨step :: before, last, after, rfl, dropped⟩
      · exact Or.inr ⟨[], step, rest, rfl, dropped⟩

theorem sublist_take (wellFormed : desk.replies.WellFormed) {history : List MadeCall}
    (before : ∀ source, ((desk.replies.repliesTo source).map (·.place)).Sublist
      (postedPlaces history source)) (step : DispatchStep) (source : MessageKey) :
    (((dispatcher.take desk step).1.replies.repliesTo source).map (·.place)).Sublist
      (postedPlaces (history ++ callsOf (dispatcher.take desk step).2) source) := by
  obtain ⟨replies, replies_eq, reconciled⟩ := dispatcher.take_reconciled wellFormed step
  rw [replies_eq]
  rcases ReplyCache.repliesTo_store desk.replies step.key source replies with
    none | ⟨rfl, own⟩ | old
  · rw [none]
    exact List.nil_sublist _
  · rw [own]
    apply reconciled.sublist_posted
    rcases step.previous_eq desk.replies with none | found
    · rw [none]
      exact List.nil_sublist _
    · rw [found]
      exact before step.key
  · rw [old, postedPlaces_append]
    exact (before source).trans (List.sublist_append_left _ _)

theorem sublist_takeAll (tidy : desk.replies.Tidy) {history : List MadeCall}
    (before : ∀ source, ((desk.replies.repliesTo source).map (·.place)).Sublist
      (postedPlaces history source)) (steps : List DispatchStep) (source : MessageKey) :
    (((dispatcher.takeAll desk steps).1.replies.repliesTo source).map (·.place)).Sublist
      (postedPlaces (history ++ callsOf (dispatcher.takeAll desk steps).2) source) := by
  induction steps generalizing desk history with
  | nil => simpa using before source
  | cons step rest ih =>
      have later := ih (dispatcher.tidy_take tidy step)
        (dispatcher.sublist_take tidy.toWellFormed before step)
      simpa [takeAll_cons] using later

theorem take_kept_of_failed_update (tidy : desk.replies.Tidy)
    (enabled : 0 < desk.replies.capacity) (step : DispatchStep) {index : Nat} {origin : Origin}
    {channel : String} {timestamp : Timestamp} {message : OutgoingMessage} {error : ApiError}
    (failed : (callsOf (dispatcher.take desk step).2)[index]? =
      some (origin, .update channel timestamp message (.error error))) :
    ((dispatcher.take desk step).1.replies.repliesTo step.key).map (·.place) =
        (desk.replies.repliesTo step.key).map (·.place) ∧
      ((dispatcher.take desk step).1.replies.repliesTo step.key)[index]? =
        (desk.replies.repliesTo step.key)[index]? ∧
      ((desk.replies.repliesTo step.key)[index]?).map (·.place) = some ⟨channel, timestamp⟩ := by
  obtain ⟨replies, replies_eq, reconciled⟩ := dispatcher.take_reconciled tidy.toWellFormed step
  have kept := reconciled.kept_of_failed_update failed
  rw [replies_eq, ReplyCache.repliesTo_store_self _ _ _ enabled]
  rcases step.previous_eq desk.replies with none | found
  · rw [none] at kept
    simp at kept
  · rw [found] at kept
    exact kept

/-- With a cache, and whichever calls fail: a reply that was accepted in a step stays on
record for its source message over all later steps unless one of them drops it; what is on
record was accepted, in that order; and a change that fails leaves all records in their
places and its own as it was. -/
theorem retains (dispatcher : Dispatcher δ) (capacity : Nat) (users : UserCache) (driver : δ)
    (enabled : 0 < capacity) (before : List DispatchStep) (step : DispatchStep) :
    let (desk, made) := dispatcher.takeAll ⟨.empty capacity, users, driver⟩ before
    let (next, entries) := dispatcher.take desk step
    (∀ source place, Posted (callsOf entries) source place → ∀ after,
      place ∈ ((dispatcher.takeAll next after).1.replies.repliesTo source).map (·.place) ∨
        ∃ earlier last rest, after = earlier ++ last :: rest ∧
          dispatcher.Drops (dispatcher.takeAll next earlier).1 last source place) ∧
    (∀ source, ((next.replies.repliesTo source).map (·.place)).Sublist
      (postedPlaces (callsOf made ++ callsOf entries) source)) ∧
    ∀ (index : Nat) (origin : Origin) (channel : String) (timestamp : Timestamp)
      (message : OutgoingMessage) (error : ApiError),
      (callsOf entries)[index]? =
        some (origin, .update channel timestamp message (.error error)) →
      (next.replies.repliesTo step.key).map (·.place) =
          (desk.replies.repliesTo step.key).map (·.place) ∧
        (next.replies.repliesTo step.key)[index]? = (desk.replies.repliesTo step.key)[index]? ∧
        ((desk.replies.repliesTo step.key)[index]?).map (·.place) =
          some ⟨channel, timestamp⟩ := by
  let start : Desk δ := ⟨.empty capacity, users, driver⟩
  have startTidy : start.replies.Tidy := ReplyCache.tidy_empty capacity
  have nothing : ∀ source, ((start.replies.repliesTo source).map (·.place)).Sublist
      (postedPlaces [] source) := by
    simp [start, ReplyCache.repliesTo, Lru.peek?, Lru.empty, postedPlaces]
  have tidy := dispatcher.tidy_takeAll startTidy before
  have capacity_eq := dispatcher.capacity_takeAll startTidy before
  have earlier := dispatcher.sublist_takeAll startTidy nothing before
  cases taken : dispatcher.takeAll start before with
  | mk desk made =>
      rw [taken] at tidy capacity_eq earlier
      have room : 0 < desk.replies.capacity := by
        rw [capacity_eq]
        exact enabled
      have roomAfter : 0 < (dispatcher.take desk step).1.replies.capacity := by
        rw [dispatcher.capacity_take tidy.toWellFormed]
        exact room
      refine ⟨?_, dispatcher.sublist_take tidy.toWellFormed earlier step, ?_⟩
      · intro source place posted after
        obtain ⟨replies, replies_eq, reconciled⟩ :=
          dispatcher.take_reconciled tidy.toWellFormed step
        obtain ⟨rfl, tracked⟩ := reconciled.tracked_of_posted posted
        rw [← ReplyCache.repliesTo_store_self desk.replies step.key replies room,
          ← replies_eq] at tracked
        exact dispatcher.takeAll_retains (dispatcher.tidy_take tidy step) roomAfter after tracked
      · intro index origin channel timestamp message error failed
        exact dispatcher.take_kept_of_failed_update tidy room step failed

/-- An edit that the platform refuses: the reply stays on record as it was. -/
theorem retains_echo :
    let dispatcher := echo (Scripted.driver [] MemoryPlatform.driver)
    let desk := (dispatcher.takeAll ⟨.empty 1, .empty 0, ⟨[none, some .notConnected], .empty⟩⟩
      [.posted ⟨"general", "ann", "one", ⟨"1.0"⟩, false, "one"⟩]).1
    let next := (dispatcher.take desk
      (.edited ⟨"general", "ann", "two", ⟨"1.0"⟩, false, "two"⟩)).1
    (next.replies.repliesTo ⟨"general", ⟨"1.0"⟩⟩)[0]? =
      (desk.replies.repliesTo ⟨"general", ⟨"1.0"⟩⟩)[0]? := by
  have kept := (retains (echo (Scripted.driver [] MemoryPlatform.driver)) 1 (.empty 0)
    ⟨[none, some .notConnected], .empty⟩ (by decide)
    [.posted ⟨"general", "ann", "one", ⟨"1.0"⟩, false, "one"⟩]
    (.edited ⟨"general", "ann", "two", ⟨"1.0"⟩, false, "two"⟩)).2.2
  exact (kept 0 _ _ _ _ _ rfl).2.1

end Dispatcher

end ChatBot
