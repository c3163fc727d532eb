import ChatBot.Proofs.Cache.History

/-!
# What a larger cache keeps

Two caches of different capacities go through the same operations.  What the smaller one holds the
larger one holds as well, and in the same order of the latest use; but it may hold other entries in
between, which are touched and removed in it alone.  The larger one never has more such entries than
it has room for besides, so it gives an entry up only when the smaller one does.
-/

namespace ChatBot

/-- The front of a list holds the front of any part of it, if it is longer by at least as many
elements as the part lacks. -/
theorem take_sublist_take {α : Type} {part whole : List α} (sublist : part.Sublist whole)
    {count total : Nat} (room : whole.length + count ≤ part.length + total) :
    (part.take count).Sublist (whole.take total) := by
  induction sublist generalizing count total with
  | slnil => simp
  | @cons part whole element sublist ih =>
      have shorter := sublist.length_le
      rw [List.length_cons] at room
      obtain ⟨rest, rfl⟩ : ∃ rest, total = rest + 1 := ⟨total - 1, by omega⟩
      exact (ih (by omega)).cons element
  | @cons_cons part whole element sublist ih =>
      have shorter := sublist.length_le
      rw [List.length_cons, List.length_cons] at room
      cases count with
      | zero => exact List.nil_sublist _
      | succ count =>
          obtain ⟨rest, rfl⟩ : ∃ rest, total = rest + 1 := ⟨total - 1, by omega⟩
          exact (ih (by omega)).cons_cons element

namespace Lru

variable {κ α : Type}

/-- A larger cache holds what a smaller one holds, in the same order, and has room for all that it
holds besides. -/
structure Within (small large : Lru κ α) : Prop where
  entries : small.entries.Sublist large.entries
  room : large.size + small.capacity ≤ small.size + large.capacity

theorem within_empty {capacity larger : Nat} (le : capacity ≤ larger) :
    Within (.empty capacity : Lru κ α) (.empty larger) where
  entries := List.Sublist.refl []
  room := Nat.add_le_add_left le 0

variable [DecidableEq κ]

theorem WellFormed.peek?_of_mem {cache : Lru κ α} (wellFormed : cache.WellFormed) {key : κ}
    {value : α} (member : (key, value) ∈ cache.entries) : cache.peek? key = some value := by
  obtain ⟨before, after, split⟩ := List.append_of_mem member
  have distinct := wellFormed.distinct
  rw [keys, split, List.map_append, List.nodup_append] at distinct
  refine List.lookup_eq_some_iff.mpr ⟨before, after, split, fun entry earlier => ?_⟩
  have apart := distinct.2.2 entry.1 (List.mem_map_of_mem earlier) key (by simp)
  exact bne_iff_ne.mpr apart.symm

theorem length_without_add_countP (key : κ) (entries : List (κ × α)) :
    (without key entries).length + entries.countP (·.1 = key) = entries.length := by
  rw [without, ← List.countP_eq_length_filter, Nat.add_comm]
  simpa using (List.length_eq_countP_add_countP fun entry : κ × α => entry.1 = key).symm

theorem length_without_lt {cache : Lru κ α} {key : κ} {value : α}
    (found : cache.peek? key = some value) :
    (without key cache.entries).length < cache.entries.length := by
  by_contra kept
  have missing := lookup_eq_none_of_length_le (Nat.le_of_not_lt kept)
  rw [← peek?, found] at missing
  cases missing

namespace Within

variable {small large : Lru κ α}

theorem peek? (within : small.Within large) (wellFormed : large.WellFormed) {key : κ} {value : α}
    (found : small.peek? key = some value) : large.peek? key = some value :=
  wellFormed.peek?_of_mem (within.entries.subset (mem_entries_of_peek? found))

theorem remove (within : small.Within large) (key : κ) :
    (small.remove key).2.Within (large.remove key).2 where
  entries := within.entries.filter _
  room := by
    have fewer := within.entries.countP_le (p := fun entry => decide (entry.1 = key))
    have counted := length_without_add_countP key small.entries
    have counted' := length_without_add_countP key large.entries
    have room := within.room
    simp only [size, Lru.remove] at room ⊢
    omega

/-- Entries that come to the front of both caches stand in the same order there. -/
theorem front (within : small.Within large) (key : κ) (value : α) :
    ((key, value) :: without key small.entries).Sublist
        ((key, value) :: without key large.entries) ∧
      ((key, value) :: without key large.entries).length + small.capacity ≤
        ((key, value) :: without key small.entries).length + large.capacity := by
  obtain ⟨sublist, room⟩ := within.remove key
  simp only [size, Lru.remove] at sublist room
  refine ⟨sublist.cons_cons _, ?_⟩
  simp only [List.length_cons]
  omega

theorem put (within : small.Within large) (key : κ) (value : α) :
    (small.put key value).Within (large.put key value) := by
  obtain ⟨sublist, room⟩ := within.front key value
  refine ⟨take_sublist_take sublist room, ?_⟩
  simp only [size, Lru.put, List.length_take]
  omega

/-- An entry that only the larger cache finds comes to the front of that cache alone. -/
theorem get? (within : small.Within large) (wellFormed : large.WellFormed) (key : κ) :
    (small.get? key).2.Within (large.get? key).2 := by
  cases found : small.peek? key with
  | some value =>
      obtain ⟨sublist, room⟩ := within.front key value
      constructor
      · rw [entries_get? found, entries_get? (within.peek? wellFormed found)]
        exact sublist
      · rw [size, size, entries_get? found, entries_get? (within.peek? wellFormed found),
          capacity_get?, capacity_get?]
        exact room
  | none =>
      rw [get?_eq_self found]
      cases found' : large.peek? key with
      | none => rwa [get?_eq_self found']
      | some value =>
          have same : without key small.entries = small.entries := without_eq_self found
          have sublist := within.entries.filter (fun entry => decide (entry.1 ≠ key))
          have fewer := length_without_lt found'
          have room := within.room
          constructor
          · rw [entries_get? found', ← same]
            exact sublist.cons _
          · simp only [size] at room
            rw [size, entries_get? found', capacity_get?, List.length_cons, size]
            omega

end Within

end Lru

namespace ReplyCache

namespace Operation

/-- The replies that an operation gives back. -/
def found? (cache : ReplyCache) : Operation → Option (List ReplyRecord)
  | put _ _ => none
  | get key => (cache.get? key).1
  | remove key => (cache.remove key).1
  | count => none

end Operation

/-- What operations give back, one after the other. -/
def findings (cache : ReplyCache) : List Operation → List (Option (List ReplyRecord))
  | [] => []
  | operation :: rest => operation.found? cache :: findings (operation.applyTo cache) rest

variable {small large : ReplyCache}

theorem within_applyTo (within : small.Within large) (wellFormed : large.WellFormed)
    (operation : Operation) : (operation.applyTo small).Within (operation.applyTo large) := by
  cases operation with
  | put key replies =>
      by_cases none : replies = []
      · subst none
        exact within.remove key
      · simp only [Operation.applyTo, store_of_ne_nil _ _ none]
        exact within.put key replies
  | get key => exact within.get? wellFormed key
  | remove key => exact within.remove key
  | count => exact within

theorem within_afterAll (within : small.Within large) (tidy : large.Tidy)
    (history : List Operation) : (small.afterAll history).Within (large.afterAll history) := by
  induction history generalizing small large with
  | nil => exact within
  | cons operation rest ih =>
      exact ih (within_applyTo within tidy.toWellFormed operation) (tidy.applyTo operation)

theorem Tidy.afterAll {cache : ReplyCache} (tidy : cache.Tidy) (history : List Operation) :
    (cache.afterAll history).Tidy := by
  induction history generalizing cache with
  | nil => exact tidy
  | cons operation rest ih => exact ih (tidy.applyTo operation)

/-- What an operation gives back from the smaller cache, it gives back from the larger one. -/
theorem found?_of_within (within : small.Within large) (wellFormed : large.WellFormed)
    (operation : Operation) {replies : List ReplyRecord}
    (found : operation.found? small = some replies) : operation.found? large = some replies := by
  cases operation with
  | put key given => cases found
  | get key =>
      rw [Operation.found?, Lru.get?_fst] at found ⊢
      exact within.peek? wellFormed found
  | remove key => exact within.peek? wellFormed found
  | count => cases found

theorem findings_within (within : small.Within large) (tidy : large.Tidy)
    (history : List Operation) :
    List.Forall₂ (fun found found' => ∀ replies, found = some replies → found' = some replies)
      (findings small history) (findings large history) := by
  induction history generalizing small large with
  | nil => exact .nil
  | cons operation rest ih =>
      have next := within_applyTo within tidy.toWellFormed operation
      exact .cons (fun replies => found?_of_within within tidy.toWellFormed operation)
        (ih next (tidy.applyTo operation))

/-- The same operations are carried out on two empty caches, of which one may hold more than the
other; the smaller one may be off.  At every point what the smaller one holds for a message the
larger one holds for it as well, and each operation that gives replies back from the smaller one
gives the same replies back from the larger one. -/
theorem larger_keeps {capacity larger : Nat} (le : capacity ≤ larger)
    (history : List Operation) :
    (∀ before, before <+: history → ∀ key replies,
      (afterAll (.empty capacity) before).peek? key = some replies →
        (afterAll (.empty larger) before).peek? key = some replies) ∧
    List.Forall₂ (fun found found' => ∀ replies, found = some replies → found' = some replies)
      (findings (.empty capacity) history) (findings (.empty larger) history) := by
  have within : Lru.Within (.empty capacity : ReplyCache) (.empty larger) := Lru.within_empty le
  refine ⟨fun before _ key replies found => ?_, findings_within within (tidy_empty larger) history⟩
  have held := within_afterAll within (tidy_empty larger) before
  exact held.peek? ((tidy_empty larger).afterAll before).toWellFormed found

/-- The oldest of three messages is found by the larger cache alone and comes to the front there,
before one that both hold.  That one is still given back by both when a fourth one has come. -/
theorem larger_keeps_found :
    let key (timestamp : String) : MessageKey := ⟨"general", ⟨timestamp⟩⟩
    let replies : List ReplyRecord := [⟨"general", ⟨"9.0"⟩, "hi"⟩]
    let history : List Operation := [.put (key "1.0") replies, .put (key "2.0") replies,
      .put (key "3.0") replies, .get (key "1.0"), .put (key "4.0") replies, .remove (key "3.0")]
    findings (.empty 2) history = [none, none, none, none, none, some replies] ∧
      (findings (.empty 3) history)[5]? = some (some replies) ∧
      (afterAll (.empty 3) history).peek? (key "4.0") = some replies := by
  intro key replies history
  obtain ⟨kept, given⟩ := larger_keeps (by decide : 2 ≤ 3) history
  have given_back : (findings (.empty 3) history).get ⟨5, by decide⟩ = some replies :=
    given.get (i := 5) (by decide) (by decide) replies (by decide)
  refine ⟨by decide, ?_, kept history (List.prefix_refl _) (key "4.0") replies (by decide)⟩
  rw [List.getElem?_eq_getElem (by decide)]
  exact congrArg some given_back

end ReplyCache

end ChatBot
