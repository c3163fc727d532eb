import ChatBot.Proofs.Cache.Recency

/-!
# What a write replaces

Writing the replies to a message replaces its entry and leaves the entries of all other messages as
they are, in the order of their last use.  Only a new entry in a full cache costs another one: the
one that was not used for the longest time.
-/

namespace ChatBot

namespace Lru

variable {κ α : Type} [DecidableEq κ] {cache : Lru κ α} {key : κ}

theorem peek?_ne_none_iff : cache.peek? key ≠ none ↔ key ∈ cache.keys := by
  rw [Ne, peek?_eq_none_iff, not_not]

theorem without_put_of_room (value : α)
    (room : (without key cache.entries).length < cache.capacity) :
    without key (cache.put key value).entries = without key cache.entries := by
  rw [put, List.take_of_length_le room, without_cons_self, without_without]

/-- Writing a new key into a full cache leaves all entries but the last. -/
theorem without_put_of_full (value : α) (enabled : 0 < cache.capacity)
    (absent : cache.peek? key = none) (full : cache.size = cache.capacity) :
    without key (cache.put key value).entries = cache.entries.dropLast := by
  rw [entries_put_of_full value enabled absent full, without_cons_self]
  apply without_eq_self
  rw [List.lookup_eq_none_iff]
  intro entry member
  exact List.lookup_eq_none_iff.mp absent entry ((List.dropLast_sublist _).subset member)

end Lru

namespace ReplyCache

/-- The entry that replies make: none when there are none. -/
def entryOf (replies : List ReplyRecord) : Option (List ReplyRecord) :=
  if replies.isEmpty then none else some replies

@[simp]
theorem entryOf_nil : entryOf [] = none :=
  rfl

theorem entryOf_of_ne_nil {replies : List ReplyRecord} (nonempty : replies ≠ []) :
    entryOf replies = some replies := by
  simp [entryOf, nonempty]

theorem peek?_store_self (cache : ReplyCache) (key : MessageKey) (replies : List ReplyRecord)
    (enabled : 0 < cache.capacity) : (store cache key replies).peek? key = entryOf replies := by
  by_cases nonempty : replies = []
  · subst nonempty
    rw [store_nil, Lru.peek?_remove_self, entryOf_nil]
  · rw [store_of_ne_nil cache key nonempty, entryOf_of_ne_nil nonempty]
    exact Lru.peek?_put_self cache key replies enabled

theorem peek?_store_ne_none {cache : ReplyCache} (enabled : 0 < cache.capacity)
    (key : MessageKey) {replies : List ReplyRecord} (nonempty : replies ≠ []) :
    (store cache key replies).peek? key ≠ none := by
  rw [peek?_store_self cache key replies enabled, entryOf_of_ne_nil nonempty]
  exact Option.some_ne_none replies

/-- What is found for another message after a write was found before. -/
theorem peek?_of_store {cache : ReplyCache} {key other : MessageKey}
    {replies found : List ReplyRecord} (ne : other ≠ key)
    (kept : (store cache key replies).peek? other = some found) :
    cache.peek? other = some found := by
  by_cases nonempty : replies = []
  · subst nonempty
    exact Lru.of_peek?_remove_eq_some kept
  · rw [store_of_ne_nil cache key nonempty] at kept
    exact (Lru.of_peek?_put_eq_some kept).resolve_left fun own => ne own.1

/-- A write puts a new entry into a full cache. -/
structure Displaces (cache : ReplyCache) (key : MessageKey) (after : ReplyCache) : Prop where
  absent : cache.peek? key = none
  inserted : after.peek? key ≠ none
  full : cache.size = cache.capacity

variable {cache : ReplyCache} (wellFormed : cache.WellFormed) {key : MessageKey}
  {replies : List ReplyRecord}

theorem Displaces.nonempty (displaces : cache.Displaces key (store cache key replies)) :
    replies ≠ [] := by
  rintro rfl
  exact displaces.inserted (Lru.peek?_remove_self cache key)

theorem Displaces.enabled (displaces : cache.Displaces key (store cache key replies)) :
    0 < cache.capacity := by
  apply Nat.pos_of_ne_zero
  intro off
  have nothing : (store cache key replies).entries = [] := by
    rw [store_of_ne_nil cache key displaces.nonempty, Lru.put, off, List.take_zero]
  exact displaces.inserted (by rw [Lru.peek?, nothing]; rfl)

/-- A new entry in a full cache takes the place of the last one. -/
theorem Displaces.entries_eq (displaces : cache.Displaces key (store cache key replies)) :
    ∃ victim, cache.entries = Lru.without key (store cache key replies).entries ++ [victim] := by
  have enabled := displaces.enabled
  have nonempty : cache.entries ≠ [] := by
    apply List.ne_nil_of_length_pos
    have full := displaces.full
    unfold Lru.size at full
    omega
  refine ⟨cache.entries.getLast nonempty, ?_⟩
  rw [store_of_ne_nil cache key displaces.nonempty,
    Lru.without_put_of_full replies enabled displaces.absent displaces.full,
    List.dropLast_concat_getLast]

include wellFormed

/-- Any other write leaves the entries of all other messages as they are. -/
theorem without_store_of_not_displaces
    (room : ¬ cache.Displaces key (store cache key replies)) :
    Lru.without key (store cache key replies).entries = Lru.without key cache.entries := by
  by_cases nonempty : replies = []
  · subst nonempty
    exact Lru.without_without key cache.entries
  · by_cases off : cache.capacity = 0
    · rw [store_of_ne_nil cache key nonempty, Lru.put, off, wellFormed.entries_eq_nil off]
      rfl
    · have enabled := Nat.pos_of_ne_zero off
      have inserted := peek?_store_ne_none enabled key nonempty
      have fits : (Lru.without key cache.entries).length < cache.capacity := by
        by_contra noRoom
        obtain ⟨absent, full⟩ := wellFormed.full_of_no_room (Nat.le_of_not_lt noRoom)
        exact room ⟨absent, inserted, full⟩
      rw [store_of_ne_nil cache key nonempty, Lru.without_put_of_room replies fits]

end ReplyCache

end ChatBot
