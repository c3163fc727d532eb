import ChatBot.Cache.Replies
import Mathlib.Data.List.Dedup
import Mathlib.Data.List.Perm.Subperm

/-!
# What a bounded cache keeps

Reading, writing and removing are followed through the value that is found under
each key.  Writing one key leaves the values of the others alone, with a single
exception: a new key that is written into a full cache drives out the least
recent one.
-/

namespace ChatBot

namespace Lru

variable {κ α : Type}

/-- The keys of a cache, the most recent first. -/
def keys (cache : Lru κ α) : List κ :=
  cache.entries.map Prod.fst

/-- A cache that has one entry for a key, and no more entries than it may. -/
structure WellFormed (cache : Lru κ α) : Prop where
  distinct : cache.keys.Nodup
  bounded : cache.size ≤ cache.capacity

theorem length_keys (cache : Lru κ α) : cache.keys.length = cache.size := by
  simp [keys, size]

theorem wellFormed_empty (capacity : Nat) :
    (empty capacity : Lru κ α).WellFormed := by
  constructor
  · exact List.nodup_nil
  · exact Nat.zero_le capacity

@[simp]
theorem isEnabled_eq_true {cache : Lru κ α} : cache.isEnabled = true ↔ 0 < cache.capacity := by
  simp [isEnabled, Nat.pos_iff_ne_zero]

/-- A cache without room for an entry has none. -/
theorem WellFormed.entries_eq_nil {cache : Lru κ α} (wellFormed : cache.WellFormed)
    (off : cache.capacity = 0) : cache.entries = [] := by
  have bounded := wellFormed.bounded
  rw [off] at bounded
  exact List.eq_nil_of_length_eq_zero (Nat.le_zero.mp bounded)

variable [DecidableEq κ]

/-- Writing a key drives another one out: the key is new, the cache is full, and
the other is the least recent. -/
structure Evicts (cache : Lru κ α) (key victim : κ) : Prop where
  absent : cache.peek? key = none
  full : cache.size = cache.capacity
  oldest : cache.keys.getLast? = some victim

section Without

theorem mem_without {key : κ} {entries : List (κ × α)} {entry : κ × α} :
    entry ∈ without key entries ↔ entry ∈ entries ∧ entry.1 ≠ key := by
  simp [without]

@[simp]
theorem without_without (key : κ) (entries : List (κ × α)) :
    without key (without key entries) = without key entries := by
  simp [without]

@[simp]
theorem without_cons_self (key : κ) (value : α) (entries : List (κ × α)) :
    without key ((key, value) :: entries) = without key entries := by
  simp [without]

theorem without_sublist (key : κ) (entries : List (κ × α)) :
    (without key entries).Sublist entries :=
  List.filter_sublist

theorem length_without_le (key : κ) (entries : List (κ × α)) :
    (without key entries).length ≤ entries.length :=
  (without_sublist key entries).length_le

/-- Nothing is taken out when the key has no entry. -/
theorem without_eq_self {key : κ} {entries : List (κ × α)}
    (absent : entries.lookup key = none) : without key entries = entries := by
  rw [List.lookup_eq_none_iff] at absent
  apply List.filter_eq_self.mpr
  intro entry member
  have ne := bne_iff_ne.mp (absent entry member)
  simpa using ne.symm

/-- A key of which nothing is taken out has no entry. -/
theorem lookup_eq_none_of_length_le {key : κ} {entries : List (κ × α)}
    (kept : entries.length ≤ (without key entries).length) :
    entries.lookup key = none := by
  have same := Nat.le_antisymm (length_without_le key entries) kept
  rw [List.lookup_eq_none_iff]
  intro entry member
  have other := List.length_filter_eq_length_iff.mp same entry member
  exact bne_iff_ne.mpr (Ne.symm (by simpa using other))

@[simp]
theorem lookup_without_self (key : κ) (entries : List (κ × α)) :
    (without key entries).lookup key = none := by
  rw [List.lookup_eq_none_iff]
  intro entry member
  exact bne_iff_ne.mpr (mem_without.mp member).2.symm

theorem lookup_without_of_ne {key other : κ} (ne : other ≠ key) (entries : List (κ × α)) :
    (without key entries).lookup other = entries.lookup other := by
  induction entries with
  | nil => rfl
  | cons entry rest ih =>
      obtain ⟨first, value⟩ := entry
      by_cases removed : first = key
      · subst removed
        rw [without_cons_self, ih, List.lookup_cons, beq_false_of_ne ne]
      · have kept : without key ((first, value) :: rest) =
            (first, value) :: without key rest := by
          simp [without, removed]
        rw [kept, List.lookup_cons, List.lookup_cons, ih]

end Without

theorem peek?_eq_none_iff {cache : Lru κ α} {key : κ} :
    cache.peek? key = none ↔ key ∉ cache.keys := by
  rw [peek?, List.lookup_eq_none_iff, keys, List.mem_map]
  constructor
  · rintro absent ⟨entry, member, rfl⟩
    exact bne_iff_ne.mp (absent entry member) rfl
  · intro absent entry member
    exact bne_iff_ne.mpr fun same => absent ⟨entry, member, same.symm⟩

theorem mem_entries_of_peek? {cache : Lru κ α} {key : κ} {value : α}
    (found : cache.peek? key = some value) : (key, value) ∈ cache.entries := by
  obtain ⟨before, after, split, -⟩ := List.lookup_eq_some_iff.mp found
  rw [split]
  simp

theorem map_fst_without (key : κ) (entries : List (κ × α)) :
    (without key entries).map Prod.fst = (entries.map Prod.fst).filter (· ≠ key) :=
  (List.filter_map (f := Prod.fst) (p := (· ≠ key)) (l := entries)).symm

/-! ## Reading -/

@[simp]
theorem get?_fst (cache : Lru κ α) (key : κ) : (cache.get? key).1 = cache.peek? key := by
  unfold get?
  split <;> simp_all

@[simp]
theorem without_entries_get? (cache : Lru κ α) (key : κ) :
    without key (cache.get? key).2.entries = without key cache.entries := by
  unfold get?
  split <;> simp

@[simp]
theorem capacity_get? (cache : Lru κ α) (key : κ) :
    (cache.get? key).2.capacity = cache.capacity := by
  unfold get?
  split <;> rfl

theorem entries_get? {cache : Lru κ α} {key : κ} {value : α}
    (found : cache.peek? key = some value) :
    (cache.get? key).2.entries = (key, value) :: without key cache.entries := by
  simp [get?, found]

theorem peek?_get? (cache : Lru κ α) (key other : κ) :
    (cache.get? key).2.peek? other = cache.peek? other := by
  cases found : cache.peek? key with
  | none => simp [get?, found]
  | some value =>
      rw [peek?, entries_get? found]
      by_cases same : other = key
      · subst same
        exact List.lookup_cons_self.trans found.symm
      · rw [List.lookup_cons, beq_false_of_ne same]
        exact lookup_without_of_ne same cache.entries

theorem keys_get? {cache : Lru κ α} {key : κ} {value : α} (found : cache.peek? key = some value) :
    (cache.get? key).2.keys = key :: cache.keys.filter (· ≠ key) := by
  rw [keys, entries_get? found, List.map_cons, map_fst_without, keys]

/-- A key that is not found leaves the cache as it is. -/
theorem get?_eq_self {cache : Lru κ α} {key : κ} (absent : cache.peek? key = none) :
    (cache.get? key).2 = cache := by
  simp [get?, absent]

/-! ## Removing -/

theorem peek?_remove_self (cache : Lru κ α) (key : κ) :
    (cache.remove key).2.peek? key = none :=
  lookup_without_self key cache.entries

theorem peek?_remove_of_ne (cache : Lru κ α) {key other : κ} (ne : other ≠ key) :
    (cache.remove key).2.peek? other = cache.peek? other :=
  lookup_without_of_ne ne cache.entries

/-- What is found after a removal was found before. -/
theorem of_peek?_remove_eq_some {cache : Lru κ α} {key other : κ} {value : α}
    (kept : (cache.remove key).2.peek? other = some value) : cache.peek? other = some value := by
  by_cases same : other = key
  · rw [same, peek?_remove_self] at kept
    cases kept
  · rwa [peek?_remove_of_ne cache same] at kept

theorem remove_eq_self {cache : Lru κ α} {key : κ} (absent : cache.peek? key = none) :
    (cache.remove key).2 = cache := by
  have same : without key cache.entries = cache.entries := without_eq_self absent
  simp [remove, same]

theorem WellFormed.remove {cache : Lru κ α} (wellFormed : cache.WellFormed) (key : κ) :
    (cache.remove key).2.WellFormed := by
  constructor
  · exact wellFormed.distinct.sublist ((without_sublist key cache.entries).map Prod.fst)
  · exact Nat.le_trans (length_without_le key cache.entries) wellFormed.bounded

/-- A key stands apart from the keys that are left when it is removed. -/
theorem WellFormed.nodup_cons {cache : Lru κ α} (wellFormed : cache.WellFormed) (key : κ) :
    (key :: (cache.remove key).2.keys).Nodup := by
  rw [List.nodup_cons]
  refine ⟨peek?_eq_none_iff.mp (peek?_remove_self cache key), ?_⟩
  exact (wellFormed.remove key).distinct

theorem WellFormed.get? {cache : Lru κ α} (wellFormed : cache.WellFormed) (key : κ) :
    (cache.get? key).2.WellFormed := by
  cases found : cache.peek? key with
  | none => rwa [get?_eq_self found]
  | some value =>
      have distinct : (cache.get? key).2.keys.Nodup := by
        rw [keys, entries_get? found]
        exact wellFormed.nodup_cons key
      refine ⟨distinct, ?_⟩
      have fewer : (without key cache.entries).length < cache.entries.length := by
        by_contra kept
        have missing := lookup_eq_none_of_length_le (Nat.le_of_not_lt kept)
        rw [← peek?, found] at missing
        cases missing
      rw [size, entries_get? found, capacity_get?]
      exact Nat.le_trans fewer wellFormed.bounded

theorem length_dedup_le {keys others : List κ} (among : keys ⊆ others) :
    keys.dedup.length ≤ others.dedup.length := by
  apply ((List.nodup_dedup keys).subperm _).length_le
  intro key member
  rw [List.mem_dedup] at member ⊢
  exact among member

/-- A cache that may keep as many entries as there are keys at all has room for each. -/
theorem WellFormed.room {cache : Lru κ α} (wellFormed : cache.WellFormed) {key : κ}
    {keys : List κ} (known : cache.keys ⊆ keys) (member : key ∈ keys)
    (bound : keys.dedup.length ≤ cache.capacity) :
    (without key cache.entries).length < cache.capacity := by
  have distinct := wellFormed.nodup_cons key
  have among : key :: (cache.remove key).2.keys ⊆ keys.dedup := by
    intro other inside
    rw [List.mem_dedup]
    rcases List.mem_cons.mp inside with rfl | inside
    · exact member
    · exact known (((without_sublist key cache.entries).map Prod.fst).subset inside)
  have counted := (distinct.subperm among).length_le
  rw [List.length_cons, length_keys] at counted
  exact Nat.lt_of_lt_of_le (Nat.lt_of_succ_le counted) bound

/-! ## Writing -/

theorem peek?_put_self (cache : Lru κ α) (key : κ) (value : α) (enabled : 0 < cache.capacity) :
    (cache.put key value).peek? key = some value := by
  obtain ⟨rest, succ⟩ := Nat.exists_eq_succ_of_ne_zero (Nat.pos_iff_ne_zero.mp enabled)
  simp [peek?, put, succ]

theorem keys_put (cache : Lru κ α) (key : κ) (value : α) :
    (cache.put key value).keys = (key :: cache.keys.filter (· ≠ key)).take cache.capacity := by
  simp [put, keys, List.map_take, map_fst_without]

/-- After a write nothing is found but what was written and what was found before. -/
theorem of_peek?_put_eq_some {cache : Lru κ α} {key other : κ} {value found : α}
    (kept : (cache.put key value).peek? other = some found) :
    other = key ∧ found = value ∨ cache.peek? other = some found := by
  have whole : ((key, value) :: without key cache.entries).lookup other = some found := by
    rw [← List.take_append_drop cache.capacity ((key, value) :: without key cache.entries),
      List.lookup_append]
    exact Option.or_eq_some_iff.mpr (Or.inl kept)
  by_cases same : other = key
  · subst same
    rw [List.lookup_cons_self] at whole
    exact Or.inl ⟨rfl, (Option.some.inj whole).symm⟩
  · rw [List.lookup_cons, beq_false_of_ne same] at whole
    exact Or.inr ((lookup_without_of_ne same cache.entries).symm.trans whole)

theorem peek?_put_of_room {cache : Lru κ α} {key other : κ} (value : α) (ne : other ≠ key)
    (room : (without key cache.entries).length < cache.capacity) :
    (cache.put key value).peek? other = cache.peek? other := by
  have whole : ((key, value) :: without key cache.entries).take cache.capacity =
      (key, value) :: without key cache.entries :=
    List.take_of_length_le room
  rw [peek?, put, whole, List.lookup_cons, beq_false_of_ne ne]
  exact lookup_without_of_ne ne cache.entries

/-- A cache into which nothing more fits is full and does not know the key. -/
theorem WellFormed.full_of_no_room {cache : Lru κ α} (wellFormed : cache.WellFormed) {key : κ}
    (noRoom : cache.capacity ≤ (without key cache.entries).length) :
    cache.peek? key = none ∧ cache.size = cache.capacity := by
  have shorter := length_without_le key cache.entries
  have bounded := wellFormed.bounded
  unfold size at bounded
  constructor
  · exact lookup_eq_none_of_length_le (Nat.le_trans bounded noRoom)
  · unfold size
    omega

theorem not_evicts_of_room {cache : Lru κ α} {key victim : κ}
    (room : (without key cache.entries).length < cache.capacity) :
    ¬ cache.Evicts key victim := by
  rintro ⟨absent, full, -⟩
  have same : without key cache.entries = cache.entries := without_eq_self absent
  rw [same, ← full] at room
  exact Nat.lt_irrefl _ room

/-- Writing a new key into a full cache takes the place of the last entry. -/
theorem entries_put_of_full {cache : Lru κ α} {key : κ} (value : α)
    (enabled : 0 < cache.capacity) (absent : cache.peek? key = none)
    (full : cache.size = cache.capacity) :
    (cache.put key value).entries = (key, value) :: cache.entries.dropLast := by
  have same : without key cache.entries = cache.entries := without_eq_self absent
  obtain ⟨count, succ⟩ := Nat.exists_eq_succ_of_ne_zero (Nat.pos_iff_ne_zero.mp enabled)
  have long : cache.entries.length - 1 = count := by
    unfold size at full
    omega
  rw [put, same, succ, List.take_succ_cons, List.dropLast_eq_take, long]

/-- Writing a key leaves the value of any other alone, unless it drives it out. -/
theorem WellFormed.peek?_put_of_ne {cache : Lru κ α} (wellFormed : cache.WellFormed)
    {key other : κ} (value : α) (ne : other ≠ key) (enabled : 0 < cache.capacity)
    (kept : ¬ cache.Evicts key other) :
    (cache.put key value).peek? other = cache.peek? other := by
  by_cases room : (without key cache.entries).length < cache.capacity
  · exact peek?_put_of_room value ne room
  · obtain ⟨absent, full⟩ := wellFormed.full_of_no_room (Nat.le_of_not_lt room)
    have nonempty : cache.entries ≠ [] := by
      apply List.ne_nil_of_length_pos
      unfold size at full
      omega
    have split := List.dropLast_concat_getLast nonempty
    have lastKey : (cache.entries.getLast nonempty).1 ≠ other := by
      intro same
      apply kept
      refine ⟨absent, full, ?_⟩
      rw [keys, List.getLast?_map, List.getLast?_eq_some_getLast nonempty, Option.map_some, same]
    rw [peek?, entries_put_of_full value enabled absent full, List.lookup_cons,
      beq_false_of_ne ne, peek?, ← split, List.lookup_append, split]
    cases found : cache.entries.dropLast.lookup other with
    | some value => rfl
    | none => exact (List.lookup_eq_none_iff.mpr (by simpa using lastKey.symm)).symm

theorem WellFormed.peek?_put_of_evicts {cache : Lru κ α} (wellFormed : cache.WellFormed)
    {key victim : κ} (value : α) (enabled : 0 < cache.capacity)
    (evicted : cache.Evicts key victim) : (cache.put key value).peek? victim = none := by
  have split : cache.keys = cache.entries.dropLast.map Prod.fst ++ [victim] := by
    obtain ⟨front, front_eq⟩ := List.getLast?_eq_some_iff.mp evicted.oldest
    rw [front_eq, List.map_dropLast, ← keys, front_eq, List.dropLast_concat]
  have distinct := wellFormed.distinct
  rw [split, List.nodup_append] at distinct
  have ne : key ≠ victim := by
    rintro rfl
    exact peek?_eq_none_iff.mp evicted.absent (by simp [split])
  rw [peek?_eq_none_iff, keys,
    entries_put_of_full value enabled evicted.absent evicted.full, List.map_cons, List.mem_cons]
  rintro (same | member)
  · exact ne same.symm
  · exact distinct.2.2 victim member victim (List.mem_singleton_self victim) rfl

/-- A write that drives out one key leaves the values of all others alone. -/
theorem WellFormed.peek?_put_evicting {cache : Lru κ α} (wellFormed : cache.WellFormed)
    {key victim other : κ} (value : α) (enabled : 0 < cache.capacity)
    (evicted : cache.Evicts key victim) (ne : other ≠ key) :
    (cache.put key value).peek? other = if other = victim then none else cache.peek? other := by
  split
  next same =>
    rw [same]
    exact wellFormed.peek?_put_of_evicts value enabled evicted
  next spared =>
    apply wellFormed.peek?_put_of_ne value ne enabled
    intro again
    exact spared (Option.some.inj (again.oldest.symm.trans evicted.oldest))

/-- A new key in a full cache always drives one out. -/
theorem exists_evicts {cache : Lru κ α} {key : κ} (enabled : 0 < cache.capacity)
    (absent : cache.peek? key = none) (full : cache.size = cache.capacity) :
    ∃ victim, cache.Evicts key victim := by
  have occupied : cache.keys ≠ [] := by
    apply List.ne_nil_of_length_pos
    rwa [length_keys, full]
  exact ⟨cache.keys.getLast occupied, absent, full, List.getLast?_eq_some_getLast occupied⟩

theorem Evicts.mem_keys {cache : Lru κ α} {key victim : κ} (evicted : cache.Evicts key victim) :
    victim ∈ cache.keys :=
  List.mem_of_getLast? evicted.oldest

theorem WellFormed.put {cache : Lru κ α} (wellFormed : cache.WellFormed) (key : κ) (value : α) :
    (cache.put key value).WellFormed := by
  constructor
  · have whole : (((key, value) :: without key cache.entries).map Prod.fst).Nodup :=
      wellFormed.nodup_cons key
    exact whole.sublist ((List.take_sublist _ _).map Prod.fst)
  · exact List.length_take_le _ _

end Lru

namespace ReplyCache

/-- The replies that are tracked for a source message. -/
def repliesTo (cache : ReplyCache) (key : MessageKey) : List ReplyRecord :=
  (cache.peek? key).getD []

/-- A well-formed cache of replies has no entry without replies. -/
structure Tidy (cache : ReplyCache) : Prop extends Lru.WellFormed cache where
  nonempty : ∀ entry ∈ cache.entries, entry.2 ≠ []

theorem tidy_empty (capacity : Nat) : Tidy (Lru.empty capacity) where
  toWellFormed := Lru.wellFormed_empty capacity
  nonempty := by simp [Lru.empty]

theorem mem_entries_of_repliesTo {cache : ReplyCache} {key : MessageKey}
    (tracked : cache.repliesTo key ≠ []) : (key, cache.repliesTo key) ∈ cache.entries := by
  cases found : cache.peek? key with
  | none => simp [repliesTo, found] at tracked
  | some replies =>
      have member := Lru.mem_entries_of_peek? found
      simpa [repliesTo, found] using member

theorem Tidy.peek?_eq {cache : ReplyCache} (tidy : cache.Tidy) (key : MessageKey) :
    cache.peek? key =
      if (cache.repliesTo key).isEmpty then none else some (cache.repliesTo key) := by
  cases found : cache.peek? key with
  | none => simp [repliesTo, found]
  | some replies =>
      have nonempty := tidy.nonempty _ (Lru.mem_entries_of_peek? found)
      simpa [repliesTo, found] using nonempty

theorem Tidy.peek?_eq_none_iff {cache : ReplyCache} (tidy : cache.Tidy) {key : MessageKey} :
    cache.peek? key = none ↔ cache.repliesTo key = [] := by
  rw [tidy.peek?_eq]
  simp

@[simp]
theorem store_nil (cache : ReplyCache) (key : MessageKey) :
    store cache key [] = (cache.remove key).2 :=
  rfl

theorem store_of_ne_nil (cache : ReplyCache) (key : MessageKey) {replies : List ReplyRecord}
    (nonempty : replies ≠ []) : store cache key replies = cache.put key replies := by
  simp [store, nonempty]

/-- It makes no difference to a write whether the entry was read before. -/
theorem store_get? (cache : ReplyCache) (key : MessageKey) (replies : List ReplyRecord) :
    store (cache.get? key).2 key replies = store cache key replies := by
  simp [store, Lru.put, Lru.remove]

@[simp]
theorem capacity_store (cache : ReplyCache) (key : MessageKey) (replies : List ReplyRecord) :
    (store cache key replies).capacity = cache.capacity := by
  unfold store
  split <;> rfl

/-- After a write there is nothing but the new entry and old ones of other keys. -/
theorem mem_store {cache : ReplyCache} {key : MessageKey} {replies : List ReplyRecord}
    {entry : MessageKey × List ReplyRecord} (member : entry ∈ (store cache key replies).entries) :
    entry = (key, replies) ∧ replies ≠ [] ∨ entry ∈ cache.entries ∧ entry.1 ≠ key := by
  by_cases nonempty : replies = []
  · subst nonempty
    exact Or.inr (Lru.mem_without.mp member)
  · rw [store_of_ne_nil cache key nonempty] at member
    rcases List.mem_cons.mp (List.mem_of_mem_take member) with rfl | other
    · exact Or.inl ⟨rfl, nonempty⟩
    · exact Or.inr (Lru.mem_without.mp other)

theorem keys_store_subset {cache : ReplyCache} {keys : List MessageKey}
    (known : cache.keys ⊆ keys) (key : MessageKey) (replies : List ReplyRecord) :
    (store cache key replies).keys ⊆ keys ++ [key] := by
  intro other member
  obtain ⟨entry, inside, rfl⟩ := List.mem_map.mp member
  rcases mem_store inside with ⟨rfl, -⟩ | ⟨old, -⟩
  · exact List.mem_append_right _ (List.mem_singleton_self _)
  · exact List.mem_append_left _ (known (List.mem_map_of_mem old))

theorem Tidy.store {cache : ReplyCache} (tidy : cache.Tidy) (key : MessageKey)
    (replies : List ReplyRecord) : (store cache key replies).Tidy := by
  constructor
  · unfold ReplyCache.store
    split
    · exact tidy.toWellFormed.remove key
    · exact tidy.toWellFormed.put key replies
  · intro entry member
    rcases mem_store member with ⟨rfl, nonempty⟩ | ⟨old, -⟩
    · exact nonempty
    · exact tidy.nonempty entry old

theorem repliesTo_store_self (cache : ReplyCache) (key : MessageKey)
    (replies : List ReplyRecord) (enabled : 0 < cache.capacity) :
    (store cache key replies).repliesTo key = replies := by
  by_cases nonempty : replies = []
  · subst nonempty
    simp [repliesTo, Lru.peek?_remove_self]
  · rw [store_of_ne_nil cache key nonempty, repliesTo, Lru.peek?_put_self cache key replies enabled]
    rfl

/-- A write leaves the replies to all other messages alone, unless it drives their
entry out. -/
theorem Tidy.repliesTo_store_of_ne {cache : ReplyCache} (tidy : cache.Tidy)
    {key other : MessageKey} (replies : List ReplyRecord) (ne : other ≠ key)
    (kept : replies = [] ∨ 0 < cache.capacity ∧ ¬ cache.Evicts key other) :
    (ReplyCache.store cache key replies).repliesTo other = cache.repliesTo other := by
  unfold repliesTo
  by_cases nonempty : replies = []
  · subst nonempty
    rw [store_nil, Lru.peek?_remove_of_ne cache ne]
  · obtain ⟨enabled, kept⟩ := kept.resolve_left nonempty
    rw [store_of_ne_nil cache key nonempty,
      tidy.toWellFormed.peek?_put_of_ne replies ne enabled kept]

/-- A cache that is off, or has room for every message that it is told of, keeps what is
written for a message, if it keeps anything, and leaves the replies to all others alone. -/
theorem Tidy.repliesTo_store_of_room {cache : ReplyCache} (tidy : cache.Tidy)
    {keys : List MessageKey} {key : MessageKey} (known : cache.keys ⊆ keys) (member : key ∈ keys)
    (room : cache.capacity = 0 ∨ keys.dedup.length ≤ cache.capacity)
    (replies : List ReplyRecord) :
    (ReplyCache.store cache key replies).repliesTo key =
        (if cache.isEnabled then replies else []) ∧
      ∀ other, other ≠ key →
        (ReplyCache.store cache key replies).repliesTo other = cache.repliesTo other := by
  by_cases off : cache.capacity = 0
  · have nothing : ∀ other, (ReplyCache.store cache key replies).repliesTo other = [] := by
      intro other
      have empty := (tidy.store key replies).entries_eq_nil ((capacity_store _ _ _).trans off)
      simp [repliesTo, Lru.peek?, empty]
    have before : ∀ other, cache.repliesTo other = [] := by
      intro other
      simp [repliesTo, Lru.peek?, tidy.entries_eq_nil off]
    refine ⟨?_, fun other _ => (nothing other).trans (before other).symm⟩
    rw [nothing, Lru.isEnabled, off]
    rfl
  · have enabled := Nat.pos_of_ne_zero off
    have fits := tidy.room known member (room.resolve_left off)
    refine ⟨?_, fun other ne => ?_⟩
    · rw [if_pos (Lru.isEnabled_eq_true.mpr enabled), repliesTo_store_self _ _ _ enabled]
    · exact tidy.repliesTo_store_of_ne replies ne
        (Or.inr ⟨enabled, Lru.not_evicts_of_room fits⟩)

/-- After a write a message has no replies, or those that were written for it, or those
that it had. -/
theorem repliesTo_store (cache : ReplyCache) (key other : MessageKey)
    (replies : List ReplyRecord) :
    (store cache key replies).repliesTo other = [] ∨
      other = key ∧ (store cache key replies).repliesTo other = replies ∨
      (store cache key replies).repliesTo other = cache.repliesTo other := by
  by_cases nonempty : replies = []
  · subst nonempty
    by_cases own : other = key
    · subst own
      left
      rw [store_nil, repliesTo, Lru.peek?_remove_self]
      rfl
    · right; right
      rw [store_nil, repliesTo, Lru.peek?_remove_of_ne cache own]
      rfl
  · rw [store_of_ne_nil cache key nonempty]
    cases found : (cache.put key replies).peek? other with
    | none => exact Or.inl (by simp [repliesTo, found])
    | some tracked =>
        right
        rcases Lru.of_peek?_put_eq_some found with ⟨own, written⟩ | old
        · exact Or.inl ⟨own, by simp [repliesTo, found, written]⟩
        · exact Or.inr (by simp [repliesTo, found, old])

end ReplyCache

end ChatBot
