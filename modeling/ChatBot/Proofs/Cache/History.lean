import ChatBot.Proofs.Cache.Replacement
import Mathlib.Data.List.Induction

/-!
# A cache of replies against its history

What a cache of replies holds is told by the operations that were carried out on it.  Storing
replies for a message touches its key, and so does finding them.  The keys that are stored stand in
the order of their latest touches, so the one that gives way is the one that all others were touched
after; and a key with replies that was not taken out stays until as many other keys were touched as
the cache may hold.
-/

namespace ChatBot

namespace ReplyCache

/-- What can be done with a cache of replies. -/
inductive Operation where
  | put (key : MessageKey) (replies : List ReplyRecord)
  | get (key : MessageKey)
  | remove (key : MessageKey)
  | count
  deriving DecidableEq

namespace Operation

/-- The cache after an operation. -/
def applyTo (cache : ReplyCache) : Operation → ReplyCache
  | put key replies => store cache key replies
  | get key => (cache.get? key).2
  | remove key => (cache.remove key).2
  | count => cache

/-- The key that an operation touches: it puts replies for it, or gets replies of it. -/
def touched? (cache : ReplyCache) : Operation → Option MessageKey
  | put key replies => if replies.isEmpty then none else some key
  | get key => (cache.get? key).1.map fun _ => key
  | remove _ => none
  | count => none

/-- The replies that an operation puts for a key, if there are any. -/
def putFor? (key : MessageKey) : Operation → Option (List ReplyRecord)
  | put own replies => if own = key then entryOf replies else none
  | _ => none

/-- The key that an operation is about. -/
def key? : Operation → Option MessageKey
  | put key _ => some key
  | get key => some key
  | remove key => some key
  | count => none

/-- An operation takes a key out of the cache. -/
def Forgets (key : MessageKey) (operation : Operation) : Prop :=
  operation = remove key ∨ operation = put key []

instance (key : MessageKey) (operation : Operation) : Decidable (operation.Forgets key) :=
  inferInstanceAs (Decidable (_ ∨ _))

/-- An operation stores a new key in a full cache, where it takes the place of another. -/
def DrivesOut (cache : ReplyCache) (victim : MessageKey) (operation : Operation) : Prop :=
  ∃ new replies, operation = put new replies ∧ replies ≠ [] ∧ cache.Evicts new victim

end Operation

/-- A cache after operations, one after the other. -/
def afterAll (cache : ReplyCache) (history : List Operation) : ReplyCache :=
  history.foldl (fun cache operation => operation.applyTo cache) cache

/-- The keys that operations touch, one after the other. -/
def touches (cache : ReplyCache) : List Operation → List MessageKey
  | [] => []
  | operation :: rest => (operation.touched? cache).toList ++ touches (operation.applyTo cache) rest

/-- The keys that were touched since the latest touch of a key, the latest first. -/
def touchedSince (touches : List MessageKey) (key : MessageKey) : List MessageKey :=
  touches.reverse.takeWhile (· ≠ key)

/-- The replies that were put for a key last. -/
def latestPut? (history : List Operation) (key : MessageKey) : Option (List ReplyRecord) :=
  history.reverse.findSome? (·.putFor? key)

/-- Replies were put for a key, and since then the key was not taken out. -/
def Live (history : List Operation) (key : MessageKey) : Prop :=
  ∃ before replies after, history = before ++ .put key replies :: after ∧ replies ≠ [] ∧
    ∀ operation ∈ after, ¬ operation.Forgets key

/-! ## Histories that grow at their end -/

section Growing

variable {cache : ReplyCache} {history : List Operation} {operation : Operation}
  {all : List MessageKey} {key other : MessageKey}

theorem afterAll_concat : cache.afterAll (history ++ [operation]) =
    operation.applyTo (cache.afterAll history) := by
  rw [afterAll, List.foldl_concat, afterAll]

theorem touches_concat : touches cache (history ++ [operation]) =
    touches cache history ++ (operation.touched? (cache.afterAll history)).toList := by
  induction history generalizing cache with
  | nil => simp [touches, afterAll]
  | cons first rest ih => simp [touches, ih, afterAll]

theorem touchedSince_concat_of_ne (ne : other ≠ key) :
    touchedSince (all ++ [other]) key = other :: touchedSince all key := by
  simp [touchedSince, ne]

theorem latestPut?_concat :
    latestPut? (history ++ [operation]) key =
      (operation.putFor? key).or (latestPut? history key) := by
  rw [latestPut?, List.reverse_concat, List.findSome?_cons, latestPut?]
  cases operation.putFor? key <;> rfl

theorem live_concat (live : Live (history ++ [operation]) key) :
    (∃ replies, replies ≠ [] ∧ operation = .put key replies) ∨
      Live history key ∧ ¬ operation.Forgets key := by
  obtain ⟨before, replies, after, split, nonempty, kept⟩ := live
  rcases List.eq_nil_or_concat after with rfl | ⟨earlier, last, rfl⟩
  · obtain ⟨-, same⟩ := List.append_inj' split rfl
    exact Or.inl ⟨replies, nonempty, List.singleton_inj.mp same⟩
  · rw [List.concat_eq_append, ← List.cons_append, ← List.append_assoc] at split
    obtain ⟨rfl, same⟩ := List.append_inj' split rfl
    obtain rfl := List.singleton_inj.mp same
    refine Or.inr ⟨⟨before, replies, earlier, rfl, nonempty, ?_⟩, kept _ (by simp)⟩
    intro other member
    exact kept other (by simp [member])

end Growing

/-! ## What an operation does -/

section Effects

variable {cache : ReplyCache} {operation : Operation} {key other : MessageKey}

theorem Tidy.get? (tidy : cache.Tidy) (key : MessageKey) : Tidy (cache.get? key).2 where
  toWellFormed := tidy.toWellFormed.get? key
  nonempty := by
    intro entry member
    cases found : cache.peek? key with
    | none =>
        rw [Lru.get?_eq_self found] at member
        exact tidy.nonempty entry member
    | some replies =>
        rw [Lru.entries_get? found] at member
        rcases List.mem_cons.mp member with rfl | other
        · exact tidy.nonempty _ (Lru.mem_entries_of_peek? found)
        · exact tidy.nonempty entry (Lru.mem_without.mp other).1

theorem Tidy.applyTo (tidy : cache.Tidy) (operation : Operation) :
    Tidy (operation.applyTo cache) := by
  cases operation with
  | put key replies => exact tidy.store key replies
  | get key => exact tidy.get? key
  | remove key => exact tidy.store key []
  | count => exact tidy

theorem capacity_applyTo (cache : ReplyCache) (operation : Operation) :
    (operation.applyTo cache).capacity = cache.capacity := by
  cases operation with
  | put key replies => exact capacity_store cache key replies
  | get key => exact Lru.capacity_get? cache key
  | remove key => rfl
  | count => rfl

/-- An operation that touches nothing brings no key to the front. -/
theorem keys_applyTo_of_untouched (untouched : operation.touched? cache = none) :
    (operation.applyTo cache).keys.Sublist cache.keys := by
  have removed (key : MessageKey) : (cache.remove key).2.keys.Sublist cache.keys :=
    (Lru.without_sublist key cache.entries).map Prod.fst
  cases operation with
  | put key replies =>
      have none : replies = [] := by simpa [Operation.touched?] using untouched
      subst none
      exact removed key
  | get key =>
      have absent : cache.peek? key = none := by simpa [Operation.touched?] using untouched
      rw [Operation.applyTo, Lru.get?_eq_self absent]
  | remove key => exact removed key
  | count => exact List.Sublist.refl _

/-- An operation that touches a key puts replies for it or finds replies of it. -/
theorem of_touched? (touched : operation.touched? cache = some key) :
    (∃ replies, replies ≠ [] ∧ operation = .put key replies) ∨
      ∃ replies, cache.peek? key = some replies ∧ operation = .get key := by
  cases operation with
  | put own replies =>
      obtain ⟨nonempty, rfl⟩ : ¬ replies = [] ∧ own = key := by
        simpa [Operation.touched?] using touched
      exact Or.inl ⟨replies, nonempty, rfl⟩
  | get own =>
      obtain ⟨⟨replies, found⟩, rfl⟩ : (∃ replies, cache.peek? own = some replies) ∧ own = key := by
        simpa [Operation.touched?] using touched
      exact Or.inr ⟨replies, found, rfl⟩
  | remove own => simp [Operation.touched?] at touched
  | count => simp [Operation.touched?] at touched

/-- The key that is touched comes to the front. -/
theorem keys_applyTo_of_touched (touched : operation.touched? cache = some key) :
    (operation.applyTo cache).keys.Sublist (key :: cache.keys.filter (· ≠ key)) := by
  rcases of_touched? touched with ⟨replies, nonempty, rfl⟩ | ⟨replies, found, rfl⟩
  · rw [Operation.applyTo, store_of_ne_nil cache key nonempty, Lru.keys_put]
    exact List.take_sublist _ _
  · rw [Operation.applyTo, Lru.keys_get? found]

theorem peek?_applyTo_of_touched (enabled : 0 < cache.capacity)
    (touched : operation.touched? cache = some key) :
    (operation.applyTo cache).peek? key ≠ none := by
  rcases of_touched? touched with ⟨replies, nonempty, rfl⟩ | ⟨replies, found, rfl⟩
  · exact peek?_store_ne_none enabled key nonempty
  · rw [Operation.applyTo, Lru.peek?_get?, found]
    exact Option.some_ne_none replies

/-- An operation on one key leaves what is stored under another alone, unless it drives it out. -/
theorem Tidy.peek?_applyTo_of_ne (tidy : cache.Tidy) (enabled : 0 < cache.capacity)
    (ne : operation.key? ≠ some key) (kept : ¬ operation.DrivesOut cache key) :
    (operation.applyTo cache).peek? key = cache.peek? key := by
  cases operation with
  | put new replies =>
      have other : key ≠ new := fun own => ne (congrArg some own.symm)
      by_cases empty : replies = []
      · subst empty
        exact Lru.peek?_remove_of_ne cache other
      · rw [Operation.applyTo, store_of_ne_nil cache new empty]
        apply tidy.toWellFormed.peek?_put_of_ne replies other enabled
        intro evicted
        exact kept ⟨new, replies, rfl, empty, evicted⟩
  | get new => exact Lru.peek?_get? cache new key
  | remove new => exact Lru.peek?_remove_of_ne cache fun own => ne (congrArg some own.symm)
  | count => rfl

theorem peek?_applyTo_of_putFor? (enabled : 0 < cache.capacity) {replies : List ReplyRecord}
    (put : operation.putFor? key = some replies) :
    (operation.applyTo cache).peek? key = some replies := by
  cases operation with
  | put own given =>
      obtain ⟨rfl, entry⟩ : own = key ∧ entryOf given = some replies := by
        simpa [Operation.putFor?] using put
      exact (peek?_store_self cache own given enabled).trans entry
  | get own => cases put
  | remove own => cases put
  | count => cases put

/-- What is found after an operation, and was not put by it, was found before. -/
theorem peek?_of_applyTo {replies : List ReplyRecord} (none : operation.putFor? key = none)
    (found : (operation.applyTo cache).peek? key = some replies) :
    cache.peek? key = some replies := by
  cases operation with
  | put own given =>
      by_cases same : key = own
      · have empty : given = [] := by simpa [Operation.putFor?, entryOf, same] using none
        subst empty
        exact Lru.of_peek?_remove_eq_some found
      · exact peek?_of_store same found
  | get own => rwa [Operation.applyTo, Lru.peek?_get?] at found
  | remove own => exact Lru.of_peek?_remove_eq_some found
  | count => exact found

/-- A key that is no longer found was taken out or driven out. -/
theorem Tidy.lost (tidy : cache.Tidy) (enabled : 0 < cache.capacity)
    (held : cache.peek? key ≠ none) (lost : (operation.applyTo cache).peek? key = none) :
    operation.Forgets key ∨ operation.DrivesOut cache key := by
  by_contra kept
  obtain ⟨remembers, leaves⟩ := not_or.mp kept
  have own : operation.key? = some key := by
    by_contra ne
    exact held ((tidy.peek?_applyTo_of_ne enabled ne leaves).symm.trans lost)
  cases operation with
  | put new replies =>
      obtain rfl := Option.some.inj own
      by_cases empty : replies = []
      · exact remembers (Or.inr (by rw [empty]))
      · exact peek?_store_ne_none enabled new empty lost
  | get new => exact held ((Lru.peek?_get? cache new key).symm.trans lost)
  | remove new => exact remembers (Or.inl (congrArg Operation.remove (Option.some.inj own)))
  | count => cases own

end Effects

/-! ## What a cache remembers of its history -/

/-- A cache holds replies as they were put last, its keys stand in the order of their latest
touches, and a live key that it does not hold was overtaken by as many keys as it may hold. -/
structure Recalls (capacity : Nat) (history : List Operation) (touches : List MessageKey)
    (cache : ReplyCache) : Prop extends Tidy cache where
  capacity_eq : cache.capacity = capacity
  touched : cache.keys ⊆ touches
  ordered : cache.keys.Pairwise fun recent older => recent ∈ touchedSince touches older
  latest : ∀ key replies, cache.peek? key = some replies → latestPut? history key = some replies
  overtaken : ∀ key, Live history key → cache.peek? key = none →
    capacity ≤ (touchedSince touches key).dedup.length

namespace Recalls

variable {capacity : Nat} {history : List Operation} {touches : List MessageKey}
  {cache : ReplyCache}

theorem empty (capacity : Nat) : Recalls capacity [] [] (.empty capacity) where
  toTidy := tidy_empty capacity
  capacity_eq := rfl
  touched := List.Subset.refl _
  ordered := List.Pairwise.nil
  latest := by simp [Lru.peek?, Lru.empty]
  overtaken := by
    rintro key ⟨before, replies, after, split, -⟩ -
    simp at split

/-- The key that gives way is the one that all others were touched after. -/
theorem touchedSince_of_evicts (recalls : Recalls capacity history touches cache)
    {new victim : MessageKey} (evicts : cache.Evicts new victim) {other : MessageKey}
    (member : other ∈ cache.keys) (ne : other ≠ victim) :
    other ∈ touchedSince touches victim := by
  obtain ⟨front, keys_eq⟩ := List.getLast?_eq_some_iff.mp evicts.oldest
  have ordered := recalls.ordered
  rw [keys_eq] at member ordered
  have inFront : other ∈ front := by simpa [ne] using member
  exact (List.pairwise_append.mp ordered).2.2 other inFront victim (List.mem_singleton_self victim)

/-- A key that gives way was overtaken by the new key and all others that are stored. -/
theorem overtaken_of_evicts (recalls : Recalls capacity history touches cache)
    {new victim : MessageKey} (evicts : cache.Evicts new victim) :
    capacity ≤ (new :: touchedSince touches victim).dedup.length := by
  obtain ⟨front, keys_eq⟩ := List.getLast?_eq_some_iff.mp evicts.oldest
  have distinct := recalls.distinct
  rw [keys_eq, List.nodup_append] at distinct
  have among : new :: front ⊆ new :: touchedSince touches victim := by
    apply List.cons_subset_cons
    intro other inFront
    apply recalls.touchedSince_of_evicts evicts (by simp [keys_eq, inFront])
    exact distinct.2.2 other inFront victim (List.mem_singleton_self victim)
  have fresh : new ∉ front := by
    intro inFront
    exact Lru.peek?_eq_none_iff.mp evicts.absent (by simp [keys_eq, inFront])
  have many : (new :: front).length = capacity := by
    rw [← recalls.capacity_eq, ← evicts.full, ← Lru.length_keys, keys_eq]
    simp
  rw [← many, ← (List.nodup_cons.mpr ⟨fresh, distinct.1⟩).dedup]
  exact Lru.length_dedup_le among

/-- A key that was overtaken stays so until it is touched itself. -/
theorem le_touchedSince_concat {key other : MessageKey} (ne : other ≠ key)
    (overtaken : capacity ≤ (touchedSince touches key).dedup.length) :
    capacity ≤ (touchedSince (touches ++ [other]) key).dedup.length := by
  rw [touchedSince_concat_of_ne ne]
  exact Nat.le_trans overtaken (Lru.length_dedup_le (List.subset_cons_self _ _))

theorem ordered_applyTo (recalls : Recalls capacity history touches cache)
    (operation : Operation) :
    (operation.applyTo cache).keys.Pairwise fun recent older =>
      recent ∈ touchedSince (touches ++ (operation.touched? cache).toList) older := by
  cases touched : operation.touched? cache with
  | none =>
      rw [Option.toList_none, List.append_nil]
      exact recalls.ordered.sublist (keys_applyTo_of_untouched touched)
  | some key =>
      apply List.Pairwise.sublist (keys_applyTo_of_touched touched)
      rw [Option.toList_some, List.pairwise_cons]
      constructor
      · intro older member
        have ne : key ≠ older := by
          rintro rfl
          simp at member
        rw [touchedSince_concat_of_ne ne]
        exact List.mem_cons_self
      · have others := recalls.ordered.sublist
          (List.filter_sublist (p := fun other => decide (other ≠ key)))
        apply others.imp_of_mem
        intro recent older _ member earlier
        have ne : key ≠ older := by
          rintro rfl
          simp at member
        rw [touchedSince_concat_of_ne ne]
        exact List.mem_cons_of_mem key earlier

theorem touched_applyTo (recalls : Recalls capacity history touches cache)
    (operation : Operation) :
    (operation.applyTo cache).keys ⊆ touches ++ (operation.touched? cache).toList := by
  intro key member
  cases touched : operation.touched? cache with
  | none =>
      have before := (keys_applyTo_of_untouched touched).subset member
      exact List.mem_append_left _ (recalls.touched before)
  | some front =>
      rcases List.mem_cons.mp ((keys_applyTo_of_touched touched).subset member) with rfl | before
      · simp
      · exact List.mem_append_left _ (recalls.touched (List.mem_of_mem_filter before))

theorem overtaken_applyTo (recalls : Recalls capacity history touches cache)
    (enabled : 0 < capacity) (operation : Operation) {key : MessageKey}
    (live : Live (history ++ [operation]) key)
    (absent : (operation.applyTo cache).peek? key = none) :
    capacity ≤
      (touchedSince (touches ++ (operation.touched? cache).toList) key).dedup.length := by
  rw [← recalls.capacity_eq] at enabled
  obtain ⟨earlier, remembers⟩ : Live history key ∧ ¬ operation.Forgets key := by
    refine (live_concat live).resolve_left ?_
    rintro ⟨replies, nonempty, rfl⟩
    exact peek?_store_ne_none enabled key nonempty absent
  by_cases held : cache.peek? key = none
  · have overtaken := recalls.overtaken key earlier held
    cases touched : operation.touched? cache with
    | none => rwa [Option.toList_none, List.append_nil]
    | some front =>
        apply le_touchedSince_concat _ overtaken
        rintro rfl
        exact peek?_applyTo_of_touched enabled touched absent
  · obtain ⟨new, replies, rfl, nonempty, evicts⟩ :=
      (recalls.toTidy.lost enabled held absent).resolve_left remembers
    have ne : new ≠ key := by
      rintro rfl
      exact held evicts.absent
    have touched : (Operation.put new replies).touched? cache = some new := by
      simp [Operation.touched?, nonempty]
    rw [touched, Option.toList_some, touchedSince_concat_of_ne ne]
    exact recalls.overtaken_of_evicts evicts

theorem latest_applyTo (recalls : Recalls capacity history touches cache)
    (enabled : 0 < capacity) (operation : Operation) {key : MessageKey}
    {replies : List ReplyRecord} (found : (operation.applyTo cache).peek? key = some replies) :
    latestPut? (history ++ [operation]) key = some replies := by
  rw [latestPut?_concat]
  cases put : operation.putFor? key with
  | none =>
      rw [Option.none_or]
      exact recalls.latest key replies (peek?_of_applyTo put found)
  | some given =>
      rw [← recalls.capacity_eq] at enabled
      rw [Option.some_or, ← found, peek?_applyTo_of_putFor? enabled put]

theorem applyTo (recalls : Recalls capacity history touches cache) (enabled : 0 < capacity)
    (operation : Operation) :
    Recalls capacity (history ++ [operation]) (touches ++ (operation.touched? cache).toList)
      (operation.applyTo cache) where
  toTidy := recalls.toTidy.applyTo operation
  capacity_eq := (capacity_applyTo cache operation).trans recalls.capacity_eq
  touched := recalls.touched_applyTo operation
  ordered := recalls.ordered_applyTo operation
  latest _ _ := recalls.latest_applyTo enabled operation
  overtaken _ := recalls.overtaken_applyTo enabled operation

theorem afterAll (enabled : 0 < capacity) (history : List Operation) :
    Recalls capacity history (ReplyCache.touches (.empty capacity) history)
      (ReplyCache.afterAll (.empty capacity) history) := by
  induction history using List.reverseRecOn with
  | nil => exact empty capacity
  | append_singleton earlier operation ih =>
      rw [touches_concat, afterAll_concat]
      exact ih.applyTo enabled operation

end Recalls

/-- What a cache of replies holds after any history.

Its keys are distinct and no more than it may hold, and under each are the replies that were put for
it last.  A key is lost only when it is taken out or when a new key is put into the full cache; that
costs one key and no other, the one that all others were touched after.  Finding nothing, taking out
what is not there and counting change nothing.  A live key is found as long as fewer others were
touched since its latest touch than the cache may hold.  Keys of different channels are different
keys, whatever their timestamps. -/
theorem recalls_latest {capacity : Nat} (enabled : 0 < capacity) (history : List Operation) :
    let cache := afterAll (.empty capacity) history
    let touches := touches (.empty capacity) history
    (cache.keys.Nodup ∧ cache.size ≤ capacity) ∧
    (∀ key replies, cache.peek? key = some replies →
      replies ≠ [] ∧ latestPut? history key = some replies) ∧
    (∀ (operation : Operation) (key : MessageKey),
      cache.peek? key ≠ none → (operation.applyTo cache).peek? key = none →
      operation = .remove key ∨ operation = .put key [] ∨
        ∃ new replies, operation = .put new replies ∧ replies ≠ [] ∧
          cache.peek? new = none ∧ cache.size = capacity) ∧
    (∀ new replies, replies ≠ [] → cache.peek? new = none → cache.size = capacity →
      ∃ victim, cache.peek? victim ≠ none ∧ victim ∈ touches ∧
        (∀ other, cache.peek? other ≠ none → other ≠ victim →
          other ∈ touchedSince touches victim) ∧
        ∀ other, other ≠ new → ((Operation.put new replies).applyTo cache).peek? other =
          if other = victim then none else cache.peek? other) ∧
    (∀ key, cache.peek? key = none →
      (Operation.get key).applyTo cache = cache ∧ (Operation.remove key).applyTo cache = cache ∧
        (Operation.put key []).applyTo cache = cache) ∧
    Operation.count.applyTo cache = cache ∧
    (∀ key, Live history key → (touchedSince touches key).dedup.length < capacity →
      (cache.get? key).1 ≠ none) ∧
    ∀ (channel other : String) (timestamp : Timestamp) (operation : Operation),
      channel ≠ other → operation.key? = some ⟨channel, timestamp⟩ →
      ¬ operation.DrivesOut cache ⟨other, timestamp⟩ →
      (operation.applyTo cache).peek? ⟨other, timestamp⟩ = cache.peek? ⟨other, timestamp⟩ := by
  intro cache touches
  have recalls : Recalls capacity history touches cache := .afterAll enabled history
  have tidy : cache.Tidy := recalls.toTidy
  have capacity_eq := recalls.capacity_eq
  rw [← capacity_eq] at enabled ⊢
  refine ⟨⟨tidy.distinct, tidy.bounded⟩, ?_, ?_, ?_, fun key absent => ?_, rfl, ?_, ?_⟩
  · intro key replies found
    exact ⟨tidy.nonempty _ (Lru.mem_entries_of_peek? found), recalls.latest key replies found⟩
  · intro operation key held lost
    rcases tidy.lost enabled held lost with (removed | emptied) | driven
    · exact Or.inl removed
    · exact Or.inr (Or.inl emptied)
    · obtain ⟨new, replies, rfl, nonempty, evicts⟩ := driven
      exact Or.inr (Or.inr ⟨new, replies, rfl, nonempty, evicts.absent, evicts.full⟩)
  · intro new replies nonempty absent full
    obtain ⟨victim, evicts⟩ := Lru.exists_evicts enabled absent full
    refine ⟨victim, Lru.peek?_ne_none_iff.mpr evicts.mem_keys, recalls.touched evicts.mem_keys,
      ?_, ?_⟩
    · intro other held ne
      exact recalls.touchedSince_of_evicts evicts (Lru.peek?_ne_none_iff.mp held) ne
    · intro other ne
      rw [Operation.applyTo, store_of_ne_nil cache new nonempty]
      exact tidy.toWellFormed.peek?_put_evicting replies enabled evicts ne
  · exact ⟨Lru.get?_eq_self absent, Lru.remove_eq_self absent, Lru.remove_eq_self absent⟩
  · intro key live few
    rw [Lru.get?_fst]
    intro absent
    have many := recalls.overtaken key live absent
    rw [← capacity_eq] at many
    exact Nat.not_lt.mpr many few
  · intro channel other timestamp operation ne own kept
    apply tidy.peek?_applyTo_of_ne enabled _ kept
    rw [own]
    intro same
    exact ne (congrArg MessageKey.channel (Option.some.inj same))

/-- Of two messages the first is asked for again, so a third one costs the second its entry. -/
theorem recalls_latest_in_turn :
    let key (timestamp : String) : MessageKey := ⟨"general", ⟨timestamp⟩⟩
    let reply (text : String) : ReplyRecord := ⟨"general", ⟨"9.0"⟩, text⟩
    let cache := afterAll (.empty 2) [.put (key "1.0") [reply "one"],
      .put (key "2.0") [reply "two"], .get (key "1.0"), .put (key "3.0") [reply "three"]]
    cache.peek? (key "1.0") = some [reply "one"] ∧ cache.peek? (key "2.0") = none := by
  intro key reply cache
  obtain ⟨-, latest, -, -, -, -, survives, -⟩ := recalls_latest (by decide : 0 < 2)
    [.put (key "1.0") [reply "one"], .put (key "2.0") [reply "two"], .get (key "1.0"),
      .put (key "3.0") [reply "three"]]
  have live : Live _ (key "1.0") :=
    ⟨[], [reply "one"], [.put (key "2.0") [reply "two"], .get (key "1.0"),
      .put (key "3.0") [reply "three"]], rfl, by simp, by decide⟩
  have found := survives (key "1.0") live (by decide)
  obtain ⟨replies, found⟩ := Option.ne_none_iff_exists'.mp found
  rw [Lru.get?_fst] at found
  have last := (latest (key "1.0") replies found).2
  exact ⟨found.trans last.symm, rfl⟩

end ReplyCache

end ChatBot
