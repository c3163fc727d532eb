import ChatBot.Proofs.Cache.KnownUsers
import Mathlib.Data.List.Induction

/-!
# Looking users up through the cache

The cache of known users against the sequence of all look-ups.  On a platform that answers from a
fixed table, the cache holds those known users that were looked up last, as many as it may, the
latest first.  So a look-up is answered as by the platform itself, and goes to the platform
unless the user is among those.
-/

namespace ChatBot

/-- To bring a key to the front of the first few of distinct keys, the others are not needed. -/
theorem take_cons_filter_take {κ : Type} [DecidableEq κ] {keys : List κ} (distinct : keys.Nodup)
    (key : κ) (count : Nat) :
    (key :: (keys.take count).filter (· ≠ key)).take count =
      (key :: keys.filter (· ≠ key)).take count := by
  cases count with
  | zero => rfl
  | succ count =>
      rw [List.take_succ_cons, List.take_succ_cons]
      rcases Nat.le_total keys.length (count + 1) with short | long
      · rw [List.take_of_length_le short]
      · -- At most one of the first keys is taken out, so the others still suffice.
        have enough : count ≤ ((keys.take (count + 1)).filter (· ≠ key)).length := by
          have others : (fun other => other != key) = fun other => decide (other ≠ key) := by
            funext other
            by_cases same : other = key <;> simp [same]
          have left := List.le_length_erase (a := key) (l := keys.take (count + 1))
          rw [(distinct.sublist (List.take_sublist _ _)).erase_eq_filter key, others,
            List.length_take_of_le long] at left
          exact left
        conv_rhs => rw [← List.take_append_drop (count + 1) keys, List.filter_append,
          List.take_append_of_le_length enough]

/-- The last occurrences of keys of which one more is added at the end. -/
theorem dedup_concat {κ : Type} [DecidableEq κ] (keys : List κ) (key : κ) :
    (keys ++ [key]).dedup = keys.dedup.filter (· ≠ key) ++ [key] := by
  induction keys with
  | nil => simp
  | cons first rest ih =>
      by_cases same : first = key
      · subst same
        rw [List.cons_append, List.dedup_cons_of_mem (by simp), ih]
        by_cases again : first ∈ rest
        · rw [List.dedup_cons_of_mem again]
        · rw [List.dedup_cons_of_notMem again, List.filter_cons_of_neg (by simp)]
      · by_cases again : first ∈ rest
        · rw [List.cons_append, List.dedup_cons_of_mem (List.mem_append_left _ again), ih,
            List.dedup_cons_of_mem again]
        · rw [List.cons_append, List.dedup_cons_of_notMem (by simp [again, same]), ih,
            List.dedup_cons_of_notMem again, List.filter_cons_of_pos (by simpa using same),
            List.cons_append]

namespace UserFinder

/-- A platform that answers every look-up from a table. -/
def always (table : String → Except ApiError UserInfo) : UserFinder := fun _ => table

end UserFinder

/-- The users of a table that were looked up, each once, the latest first. -/
def latestKnown (table : String → Except ApiError UserInfo) (lookups : List String) :
    List String :=
  (lookups.filter fun user => (table user).isOk).dedup.reverse

section LatestKnown

variable {table : String → Except ApiError UserInfo} {lookups : List String} {user : String}

theorem nodup_latestKnown : (latestKnown table lookups).Nodup :=
  List.nodup_reverse.mpr (List.nodup_dedup _)

theorem mem_latestKnown :
    user ∈ latestKnown table lookups ↔ user ∈ lookups ∧ (table user).isOk = true := by
  simp [latestKnown]

theorem latestKnown_concat_of_known (known : (table user).isOk = true) :
    latestKnown table (lookups ++ [user]) =
      user :: (latestKnown table lookups).filter (· ≠ user) := by
  have last : [user].filter (fun user => (table user).isOk) = [user] := by simp [known]
  rw [latestKnown, List.filter_append, last, dedup_concat, List.reverse_append, latestKnown,
    List.filter_reverse]
  rfl

theorem latestKnown_concat_of_unknown (unknown : (table user).isOk = false) :
    latestKnown table (lookups ++ [user]) = latestKnown table lookups := by
  simp [latestKnown, unknown]

end LatestKnown

namespace UserCache

variable {table : String → Except ApiError UserInfo} {cache : UserCache} {user : String}

/-! ## What is in the cache -/

/-- A cache after look-ups, one after the other. -/
def afterAll (finder : UserFinder) (cache : UserCache) (lookups : List String) : UserCache :=
  lookups.foldl (fun cache user => (cache.find finder user).2.1) cache

/-- A cache holds those known users that were looked up last, and nothing else, and says the
truth of them. -/
structure Holds (table : String → Except ApiError UserInfo) (capacity : Nat)
    (lookups : List String) (cache : UserCache) : Prop where
  capacity_eq : cache.known.capacity = capacity
  keys_eq : cache.known.keys = (latestKnown table lookups).take capacity
  faithful : cache.Faithful (.always table)

namespace Holds

variable {capacity : Nat} {lookups : List String}

theorem empty (table : String → Except ApiError UserInfo) (capacity : Nat) :
    Holds table capacity [] (.empty capacity) where
  capacity_eq := rfl
  keys_eq := by simp [latestKnown, UserCache.empty, Lru.empty, Lru.keys]
  faithful := faithful_empty _ _

/-- The users that are found are those among the latest. -/
theorem peek?_eq_none_iff (holds : Holds table capacity lookups cache) :
    cache.known.peek? user = none ↔ user ∉ (latestKnown table lookups).take capacity := by
  rw [Lru.peek?_eq_none_iff, holds.keys_eq]

theorem keys_brought_to_front (holds : Holds table capacity lookups cache)
    (known : (table user).isOk = true) :
    (user :: cache.known.keys.filter (· ≠ user)).take capacity =
      (latestKnown table (lookups ++ [user])).take capacity := by
  rw [holds.keys_eq, latestKnown_concat_of_known known, take_cons_filter_take nodup_latestKnown]

theorem find (holds : Holds table capacity lookups cache) (user : String) :
    Holds table capacity (lookups ++ [user]) (cache.find (.always table) user).2.1 := by
  obtain ⟨-, faithful⟩ := holds.faithful.find (fun _ _ => rfl) user
  have capacity_eq := holds.capacity_eq
  refine ⟨?_, ?_, faithful⟩
  · cases found : cache.known.peek? user with
    | some info => rw [find_of_hit (.always table) found, ← capacity_eq, Lru.capacity_get?]
    | none =>
        cases answer : table user with
        | ok info => rw [find_of_known (.always table) found answer, ← capacity_eq]; rfl
        | error error => rw [find_of_unknown (.always table) found answer, capacity_eq]
  · cases found : cache.known.peek? user with
    | some info =>
        have answer : table user = .ok info := holds.faithful user info found
        have front := holds.keys_brought_to_front (by rw [answer]; rfl : (table user).isOk = true)
        have among : user ∈ cache.known.keys :=
          List.mem_map_of_mem (Lru.mem_entries_of_peek? found)
        have shorter : (cache.known.keys.filter (· ≠ user)).length < capacity := by
          have fewer := List.length_filter_lt_length_iff_exists (p := (· ≠ user)).mpr
            ⟨user, among, by simp⟩
          have bounded : cache.known.keys.length ≤ capacity := by
            rw [holds.keys_eq]
            exact List.length_take_le _ _
          exact Nat.lt_of_lt_of_le fewer bounded
        rw [find_of_hit (.always table) found, Lru.keys_get? found, ← front,
          List.take_of_length_le shorter]
    | none =>
        cases answer : table user with
        | ok info =>
            have known : (table user).isOk = true := by rw [answer]; rfl
            rw [find_of_known (.always table) found answer, Lru.keys_put, capacity_eq,
              holds.keys_brought_to_front known]
        | error error =>
            have unknown : (table user).isOk = false := by rw [answer]; rfl
            rw [find_of_unknown (.always table) found answer, latestKnown_concat_of_unknown unknown,
              holds.keys_eq]

theorem afterAll (table : String → Except ApiError UserInfo) (capacity : Nat)
    (lookups : List String) :
    Holds table capacity lookups
      ((UserCache.empty capacity).afterAll (.always table) lookups) := by
  induction lookups using List.reverseRecOn with
  | nil => exact empty table capacity
  | append_singleton earlier user ih =>
      rw [UserCache.afterAll, List.foldl_concat]
      exact ih.find user

/-- A look-up is answered as by the platform. -/
theorem find_answer (holds : Holds table capacity lookups cache) (user : String) :
    (cache.find (.always table) user).1 = table user :=
  (holds.faithful.find (fun _ _ => rfl) user).1

/-- A look-up goes to the platform unless the user is among the latest that are known. -/
theorem find_lookups (holds : Holds table capacity lookups cache) (user : String) :
    (cache.find (.always table) user).2.1.lookups =
      cache.lookups + if user ∈ (latestKnown table lookups).take capacity then 0 else 1 := by
  cases found : cache.known.peek? user with
  | some info =>
      have among : user ∈ (latestKnown table lookups).take capacity := by
        by_contra absent
        rw [holds.peek?_eq_none_iff.mpr absent] at found
        cases found
      rw [find_of_hit (.always table) found, if_pos among, Nat.add_zero]
  | none =>
      rw [if_neg (holds.peek?_eq_none_iff.mp found)]
      cases answer : table user with
      | ok info => rw [find_of_known (.always table) found answer]
      | error error => rw [find_of_unknown (.always table) found answer]

/-- The users that are not found are in no cache, so looking them up leaves it as it is. -/
theorem find_known_of_unknown (holds : Holds table capacity lookups cache) {error : ApiError}
    (unknown : table user = .error error) :
    (cache.find (.always table) user).2.1.known = cache.known := by
  cases found : cache.known.peek? user with
  | none => rw [find_of_unknown (.always table) found unknown]
  | some info =>
      have answer : table user = .ok info := holds.faithful user info found
      rw [unknown] at answer
      cases answer

theorem size_eq (holds : Holds table capacity lookups cache) :
    cache.known.size = min capacity (latestKnown table lookups).length := by
  rw [← Lru.length_keys, holds.keys_eq, List.length_take]

end Holds

end UserCache

end ChatBot
