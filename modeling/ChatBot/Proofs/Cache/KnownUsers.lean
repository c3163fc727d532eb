import ChatBot.Inquiry
import ChatBot.Proofs.Cache.Recency

/-!
# Inquiries about known users

A platform that answers every look-up of a user in the same way makes the cache of known
users invisible: whatever was asked before, an inquiry comes to the value that it has
when every user is looked up in one fixed table.  Whatever the platform answers, an inquiry
keeps the cache within its bounds.
-/

namespace ChatBot

/-- A platform that answers every look-up of a user in the same way. -/
def UserFinder.Fixed (finder : UserFinder) : Prop :=
  ∀ lookups user, finder lookups user = finder 0 user

/-- What is known of users is what the platform says of them. -/
def UserCache.Faithful (finder : UserFinder) (cache : UserCache) : Prop :=
  ∀ user info, cache.known.peek? user = some info → finder 0 user = .ok info

variable {finder : UserFinder} {cache : UserCache}

theorem UserCache.faithful_empty (finder : UserFinder) (capacity : Nat) :
    Faithful finder (.empty capacity) := by
  intro user info found
  simp [empty, Lru.empty, Lru.peek?] at found

/-! ## The three outcomes of a look-up -/

section Outcomes

variable {user : String}

theorem UserCache.find_of_hit (finder : UserFinder) {info : UserInfo}
    (found : cache.known.peek? user = some info) :
    cache.find finder user =
      (.ok info, { cache with known := (cache.known.get? user).2 }, [hit user]) := by
  simp [find, Lru.get?, found]

theorem UserCache.find_of_known (finder : UserFinder) {info : UserInfo}
    (missing : cache.known.peek? user = none) (known : finder cache.lookups user = .ok info) :
    cache.find finder user = (.ok info, ⟨cache.known.put user info, cache.lookups + 1⟩, []) := by
  simp [find, Lru.get?, missing, known]

theorem UserCache.find_of_unknown (finder : UserFinder) {error : ApiError}
    (missing : cache.known.peek? user = none)
    (unknown : finder cache.lookups user = .error error) :
    cache.find finder user = (.error error, { cache with lookups := cache.lookups + 1 }, []) := by
  simp [find, Lru.get?, missing, unknown]

end Outcomes

/-! ## What is known is true -/

/-- A look-up is answered by the platform's table, and what is known stays true. -/
theorem UserCache.Faithful.find (fixed : finder.Fixed) (faithful : cache.Faithful finder)
    (user : String) :
    (cache.find finder user).1 = finder 0 user ∧ (cache.find finder user).2.1.Faithful finder := by
  cases found : cache.known.peek? user with
  | some info =>
      rw [find_of_hit finder found]
      refine ⟨(faithful user info found).symm, fun other info' later => ?_⟩
      exact faithful other info' ((Lru.peek?_get? cache.known user other).symm.trans later)
  | none =>
      have same := fixed cache.lookups user
      cases answer : finder cache.lookups user with
      | error error =>
          rw [find_of_unknown finder found answer]
          exact ⟨answer.symm.trans same, faithful⟩
      | ok info =>
          rw [find_of_known finder found answer]
          refine ⟨answer.symm.trans same, fun other info' later => ?_⟩
          rcases Lru.of_peek?_put_eq_some later with ⟨rfl, rfl⟩ | earlier
          · exact same.symm.trans answer
          · exact faithful other info' earlier

/-- An inquiry comes to the same value whatever was asked before it. -/
theorem Inquiry.run_faithful {α : Type} (fixed : finder.Fixed) (inquiry : Inquiry α)
    {cache : UserCache} (faithful : cache.Faithful finder) :
    (inquiry.run finder cache).1 = inquiry.value (finder 0) ∧
      (inquiry.run finder cache).2.1.Faithful finder := by
  induction inquiry generalizing cache with
  | done value => exact ⟨rfl, faithful⟩
  | note event next ih => exact ih faithful
  | lookUp user next ih =>
      obtain ⟨found_eq, still⟩ := faithful.find fixed user
      simp only [run, value, found_eq]
      exact ih (finder 0 user) still

/-! ## How many users are known -/

/-- A cache of known users that keeps each once, and no more than it may. -/
structure UserCache.Bounded (capacity : Nat) (cache : UserCache) : Prop where
  wellFormed : cache.known.WellFormed
  capacity_eq : cache.known.capacity = capacity

theorem UserCache.bounded_empty (capacity : Nat) : Bounded capacity (.empty capacity) where
  wellFormed := Lru.wellFormed_empty capacity
  capacity_eq := rfl

theorem UserCache.Bounded.find {capacity : Nat} (bounded : cache.Bounded capacity)
    (finder : UserFinder) (user : String) : (cache.find finder user).2.1.Bounded capacity := by
  obtain ⟨wellFormed, capacity_eq⟩ := bounded
  cases found : cache.known.peek? user with
  | some info =>
      rw [find_of_hit finder found]
      exact ⟨wellFormed.get? user, (Lru.capacity_get? cache.known user).trans capacity_eq⟩
  | none =>
      cases answer : finder cache.lookups user with
      | error error =>
          rw [find_of_unknown finder found answer]
          exact ⟨wellFormed, capacity_eq⟩
      | ok info =>
          rw [find_of_known finder found answer]
          exact ⟨wellFormed.put user info, capacity_eq⟩

/-- An inquiry keeps the cache within its bounds, whatever the platform answers. -/
theorem Inquiry.run_bounded {α : Type} {capacity : Nat} (finder : UserFinder)
    (inquiry : Inquiry α) {cache : UserCache} (bounded : cache.Bounded capacity) :
    (inquiry.run finder cache).2.1.Bounded capacity := by
  induction inquiry generalizing cache with
  | done value => exact bounded
  | note event next ih => exact ih bounded
  | lookUp user next ih => exact ih _ (bounded.find finder user)

end ChatBot
