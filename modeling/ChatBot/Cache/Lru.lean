/-!
# Bounded caches

A cache keeps at most a fixed number of entries, each key once.  Reading or
writing an entry makes it the most recent one; when a new key does not fit, the
least recent entry gives way.  A capacity of zero turns the cache off: it stores
nothing and finds nothing.
-/

namespace ChatBot

/-- Entries by key, the most recent first. -/
structure Lru (κ α : Type) where
  capacity : Nat
  entries : List (κ × α)

namespace Lru

variable {κ α : Type} [DecidableEq κ]

def empty (capacity : Nat) : Lru κ α :=
  ⟨capacity, []⟩

def isEnabled (cache : Lru κ α) : Bool :=
  cache.capacity ≠ 0

def size (cache : Lru κ α) : Nat :=
  cache.entries.length

/-- The value of a key, without touching its entry. -/
def peek? (cache : Lru κ α) (key : κ) : Option α :=
  cache.entries.lookup key

def without (key : κ) (entries : List (κ × α)) : List (κ × α) :=
  entries.filter (·.1 ≠ key)

/-- The value of a key; its entry becomes the most recent. -/
def get? (cache : Lru κ α) (key : κ) : Option α × Lru κ α :=
  match cache.peek? key with
  | some value => (some value, { cache with entries := (key, value) :: without key cache.entries })
  | none => (none, cache)

/-- Stores a value as the most recent entry. -/
def put (cache : Lru κ α) (key : κ) (value : α) : Lru κ α :=
  { cache with entries := ((key, value) :: without key cache.entries).take cache.capacity }

def remove (cache : Lru κ α) (key : κ) : Option α × Lru κ α :=
  (cache.peek? key, { cache with entries := without key cache.entries })

end Lru

end ChatBot
