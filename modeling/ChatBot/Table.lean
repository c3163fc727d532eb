/-!
# Tables

Values by name, in the order of the names, each name once.  A value inserted
under a name that is there takes the place of the old one.
-/

namespace ChatBot

/-- Puts an entry into its place in a list sorted by name, in place of one of
the same name. -/
def insertEntry {α : Type} (name : String) (value : α) :
    List (String × α) → List (String × α)
  | [] => [(name, value)]
  | (other, old) :: rest =>
    if name < other then (name, value) :: (other, old) :: rest
    else if name = other then (name, value) :: rest
    else (other, old) :: insertEntry name value rest

/-- Whether the names of a list ascend strictly. -/
def Ascending {α : Type} (entries : List (String × α)) : Prop :=
  entries.Pairwise fun first second => first.1 < second.1

/-- The names after an insertion are those before it and the new one. -/
theorem mem_insertEntry {α : Type} {name : String} {value : α}
    {entries : List (String × α)} {entry : String × α}
    (member : entry ∈ insertEntry name value entries) :
    entry = (name, value) ∨ entry ∈ entries := by
  induction entries with
  | nil => simpa [insertEntry] using member
  | cons first rest ih =>
    obtain ⟨other, old⟩ := first
    simp only [insertEntry] at member
    split at member
    · simpa using member
    · split at member
      · rcases List.mem_cons.1 member with rfl | later
        · exact Or.inl rfl
        · exact Or.inr (List.mem_cons_of_mem _ later)
      · rcases List.mem_cons.1 member with rfl | later
        · exact Or.inr List.mem_cons_self
        · rcases ih later with rfl | there
          · exact Or.inl rfl
          · exact Or.inr (List.mem_cons_of_mem _ there)

/-- Insertion keeps a list sorted. -/
theorem Ascending.insertEntry {α : Type} {name : String} {value : α}
    {entries : List (String × α)} (sorted : Ascending entries) :
    Ascending (insertEntry name value entries) := by
  induction entries with
  | nil => simp [ChatBot.insertEntry, Ascending]
  | cons first rest ih =>
    obtain ⟨other, old⟩ := first
    have parts := List.pairwise_cons.1 sorted
    simp only [ChatBot.insertEntry]
    split
    next before =>
      refine List.pairwise_cons.2 ⟨fun entry member => ?_, sorted⟩
      rcases List.mem_cons.1 member with rfl | later
      · exact before
      · exact String.lt_trans before (parts.1 entry later)
    next notBefore =>
      split
      next same =>
        subst same
        exact List.pairwise_cons.2 ⟨parts.1, parts.2⟩
      next different =>
        refine List.pairwise_cons.2 ⟨fun entry member => ?_, ih parts.2⟩
        rcases mem_insertEntry member with rfl | there
        · by_cases less : other < name
          · exact less
          · exact absurd
              (String.le_antisymm (String.not_lt.1 less) (String.not_lt.1 notBefore)) different
        · exact parts.1 entry there

/-- Values by name. -/
structure Table (α : Type) where
  entries : List (String × α)
  ascending : Ascending entries

namespace Table

variable {α : Type}

def empty : Table α :=
  ⟨[], List.Pairwise.nil⟩

/-- The table with one more value, or with a new value under a name. -/
def insert (table : Table α) (name : String) (value : α) : Table α :=
  ⟨insertEntry name value table.entries, table.ascending.insertEntry⟩

def lookup? (table : Table α) (name : String) : Option α :=
  table.entries.lookup name

/-- The table of a list of entries; of several with one name the last counts. -/
def ofList (entries : List (String × α)) : Table α :=
  entries.foldl (fun table entry => table.insert entry.1 entry.2) empty

instance : Inhabited (Table α) := ⟨empty⟩

instance [DecidableEq α] : DecidableEq (Table α) := fun first second =>
  decidable_of_iff (first.entries = second.entries)
    ⟨fun same => by cases first; cases second; simp_all, fun same => by rw [same]⟩

end Table

end ChatBot
