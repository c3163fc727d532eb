import ChatBot.Table
import Mathlib.Data.List.Nodup

/-!
# What a table has under a name

A list of entries is known by what it has under each name, in whatever order the entries stand, as
long as no name stands twice.  So is a table, whose entries are in order.  One table over another
has all that either of them has, and of what both have what the upper one has.
-/

namespace ChatBot

theorem Ascending.nodup {α : Type} {entries : List (String × α)} (sorted : Ascending entries) :
    (entries.map Prod.fst).Nodup :=
  List.pairwise_map.mpr (sorted.imp fun before => String.ne_of_lt before)

section Entries

variable {α : Type} {entries : List (String × α)} {name : String} {value : α}

theorem lookup_eq_some_iff_mem (distinct : (entries.map Prod.fst).Nodup) :
    entries.lookup name = some value ↔ (name, value) ∈ entries := by
  constructor
  · intro found
    obtain ⟨before, after, rfl, -⟩ := List.lookup_eq_some_iff.mp found
    simp
  · intro among
    obtain ⟨before, after, rfl⟩ := List.append_of_mem among
    refine List.lookup_eq_some_iff.mpr ⟨before, after, rfl, fun other earlier => ?_⟩
    rw [bne_iff_ne]
    rintro rfl
    rw [List.map_append, List.nodup_append] at distinct
    exact distinct.2.2 _ (List.mem_map_of_mem earlier) _ (by simp) rfl

theorem lookup_cons_eq_ite (first name : String) (value : α) (rest : List (String × α)) :
    ((first, value) :: rest).lookup name =
      if name = first then some value else rest.lookup name := by
  rw [List.lookup_cons]
  split
  · next same => rw [if_pos (eq_of_beq same)]
  · next different => rw [if_neg (beq_eq_false_iff_ne.mp different)]

theorem lookup_cons_of_ne {first : String} (apart : name ≠ first) (value : α)
    (rest : List (String × α)) : ((first, value) :: rest).lookup name = rest.lookup name := by
  rw [lookup_cons_eq_ite, if_neg apart]

/-- An entry that stands at most once is found wherever it stands. -/
theorem lookup_perm {entries' : List (String × α)} (perm : entries.Perm entries')
    (once : entries.countP (·.1 = name) ≤ 1) : entries.lookup name = entries'.lookup name := by
  induction perm with
  | nil => rfl
  | cons entry _ ih =>
      obtain ⟨first, value⟩ := entry
      rw [List.countP_cons] at once
      rw [List.lookup_cons, List.lookup_cons, ih (Nat.le_of_add_right_le once)]
  | swap second first rest =>
      obtain ⟨firstName, firstValue⟩ := first
      obtain ⟨secondName, secondValue⟩ := second
      have apart : firstName = name → secondName ≠ name := by
        rintro rfl rfl
        simp at once
      by_cases here : firstName = name
      · have other : (name == secondName) = false :=
          beq_eq_false_iff_ne.mpr (Ne.symm (apart here))
        simp only [List.lookup_cons, other]
      · have other : (name == firstName) = false := beq_eq_false_iff_ne.mpr (Ne.symm here)
        simp only [List.lookup_cons, other]
  | trans first _ ih ih' =>
      exact (ih once).trans (ih' (by rwa [← first.countP_eq]))

theorem lookup_insertEntry (other : String) :
    (insertEntry name value entries).lookup other =
      if other = name then some value else entries.lookup other := by
  induction entries with
  | nil => exact lookup_cons_eq_ite name other value []
  | cons entry rest ih =>
      obtain ⟨first, old⟩ := entry
      rw [insertEntry]
      split
      · exact lookup_cons_eq_ite name other value _
      · split
        · next same =>
            rw [lookup_cons_eq_ite, lookup_cons_eq_ite, same]
            split <;> rfl
        · next different =>
            rw [lookup_cons_eq_ite, lookup_cons_eq_ite, ih]
            by_cases found : other = first
            · rw [if_pos found, if_neg fun same => different (same.symm.trans found), if_pos found]
            · rw [if_neg found, if_neg found]

end Entries

namespace Table

variable {α : Type}

theorem lookup?_insert (table : Table α) (name : String) (value : α) (other : String) :
    (table.insert name value).lookup? other =
      if other = name then some value else table.lookup? other :=
  lookup_insertEntry other

/-- Two tables that have the same under each name are the same. -/
theorem eq_of_lookup? {first second : Table α}
    (same : ∀ name, first.lookup? name = second.lookup? name) : first = second := by
  obtain ⟨entries, ascending⟩ := first
  obtain ⟨entries', ascending'⟩ := second
  have members : ∀ entry, entry ∈ entries ↔ entry ∈ entries' := fun (name, value) => by
    rw [← lookup_eq_some_iff_mem ascending.nodup, ← lookup_eq_some_iff_mem ascending'.nodup]
    exact (congrArg (· = some value) (same name)).to_iff
  have perm : entries.Perm entries' :=
    (List.perm_ext_iff_of_nodup ascending.nodup.of_map ascending'.nodup.of_map).mpr members
  obtain rfl := perm.eq_of_pairwise
    (fun _ _ _ _ before after => absurd (String.lt_trans before after) (String.lt_irrefl _))
    ascending ascending'
  rfl

/-- Entries that are inserted one after the other go over what is there. -/
theorem lookup?_foldl_insert {entries : List (String × α)}
    (distinct : (entries.map Prod.fst).Nodup) (table : Table α) (name : String) :
    (entries.foldl (fun table entry => table.insert entry.1 entry.2) table).lookup? name =
      (entries.lookup name).or (table.lookup? name) := by
  induction entries generalizing table with
  | nil => rfl
  | cons entry rest ih =>
      obtain ⟨first, value⟩ := entry
      obtain ⟨absent, rest_distinct⟩ := List.nodup_cons.mp distinct
      rw [List.foldl_cons, ih rest_distinct, lookup?_insert, lookup_cons_eq_ite]
      split
      · next same =>
          obtain rfl : name = first := same
          have later : rest.lookup name = none := by
            rw [Option.eq_none_iff_forall_ne_some]
            intro other found
            have among := (lookup_eq_some_iff_mem rest_distinct).mp found
            exact absent (List.mem_map.mpr ⟨_, among, rfl⟩)
          rw [later]
          rfl
      · rfl

theorem lookup?_ofList {entries : List (String × α)} (distinct : (entries.map Prod.fst).Nodup)
    (name : String) : (ofList entries).lookup? name = entries.lookup name := by
  rw [ofList, lookup?_foldl_insert distinct]
  exact Option.or_none

/-- One table over another: all that either of them has, and of what both have what the upper one
has. -/
def atop (upper below : Table α) : Table α :=
  upper.entries.foldl (fun table entry => table.insert entry.1 entry.2) below

theorem lookup?_atop (upper below : Table α) (name : String) :
    (upper.atop below).lookup? name = (upper.lookup? name).or (below.lookup? name) :=
  lookup?_foldl_insert upper.ascending.nodup below name

end Table

end ChatBot
