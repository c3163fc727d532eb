import ChatBot.Json

/-!
# Sorted trees

A tree whose objects name their members once and in order, in every part, is in normal form.
-/

namespace ChatBot

/-- An entry whose name comes after all others is inserted at the end. -/
theorem insertEntry_of_last {α : Type} {name : String} {entries : List (String × α)}
    (last : ∀ entry ∈ entries, entry.1 < name) (value : α) :
    insertEntry name value entries = entries ++ [(name, value)] := by
  induction entries with
  | nil => rfl
  | cons first rest ih =>
      obtain ⟨other, old⟩ := first
      obtain ⟨before, later⟩ := List.forall_mem_cons.mp last
      have apart : name ≠ other := fun same => String.lt_irrefl other (same ▸ before)
      rw [insertEntry, if_neg (String.lt_asymm before), if_neg apart, ih later]
      rfl

namespace Json

mutual

/-- The names of every object of a tree ascend. -/
def IsSorted : Json → Prop
  | arr items => AreSorted items
  | obj members => Ascending members ∧ HaveSortedValues members
  | _ => True

def AreSorted : List Json → Prop
  | [] => True
  | item :: rest => IsSorted item ∧ AreSorted rest

def HaveSortedValues : List (String × Json) → Prop
  | [] => True
  | (_, value) :: rest => IsSorted value ∧ HaveSortedValues rest

end

mutual

/-- A sorted tree is in normal form. -/
theorem normalize_of_isSorted : ∀ {tree : Json}, tree.IsSorted → tree.normalize = tree
  | arr items, sorted => congrArg arr (@normalizeItems_of_areSorted items sorted)
  | obj members, ⟨ascending, sorted⟩ =>
      congrArg obj (@normalizeMembers_of_sorted [] members ascending sorted)
  | null, _ | bool _, _ | int _, _ | decimal _ _, _ | str _, _ | unreadable, _ => rfl

theorem normalizeItems_of_areSorted : ∀ {items : List Json},
    AreSorted items → normalizeItems items = items
  | [], _ => rfl
  | item :: rest, ⟨first, later⟩ => by
      rw [normalizeItems, normalize_of_isSorted first, normalizeItems_of_areSorted later]

theorem normalizeMembers_of_sorted : ∀ {before members : List (String × Json)},
    Ascending (before ++ members) → HaveSortedValues members →
      normalizeMembers before members = before ++ members
  | before, [], _, _ => (List.append_nil before).symm
  | before, (name, value) :: rest, ascending, ⟨first, later⟩ => by
      have last : ∀ entry ∈ before, entry.1 < name := fun entry among =>
        (List.pairwise_append.mp ascending).2.2 entry among _ List.mem_cons_self
      rw [List.append_cons] at ascending ⊢
      rw [normalizeMembers, normalize_of_isSorted first, insertEntry_of_last last,
        normalizeMembers_of_sorted ascending later]

end

end Json

end ChatBot
