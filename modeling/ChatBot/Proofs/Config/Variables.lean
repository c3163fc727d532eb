import ChatBot.Config.Variables
import ChatBot.Proofs.Text.Trimming
import ChatBot.Proofs.Toml.Keys

/-!
# Settings in environment variables

The settings of variables form a tree that names each setting once.  A variable whose name is the
common beginning and then some names, with two underscores between them, sets what they lead to,
in lower case.  The variable that names the profile sets nothing.
-/

namespace ChatBot

namespace Variables

open Json (NamesOnce Yields)

/-! ## The tree of the settings -/

/-- What is read with so much fuel names its keys once: values, and the members of tables. -/
structure ReadsOnce (fuel : Nat) : Prop where
  value : ∀ text, Yields NamesOnce (value? fuel text)
  members : ∀ {members text read rest}, (Json.obj members).NamesOnce →
    members? fuel members text = some (read, rest) → (Json.obj read).NamesOnce

theorem namesOnce_plain (text : List Char) : (plain text).NamesOnce := by
  unfold plain
  split
  · trivial
  · split <;> trivial

theorem readsOnce (fuel : Nat) : ReadsOnce fuel := by
  induction fuel with
  | zero =>
      refine ⟨fun text => ?_, fun _ found => ?_⟩
      · rw [value?]
        exact .none
      · rw [members?] at found
        cases found
  | succ fuel ih =>
      refine ⟨fun text => ?_, fun {members text read rest} once found => ?_⟩
      · rw [value?]
        refine .map fun ⟨value, rest⟩ found => ?_
        suffices yields : Yields NamesOnce _ from yields value rest found
        split
        · exact .some trivial _
        · exact .some trivial _
        · exact .map fun ⟨members, rest⟩ read => ih.members Json.namesOnce_obj_nil read
        · exact .map fun _ _ => trivial
        · exact .map fun _ _ => trivial
        · split
          · exact .some trivial _
          · exact .none
        · exact .some (namesOnce_plain _) _
      · unfold members? at found
        split at found
        · obtain ⟨rfl, -⟩ := Prod.mk.inj (Option.some.inj found)
          exact once
        · obtain ⟨⟨key, afterKey⟩, -, found⟩ := Option.bind_eq_some_iff.mp found
          dsimp only at found
          split at found
          · obtain ⟨⟨value, afterValue⟩, found_value, found⟩ := Option.bind_eq_some_iff.mp found
            have more : (Json.obj (Json.setMember key value members)).NamesOnce :=
              Json.namesOnce_setMember once (ih.value _ value afterValue found_value)
            dsimp only at found
            split at found
            · exact ih.members more found
            · obtain ⟨rfl, -⟩ := Prod.mk.inj (Option.some.inj found)
              exact more
            · cases found
          · cases found

theorem namesOnce_value (text : String) : (value text).NamesOnce := by
  unfold value
  split
  · next read => exact (readsOnce _).value _ _ _ read
  · trivial

theorem namesOnce_nest (keys : List String) {value : Json} (once : value.NamesOnce) :
    (nest keys value).NamesOnce := by
  induction keys with
  | nil => exact once
  | cons key rest ih => exact ⟨List.nodup_singleton _, ih, trivial⟩

/-- The tree of what one variable sets, if it sets anything. -/
def tree? (name text : String) : Option Json :=
  match keys name with
  | [] => none
  | keys => some (nest keys (value text))

theorem settings_eq (environment : List (String × String)) :
    settings environment =
      Json.overlayAll (environment.filterMap fun entry => tree? entry.1 entry.2) :=
  rfl

theorem namesOnce_tree? {name text : String} {tree : Json} (made : tree? name text = some tree) :
    tree.NamesOnce := by
  unfold tree? at made
  split at made
  · cases made
  · obtain rfl := Option.some.inj made
    exact namesOnce_nest _ (namesOnce_value text)

/-- The settings that variables make name each setting once. -/
theorem namesOnce_settings (environment : List (String × String)) :
    (settings environment).NamesOnce := by
  rw [settings_eq]
  refine Json.namesOnce_overlayAll fun layer among => ?_
  obtain ⟨entry, -, made⟩ := List.mem_filterMap.mp among
  exact namesOnce_tree? made

/-! ## The names of variables -/

/-- A name that may stand between two underscores in the name of a variable. -/
structure IsPart (part : List Char) : Prop where
  nonempty : part ≠ []
  plain : ∀ c ∈ part, c.isAlphanum = true ∨ c = '_'
  single : ¬['_', '_'] <:+: part
  closed : part.getLast? ≠ some '_'

/-- The name of the variable for a nested setting: the common beginning, and the names that lead
to it with two underscores between them. -/
def nameOf (parts : List (List Char)) : String :=
  String.ofList (nameStart.toList ++ ['_', '_'].intercalate parts)

theorem dotted_cons {c : Char} {rest : List Char} (apart : c = '_' → rest.head? ≠ some '_') :
    dotted (c :: rest) = c :: dotted rest := by
  rw [dotted]
  rintro after same rfl
  exact apart same rfl

/-- Single underscores stay as they are. -/
theorem dotted_append {part : List Char} (single : ¬['_', '_'] <:+: part)
    (closed : part.getLast? ≠ some '_') (tail : List Char) :
    dotted (part ++ tail) = part ++ dotted tail := by
  induction part with
  | nil => rfl
  | cons c rest ih =>
      have apart : c = '_' → (rest ++ tail).head? ≠ some '_' := by
        rintro rfl
        cases rest with
        | nil => exact absurd rfl closed
        | cons next rest =>
            rintro same
            obtain rfl := Option.some.inj same
            exact absurd ⟨[], rest, rfl⟩ single
      have single_rest : ¬['_', '_'] <:+: rest := fun inside =>
        single (inside.trans (List.suffix_cons c rest).isInfix)
      have closed_rest : rest.getLast? ≠ some '_' := by
        cases rest with
        | nil => simp
        | cons next rest => simpa [List.getLast?_cons_cons] using closed
      rw [List.cons_append, dotted_cons apart, ih single_rest closed_rest, List.cons_append]

theorem splitAtDots_cons {c : Char} {rest first : List Char} {others : List (List Char)}
    (other : c ≠ '.') (found : splitAtDots rest = first :: others) :
    splitAtDots (c :: rest) = (c :: first) :: others := by
  rw [splitAtDots, found]
  exact other

theorem splitAtDots_of_undotted {part : List Char} (undotted : ∀ c ∈ part, c ≠ '.') :
    splitAtDots part = [part] := by
  induction part with
  | nil => rfl
  | cons c rest ih =>
      obtain ⟨other, undotted⟩ := List.forall_mem_cons.mp undotted
      exact splitAtDots_cons other (ih undotted)

theorem splitAtDots_append {part : List Char} (undotted : ∀ c ∈ part, c ≠ '.')
    (rest : List Char) : splitAtDots (part ++ '.' :: rest) = part :: splitAtDots rest := by
  induction part with
  | nil => rfl
  | cons c part ih =>
      obtain ⟨other, undotted⟩ := List.forall_mem_cons.mp undotted
      exact splitAtDots_cons other (ih undotted)

theorem IsPart.undotted {part : List Char} (valid : IsPart part) : ∀ c ∈ part, c ≠ '.' := by
  rintro c inside rfl
  rcases valid.plain '.' inside with alphanumeric | underscore
  · exact absurd alphanumeric (by decide)
  · exact absurd underscore (by decide)

theorem isBlank_of_isAlphanum {c : Char} (alphanumeric : c.isAlphanum = true) :
    Text.isBlank c = false := by
  have within : (65 ≤ c.toNat ∧ c.toNat ≤ 90 ∨ 97 ≤ c.toNat ∧ c.toNat ≤ 122) ∨
      48 ≤ c.toNat ∧ c.toNat ≤ 57 := by
    rcases Bool.or_eq_true_iff.mp alphanumeric with letter | digit
    · rcases Bool.or_eq_true_iff.mp letter with upper | lower
      · obtain ⟨above, below⟩ := of_decide_eq_true upper
        exact .inl (.inl ⟨UInt32.le_iff_toNat_le.mp above, UInt32.le_iff_toNat_le.mp below⟩)
      · obtain ⟨above, below⟩ := Bool.and_eq_true_iff.mp lower
        exact .inl (.inr ⟨UInt32.le_iff_toNat_le.mp (of_decide_eq_true above),
          UInt32.le_iff_toNat_le.mp (of_decide_eq_true below)⟩)
    · exact .inr (Char.isDigit_iff_toNat.mp digit)
  simp only [Text.isBlank, Bool.or_eq_false_iff, Bool.and_eq_false_iff, decide_eq_false_iff_not,
    beq_eq_false_iff_ne]
  omega

theorem strip_of_unblank {text : List Char} (unblank : text.any Text.isBlank = false) :
    Text.strip text = text := by
  have kept : ∀ c ∈ text, Text.isBlank c = false := by simpa using unblank
  exact Text.strip_eq_self
    ⟨fun c first => kept c (List.mem_of_head? first),
      fun c last => kept c (List.mem_of_getLast? last)⟩

section Names

variable {parts : List (List Char)} (valid : ∀ part ∈ parts, IsPart part)

include valid

theorem dotted_intercalate :
    dotted (['_', '_'].intercalate parts) = ['.'].intercalate parts := by
  induction parts with
  | nil => rfl
  | cons part rest ih =>
      obtain ⟨first, others⟩ := List.forall_mem_cons.mp valid
      cases rest with
      | nil =>
          have plain := dotted_append first.single first.closed []
          rw [List.append_nil, dotted, List.append_nil] at plain
          rw [List.intercalate_singleton, List.intercalate_singleton, plain]
      | cons next rest =>
          rw [List.intercalate_cons_cons, List.intercalate_cons_cons, List.append_assoc,
            dotted_append first.single first.closed, List.append_assoc, ← ih others]
          rfl

theorem splitAtDots_intercalate (some_part : parts ≠ []) :
    splitAtDots (['.'].intercalate parts) = parts := by
  induction parts with
  | nil => exact absurd rfl some_part
  | cons part rest ih =>
      obtain ⟨first, others⟩ := List.forall_mem_cons.mp valid
      cases rest with
      | nil => rw [List.intercalate_singleton, splitAtDots_of_undotted first.undotted]
      | cons next rest =>
          rw [List.intercalate_cons_cons, List.append_assoc, List.singleton_append,
            splitAtDots_append first.undotted, ih others (List.cons_ne_nil _ _)]

theorem unblank_intercalate {separator : List Char}
    (unblank : separator.any Text.isBlank = false) :
    (separator.intercalate parts).any Text.isBlank = false := by
  induction parts with
  | nil => rfl
  | cons part rest ih =>
      obtain ⟨first, others⟩ := List.forall_mem_cons.mp valid
      have plain : part.any Text.isBlank = false := by
        refine List.any_eq_false.mpr fun c inside => ?_
        rw [Bool.not_eq_true]
        exact (first.plain c inside).elim isBlank_of_isAlphanum (by rintro rfl; decide)
      cases rest with
      | nil => rwa [List.intercalate_singleton]
      | cons next rest =>
          rw [List.intercalate_cons_cons, List.any_append, List.any_append, plain, unblank,
            ih others]
          rfl

/-- A variable that is named after nested settings sets what they lead to, in lower case, unless
it is the one that names the profile. -/
theorem keys_nameOf (some_part : parts ≠ []) :
    keys (nameOf parts) =
      if lower (['.'].intercalate parts) = "profile".toList then []
      else parts.map fun part => String.ofList (lower part) := by
  have name_eq : Text.strip (nameOf parts).toList =
      nameStart.toList ++ ['_', '_'].intercalate parts := by
    have start : nameStart.toList.any Text.isBlank = false := by decide
    rw [nameOf, String.toList_ofList, strip_of_unblank]
    rw [List.any_append, start, unblank_intercalate valid (by decide)]
    rfl
  have rest_eq : Text.strip (dotted (['_', '_'].intercalate parts)) =
      ['.'].intercalate parts := by
    rw [dotted_intercalate valid]
    exact strip_of_unblank (unblank_intercalate valid (by decide))
  have full : parts.any List.isEmpty = false := by
    rw [List.any_eq_false]
    exact fun part inside => by simpa using (valid part inside).nonempty
  have start_eq : (nameStart.toList ++ ['_', '_'].intercalate parts).take nameStart.length =
      nameStart.toList := List.take_left
  have rest_eq' : (nameStart.toList ++ ['_', '_'].intercalate parts).drop nameStart.length =
      ['_', '_'].intercalate parts := List.drop_left
  simp only [keys, name_eq, start_eq, rest_eq', rest_eq, splitAtDots_intercalate valid some_part,
    full]
  rw [if_neg (fun different => different rfl), if_neg Bool.false_ne_true]

/-- A variable that is named after nested settings sets what they lead to, and the one that names
the profile sets nothing. -/
theorem tree?_nameOf (some_part : parts ≠ []) (text : String) :
    tree? (nameOf parts) text =
      if lower (['.'].intercalate parts) = "profile".toList then none
      else some (nest (parts.map fun part => String.ofList (lower part)) (value text)) := by
  unfold tree?
  rw [keys_nameOf valid some_part]
  split
  · next nothing =>
      split at nothing
      · next same => rw [if_pos same]
      · exact absurd (List.map_eq_nil_iff.mp nothing) some_part
  · next keys =>
      split
      · next same => exact absurd (if_pos same) keys
      · rfl

end Names

/-- Variables whose names begin otherwise set nothing. -/
theorem tree?_of_other {name : String}
    (other : lower ((Text.strip name.toList).take nameStart.length) ≠ lower nameStart.toList)
    (text : String) : tree? name text = none := by
  have nothing : keys name = [] := if_pos other
  rw [tree?, nothing]

end Variables

end ChatBot
