import ChatBot.Text.Blank
import Mathlib.Data.List.DropRight

/-!
# Trimming

What is left of a text when the blanks at both of its ends are taken off: a text without blanks at
its ends, which trimming leaves alone, and which blanks around the text do not change.
-/

namespace ChatBot

namespace Text

/-- A text that neither starts nor ends with a blank. -/
structure Trimmed (text : List Char) : Prop where
  front : ∀ c, text.head? = some c → isBlank c = false
  back : ∀ c, text.getLast? = some c → isBlank c = false

variable {text front blanks : List Char}

theorem isBlank_of_isAllBlank {text : String} (blank : isAllBlank text = true) :
    ∀ c ∈ text.toList, isBlank c = true :=
  List.all_eq_true.mp blank

theorem dropBlanks_eq_self (spoken : ∀ c, text.head? = some c → isBlank c = false) :
    dropBlanks text = text := by
  cases text with
  | nil => rfl
  | cons c rest => exact List.dropWhile_cons_of_neg (by simp [spoken c rfl])

theorem dropBlanksRight_eq_self (spoken : ∀ c, text.getLast? = some c → isBlank c = false) :
    dropBlanksRight text = text := by
  refine List.rdropWhile_eq_self_iff.mpr fun nonempty => ?_
  simp [spoken _ (List.getLast?_eq_some_getLast nonempty)]

/-- Only what comes after a character that is not blank is trimmed at the end. -/
theorem dropBlanksRight_append (spoken : ∀ c, front.getLast? = some c → isBlank c = false)
    (rest : List Char) : dropBlanksRight (front ++ rest) = front ++ dropBlanksRight rest := by
  have still : (front.reverse.dropWhile isBlank).reverse = front := dropBlanksRight_eq_self spoken
  simp only [dropBlanksRight, List.reverse_append, List.dropWhile_append]
  split
  · next empty => rw [still, List.isEmpty_iff.mp empty, List.reverse_nil, List.append_nil]
  · rw [List.reverse_append, List.reverse_reverse]

theorem exists_eq_dropBlanksRight_append (text : List Char) :
    ∃ blanks, (∀ c ∈ blanks, isBlank c = true) ∧ text = dropBlanksRight text ++ blanks :=
  ⟨text.rtakeWhile isBlank, fun _ member => List.mem_rtakeWhile_imp member,
    List.rdropWhile_append_rtakeWhile.symm⟩

theorem trimmed_strip (text : List Char) : Trimmed (strip text) := by
  have whole : strip text <+: dropBlanks text := List.rdropWhile_prefix isBlank (dropBlanks text)
  constructor
  · intro c first
    obtain ⟨rest, whole⟩ := whole
    have unblank := List.head?_dropWhile_not isBlank text
    rw [← dropBlanks, ← whole, List.head?_append, first] at unblank
    exact unblank
  · intro c last
    have nonempty : strip text ≠ [] := by
      rintro none
      simp [none] at last
    rw [List.getLast?_eq_some_getLast nonempty] at last
    obtain rfl := Option.some.inj last
    exact eq_false_of_ne_true (List.rdropWhile_last_not isBlank (dropBlanks text) nonempty)

theorem strip_eq_self (trimmed : Trimmed text) : strip text = text := by
  rw [strip, dropBlanks_eq_self trimmed.front, dropBlanksRight_eq_self trimmed.back]

theorem strip_eq_self_iff : strip text = text ↔ Trimmed text :=
  ⟨fun same => same ▸ trimmed_strip text, strip_eq_self⟩

instance (text : List Char) : Decidable (Trimmed text) :=
  decidable_of_iff _ strip_eq_self_iff

section Blanks

variable (blank : ∀ c ∈ blanks, isBlank c = true) (text : List Char)

include blank

theorem dropBlanks_blanks_append : dropBlanks (blanks ++ text) = dropBlanks text :=
  List.dropWhile_append_of_pos blank

theorem dropBlanksRight_append_blanks :
    dropBlanksRight (text ++ blanks) = dropBlanksRight text := by
  have blank' : ∀ c ∈ blanks.reverse, isBlank c = true := by simpa using blank
  rw [dropBlanksRight, List.reverse_append, List.dropWhile_append_of_pos blank', dropBlanksRight]

/-- Blanks at the end are still there when those in front are gone, unless there is nothing else. -/
theorem exists_dropBlanks_append_blanks :
    ∃ rest, (∀ c ∈ rest, isBlank c = true) ∧
      dropBlanks (text ++ blanks) = dropBlanks text ++ rest := by
  rw [dropBlanks, List.dropWhile_append]
  split
  · next empty =>
      refine ⟨[], by simp, ?_⟩
      rw [dropBlanks, List.isEmpty_iff.mp empty, List.dropWhile_eq_nil_iff.mpr blank]
      rfl
  · exact ⟨blanks, blank, rfl⟩

theorem strip_blanks_append : strip (blanks ++ text) = strip text := by
  rw [strip, dropBlanks_blanks_append blank, strip]

theorem strip_append_blanks : strip (text ++ blanks) = strip text := by
  obtain ⟨rest, blank', dropped⟩ := exists_dropBlanks_append_blanks blank text
  rw [strip, dropped, dropBlanksRight_append_blanks blank', strip]

end Blanks

end Text

end ChatBot
