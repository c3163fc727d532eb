import Mathlib.Algebra.Ring.Nat
import Mathlib.Data.List.TakeWhile

/-!
# Numerals

Numbers are written in decimal.  A text that starts with a numeral tells the number, as long as the
numeral is not followed by another digit.  Numerals of the same length stand in the order of their
numbers, whatever follows them.
-/

namespace ChatBot

namespace Numeral

/-- The digits of a number, from the front. -/
def digits (number : Nat) : List Char :=
  Nat.toDigits 10 number

theorem toList_toString (number : Nat) : (toString number).toList = digits number :=
  Nat.toList_repr

theorem isDigit_of_mem {number : Nat} {digit : Char} (member : digit ∈ digits number) :
    digit.isDigit = true :=
  Nat.isDigit_of_mem_toDigits (by decide) (by decide) member

theorem digits_injective : Function.Injective digits := by
  intro first second same
  have values := congrArg (Nat.ofDigitChars 10 · 0) same
  simpa only [digits, Nat.ofDigitChars_ten_toDigits] using values

theorem takeWhile_digits_append {number : Nat} {rest : List Char}
    (ends : ∀ next ∈ rest.head?, next.isDigit = false) :
    (digits number ++ rest).takeWhile Char.isDigit = digits number := by
  have stops : rest.takeWhile Char.isDigit = [] := by
    cases rest with
    | nil => rfl
    | cons next later => simp [ends next rfl]
  rw [List.takeWhile_append_of_pos fun digit member => isDigit_of_mem member, stops,
    List.append_nil]

/-- A numeral ends where the digits end, so the number and what follows it can be told from the
text. -/
theorem digits_append_inj {first second : Nat} {rest rest' : List Char}
    (ends : ∀ next ∈ rest.head?, next.isDigit = false)
    (ends' : ∀ next ∈ rest'.head?, next.isDigit = false) :
    digits first ++ rest = digits second ++ rest' ↔ first = second ∧ rest = rest' := by
  constructor
  · intro same
    have numerals := congrArg (List.takeWhile Char.isDigit) same
    rw [takeWhile_digits_append ends, takeWhile_digits_append ends'] at numerals
    obtain rfl := digits_injective numerals
    exact ⟨rfl, List.append_cancel_left same⟩
  · rintro ⟨rfl, rfl⟩
    rfl

/-- A number can be told from its numeral with a fixed text behind it. -/
theorem toString_append_injective (rest : String) :
    Function.Injective fun number : Nat => toString number ++ rest := by
  intro first second same
  have texts := congrArg String.toList same
  simp only [String.toList_append, toList_toString, List.append_cancel_right_eq] at texts
  exact digits_injective texts

theorem length_digits_eq {number places : Nat} (low : 10 ^ places ≤ number)
    (high : number < 10 ^ (places + 1)) : (digits number).length = places + 1 := by
  have atMost : (digits number).length ≤ places + 1 :=
    (Nat.length_toDigits_le_iff (by decide) (Nat.succ_pos places)).mpr high
  have atLeast : ¬ (digits number).length ≤ places := by
    intro short
    rcases Nat.eq_zero_or_pos places with rfl | positive
    · exact Nat.not_lt.mpr short Nat.length_toDigits_pos
    · exact Nat.not_lt.mpr low ((Nat.length_toDigits_le_iff (by decide) positive).mp short)
  omega

theorem digits_of_lt {number : Nat} (small : number < 10) : digits number = [number.digitChar] :=
  Nat.toDigits_of_lt_base small

theorem digits_of_le {number : Nat} (large : 10 ≤ number) :
    digits number = digits (number / 10) ++ [(number % 10).digitChar] :=
  Nat.toDigits_of_base_le (by decide) large

theorem digitChar_lt {first second : Nat} (less : first < second) (small : second < 10) :
    first.digitChar < second.digitChar := by
  have all : ∀ second < 10, ∀ first < second, first.digitChar < second.digitChar := by decide
  exact all second small first less

/-- Of two numerals of the same length, the one of the lesser number comes first, whatever follows
them. -/
theorem digits_append_lt {first second : Nat} (less : first < second)
    (level : (digits first).length = (digits second).length) (rest rest' : List Char) :
    digits first ++ rest < digits second ++ rest' := by
  induction second using Nat.strongRecOn generalizing first rest rest' with
  | ind second ih =>
      by_cases small : second < 10
      · rw [digits_of_lt small, digits_of_lt (less.trans small)]
        exact List.Lex.rel (digitChar_lt less small)
      · have large := Nat.le_of_not_lt small
        have digits_second := digits_of_le large
        have front_ne_nil : digits (second / 10) ≠ [] := Nat.toDigits_ne_nil
        have digits_first : digits first = digits (first / 10) ++ [(first % 10).digitChar] := by
          apply digits_of_le
          by_contra short
          rw [digits_of_lt (Nat.lt_of_not_le short), digits_second] at level
          simp [front_ne_nil] at level
        rw [digits_first, digits_second] at level
        rw [digits_first, digits_second, List.append_assoc, List.append_assoc]
        -- Either the numbers differ in front of their last digits already, or only in these.
        rcases Nat.lt_or_eq_of_le (Nat.div_le_div_right (c := 10) less.le) with front | front
        · exact ih (second / 10) (by omega) front (by simpa using level) _ _
        · rw [front]
          exact List.append_left_lt (List.Lex.rel (digitChar_lt (by omega) (by omega)))

end Numeral

end ChatBot
