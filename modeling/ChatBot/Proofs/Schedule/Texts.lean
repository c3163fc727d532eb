import ChatBot.Proofs.Text.Numerals
import ChatBot.Schedule
import Mathlib.Tactic.SplitIfs

/-!
# Texts of schedules

A period of at least one second is shown as a number of units, the largest that divide its whole
seconds, and a shorter one as a number of milliseconds.  The text tells the whole seconds of the
one and the whole milliseconds of the other, and nothing else of either.
-/

namespace ChatBot

/-- A unit in which the seconds of a period are counted. -/
inductive TimeUnit where
  | day
  | hour
  | minute
  | second
  deriving DecidableEq, Repr

namespace TimeUnit

def seconds : TimeUnit → Nat
  | day => 86400
  | hour => 3600
  | minute => 60
  | second => 1

def symbol : TimeUnit → String
  | day => "d"
  | hour => "h"
  | minute => "m"
  | second => "s"

/-- The largest unit of which so many seconds are a multiple. -/
def largestIn (count : Nat) : TimeUnit :=
  if count % 86400 = 0 then day
  else if count % 3600 = 0 then hour
  else if count % 60 = 0 then minute
  else second

theorem seconds_largestIn_dvd (count : Nat) : (largestIn count).seconds ∣ count := by
  unfold largestIn
  split_ifs with days hours minutes
  · exact Nat.dvd_of_mod_eq_zero days
  · exact Nat.dvd_of_mod_eq_zero hours
  · exact Nat.dvd_of_mod_eq_zero minutes
  · exact Nat.one_dvd count

theorem seconds_le_largestIn {unit : TimeUnit} {count : Nat} (divides : unit.seconds ∣ count) :
    unit.seconds ≤ (largestIn count).seconds := by
  have whole : count % unit.seconds = 0 := Nat.mod_eq_zero_of_dvd divides
  unfold largestIn
  cases unit <;> simp only [seconds] at whole ⊢ <;> split_ifs <;> decide

theorem symbol_injective : Function.Injective symbol := by
  intro unit unit' same
  cases unit <;> cases unit' <;> simp [symbol] at same ⊢

theorem symbol_ne_milliseconds (unit : TimeUnit) : unit.symbol ≠ "ms" := by
  cases unit <;> decide

/-- The symbol of a unit does not start with a digit. -/
theorem isDigit_head_symbol (unit : TimeUnit) :
    ∀ next ∈ unit.symbol.toList.head?, next.isDigit = false := by
  cases unit <;> simp [symbol]

end TimeUnit

namespace Schedule

/-- A period of at least one second is shown as so many of the largest unit that divides it. -/
theorem periodText_of_pos {period : Duration} (long : 1 ≤ period.seconds) :
    let unit := TimeUnit.largestIn period.seconds
    periodText period = toString (period.seconds / unit.seconds) ++ unit.symbol := by
  have some_second : period.seconds ≠ 0 := Nat.ne_of_gt long
  simp only [periodText, some_second, if_false, TimeUnit.largestIn]
  split_ifs <;> simp [TimeUnit.seconds, TimeUnit.symbol]

theorem periodText_of_zero {period : Duration} (short : period.seconds = 0) :
    periodText period = toString period.milliseconds ++ "ms" := by
  simp [periodText, short]

theorem numbered_eq_iff {number number' : Nat} {unit unit' : String}
    (ends : ∀ next ∈ unit.toList.head?, next.isDigit = false)
    (ends' : ∀ next ∈ unit'.toList.head?, next.isDigit = false) :
    toString number ++ unit = toString number' ++ unit' ↔ number = number' ∧ unit = unit' := by
  rw [← String.toList_inj, String.toList_append, String.toList_append, Numeral.toList_toString,
    Numeral.toList_toString, Numeral.digits_append_inj ends ends', String.toList_inj]

theorem isDigit_head_milliseconds : ∀ next ∈ "ms".toList.head?, next.isDigit = false := by
  simp

theorem periodText_eq_iff_of_pos {first second : Duration} (long : 1 ≤ first.seconds)
    (long' : 1 ≤ second.seconds) :
    periodText first = periodText second ↔ first.seconds = second.seconds := by
  rw [periodText_of_pos long, periodText_of_pos long',
    numbered_eq_iff (TimeUnit.isDigit_head_symbol _) (TimeUnit.isDigit_head_symbol _)]
  constructor
  · rintro ⟨numbers, symbols⟩
    have units := TimeUnit.symbol_injective symbols
    calc first.seconds
        = first.seconds / (TimeUnit.largestIn first.seconds).seconds *
            (TimeUnit.largestIn first.seconds).seconds :=
          (Nat.div_mul_cancel (TimeUnit.seconds_largestIn_dvd _)).symm
      _ = second.seconds / (TimeUnit.largestIn second.seconds).seconds *
            (TimeUnit.largestIn second.seconds).seconds := by rw [numbers, units]
      _ = second.seconds := Nat.div_mul_cancel (TimeUnit.seconds_largestIn_dvd _)
  · intro same
    rw [same]
    exact ⟨rfl, rfl⟩

theorem periodText_eq_iff_of_zero {first second : Duration} (short : first.seconds = 0)
    (short' : second.seconds = 0) :
    periodText first = periodText second ↔ first.milliseconds = second.milliseconds := by
  rw [periodText_of_zero short, periodText_of_zero short',
    numbered_eq_iff isDigit_head_milliseconds isDigit_head_milliseconds]
  simp

theorem periodText_ne {first second : Duration} (long : 1 ≤ first.seconds)
    (short : second.seconds = 0) : periodText first ≠ periodText second := by
  rw [periodText_of_pos long, periodText_of_zero short, Ne,
    numbered_eq_iff (TimeUnit.isDigit_head_symbol _) isDigit_head_milliseconds]
  rintro ⟨-, symbols⟩
  exact TimeUnit.symbol_ne_milliseconds _ symbols

theorem periodText_eq_iff (first second : Duration) :
    periodText first = periodText second ↔
      1 ≤ first.seconds ∧ 1 ≤ second.seconds ∧ first.seconds = second.seconds ∨
        first.seconds = 0 ∧ second.seconds = 0 ∧ first.milliseconds = second.milliseconds := by
  rcases Nat.eq_zero_or_pos first.seconds with short | long <;>
    rcases Nat.eq_zero_or_pos second.seconds with short' | long'
  · simp [periodText_eq_iff_of_zero short short', short, short']
  · simp [(periodText_ne long' short).symm, short, Nat.ne_of_gt long']
  · simp [periodText_ne long short', short', Nat.ne_of_gt long]
  · have apart := Nat.ne_of_gt long
    simp [periodText_eq_iff_of_pos long long', Nat.succ_le_of_lt long, Nat.succ_le_of_lt long',
      apart]

theorem text_eq_iff (first second : Duration) :
    (every first).text = (every second).text ↔ periodText first = periodText second := by
  rw [text, text, String.append_right_inj]
  rfl

/-- A period of at least one second is shown as a number and a unit that together come to its whole
seconds, and the unit is the largest that divides them; a shorter period is shown as its whole
milliseconds.  So two periods look alike exactly when they have the same whole seconds, at least
one, or are shorter and have the same whole milliseconds.  Periods of whole seconds are told apart
by their texts. -/
theorem text_faithful :
    (∀ period : Duration, 1 ≤ period.seconds → ∃ (number : Nat) (unit : TimeUnit),
      (every period).text = "every " ++ (toString number ++ unit.symbol) ∧
        number * unit.seconds = period.seconds ∧
        ∀ other : TimeUnit, other.seconds ∣ period.seconds → other.seconds ≤ unit.seconds) ∧
    (∀ period : Duration, period.seconds = 0 →
      (every period).text = "every " ++ (toString period.milliseconds ++ "ms")) ∧
    (∀ first second : Duration, (every first).text = (every second).text ↔
      1 ≤ first.seconds ∧ 1 ≤ second.seconds ∧ first.seconds = second.seconds ∨
        first.seconds = 0 ∧ second.seconds = 0 ∧ first.milliseconds = second.milliseconds) ∧
    ∀ first second : Nat,
      (every (.ofSeconds first)).text = (every (.ofSeconds second)).text ↔ first = second := by
  refine ⟨fun period long => ?_, fun period short => ?_, fun first second => ?_,
    fun first second => ?_⟩
  · have shown := periodText_of_pos long
    exact ⟨_, _, congrArg ("every " ++ ·) shown,
      Nat.div_mul_cancel (TimeUnit.seconds_largestIn_dvd _),
      fun other divides => TimeUnit.seconds_le_largestIn divides⟩
  · exact congrArg ("every " ++ ·) (periodText_of_zero short)
  · rw [text_eq_iff, periodText_eq_iff]
  · rw [text_eq_iff, periodText_eq_iff]
    simp only [Duration.seconds, Duration.milliseconds, Duration.ofSeconds]
    omega

/-- Two hours and a half second look like two hours, and a quarter of a second looks different. -/
theorem text_faithful_hours :
    let long : Duration := ⟨7200500000000⟩
    let short : Duration := .ofMilliseconds 250
    (∃ (number : Nat) (unit : TimeUnit),
      (every long).text = "every " ++ (toString number ++ unit.symbol) ∧
        number * unit.seconds = 7200) ∧
      (every short).text = "every 250ms" ∧
      (every long).text = (every (.ofSeconds 7200)).text ∧
      (every long).text ≠ (every short).text := by
  intro long short
  obtain ⟨counted, shortened, alike, -⟩ := text_faithful
  obtain ⟨number, unit, shown, whole, -⟩ := counted long (by decide)
  refine ⟨⟨number, unit, shown, whole.trans (by decide)⟩,
    (shortened short (by decide)).trans (by decide +kernel), (alike _ _).mpr (by decide), ?_⟩
  rw [Ne, alike]
  decide

end Schedule

end ChatBot
