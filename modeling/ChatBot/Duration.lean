/-!
# Durations

Spans of time to the nanosecond, and their two texts: an exact decimal in the
largest fitting unit, and the shorter form of a schedule.
-/

namespace ChatBot

/-- A span of time in nanoseconds. -/
structure Duration where
  nanoseconds : Nat
  deriving DecidableEq, Inhabited, Repr

namespace Duration

def ofMilliseconds (milliseconds : Nat) : Duration :=
  ⟨milliseconds * 1000000⟩

def ofSeconds (seconds : Nat) : Duration :=
  ⟨seconds * 1000000000⟩

def seconds (duration : Duration) : Nat :=
  duration.nanoseconds / 1000000000

def milliseconds (duration : Duration) : Nat :=
  duration.nanoseconds / 1000000

def subsecond (duration : Duration) : Nat :=
  duration.nanoseconds % 1000000000

/-- The decimal fraction `part / 10 ^ places` after a point, without zeros at
its end; nothing when it is zero. -/
def fractionText (part places : Nat) : String :=
  let digits := Nat.toDigits 10 part
  let padded := List.replicate (places - digits.length) '0' ++ digits
  let kept := (padded.reverse.dropWhile (· = '0')).reverse
  if kept.isEmpty then "" else String.ofList ('.' :: kept)

/-- The duration as a decimal in the largest of seconds, milliseconds,
microseconds and nanoseconds of which it holds at least one. -/
def text (duration : Duration) : String :=
  let n := duration.nanoseconds
  if 1000000000 ≤ n then
    toString (n / 1000000000) ++ fractionText (n % 1000000000) 9 ++ "s"
  else if 1000000 ≤ n then
    toString (n / 1000000) ++ fractionText (n % 1000000) 6 ++ "ms"
  else if 1000 ≤ n then
    toString (n / 1000) ++ fractionText (n % 1000) 3 ++ "µs"
  else toString n ++ "ns"

end Duration

end ChatBot
