/-!
# Doubles

Numbers in a text may be kept as doubles, numbers of 53 significant bits up to almost
`2 ^ 1024`.  Only their range shows: this module says which numbers have a finite
double, in exact arithmetic on whole numbers.
-/

namespace ChatBot

namespace Double

def precision : Nat := 53

/-- The first number that does not round to a finite double: half a step above the
largest of them, which is `2 ^ 1024 - 2 ^ 971`. -/
def overflowBound : Nat :=
  Nat.pow 2 1024 - Nat.pow 2 970

/-- A quotient of whole numbers rounded to the nearest, a half to the even neighbour. -/
def roundedQuotient (number unit : Nat) : Nat :=
  let quotient := number / unit
  let excess := 2 * (number % unit)
  if unit < excess ∨ (excess = unit ∧ quotient % 2 = 1) then quotient + 1 else quotient

/-- The double nearest to a whole number, without a limit to its size. -/
def nearest (number : Nat) : Nat :=
  let unit := Nat.pow 2 (Nat.log2 number + 1 - precision)
  roundedQuotient number unit * unit

/-- Whether `significand * 10 ^ exponent` rounds to a finite double. -/
def isFinite (significand : Nat) (exponent : Int) : Bool :=
  let digits : Int := (Nat.toDigits 10 significand).length
  if significand = 0 || digits + exponent ≤ 308 then true
  else if digits + exponent > 309 then false
  else if 0 ≤ exponent then significand * Nat.pow 10 exponent.toNat < overflowBound
  else significand < overflowBound * Nat.pow 10 (-exponent).toNat

/-- Whether the product of the doubles nearest to a number and to a power of ten rounds
to a finite double.  A power of ten that is too large has no double, and for a negative
exponent there is a quotient instead. -/
def isFiniteProduct (significand : Nat) (exponent : Int) : Bool :=
  if significand = 0 || exponent < 0 then true
  else if 308 < exponent then false
  else nearest significand * nearest (Nat.pow 10 exponent.toNat) < overflowBound

end Double

end ChatBot
