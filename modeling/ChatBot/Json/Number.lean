import ChatBot.Double
import ChatBot.Json

/-!
# Numbers of a JSON text

A number that is no integer of 64 bits is kept in two steps: as many of its first
digits as fit into an unsigned 64-bit word, with a power of ten, and then the product
of the two as a double.  It is readable if that double is finite.
-/

namespace ChatBot

namespace Json

/-- The number that a list of decimal digits denotes. -/
def digitsValue (digits : List Char) : Nat :=
  digits.foldl (fun value c => value * 10 + (c.toNat - 48)) 0

/-- Digits at the start of a text, at least one, and the text after them. -/
def takeDigits (text : List Char) : Option (List Char × List Char) :=
  if (text.takeWhile Char.isDigit).isEmpty then none
  else some (text.takeWhile Char.isDigit, text.dropWhile Char.isDigit)

/-- The fraction digits that a number may carry. -/
def takeFraction : List Char → Option (List Char × List Char)
  | '.' :: rest => takeDigits rest
  | rest => some ([], rest)

/-- The exponent that a number may carry; `none` inside when it has none. -/
def takeExponent : List Char → Option (Option Int × List Char)
  | c :: rest =>
    if c = 'e' || c = 'E' then
      match rest with
      | '-' :: rest => do
        let (digits, rest) ← takeDigits rest
        some (some (-(digitsValue digits : Int)), rest)
      | '+' :: rest => do
        let (digits, rest) ← takeDigits rest
        some (some (digitsValue digits : Int), rest)
      | rest => do
        let (digits, rest) ← takeDigits rest
        some (some (digitsValue digits : Int), rest)
    else some (none, c :: rest)
  | [] => some (none, [])

/-- The first digits of a number as a whole number, with a power of ten. -/
structure Scaled where
  significand : Nat
  exponent : Int
  deriving DecidableEq, Repr

namespace Scaled

def maxSignificand : Nat := 18446744073709551615

def push? (significand : Nat) (digit : Char) : Option Nat :=
  let next := significand * 10 + (digit.toNat - 48)
  if next ≤ maxSignificand then some next else none

/-- Digits before the point, after others.  From the first on that does not fit they
only raise the exponent. -/
def addWhole (significand : Nat) : List Char → Scaled
  | [] => ⟨significand, 0⟩
  | digit :: rest =>
    match push? significand digit with
    | some next => addWhole next rest
    | none => ⟨significand, (digit :: rest).length⟩

/-- Digits behind the point.  From the first on that does not fit they are left out. -/
def addFraction (scaled : Scaled) : List Char → Scaled
  | [] => scaled
  | digit :: rest =>
    match push? scaled.significand digit with
    | some next => addFraction ⟨next, scaled.exponent - 1⟩ rest
    | none => scaled

/-- The digits of a number with its exponent. -/
def ofDigits (whole fraction : List Char) (exponent : Int) : Scaled :=
  let scaled := (addWhole 0 whole).addFraction fraction
  { scaled with exponent := scaled.exponent + exponent }

def isFinite (scaled : Scaled) : Bool :=
  Double.isFiniteProduct scaled.significand scaled.exponent

end Scaled

/-- The leaf of a number from its sign, digits, fraction digits and exponent. -/
def numberLeaf (negative : Bool) (whole fraction : List Char)
    (exponent : Option Int) : Json :=
  let magnitude := digitsValue (whole ++ fraction)
  let signed : Int := if negative then -magnitude else magnitude
  if fraction.isEmpty && exponent.isNone && inIntRange signed &&
      !(negative && magnitude = 0) then int signed
  else if (Scaled.ofDigits whole fraction (exponent.getD 0)).isFinite then
    decimal signed (exponent.getD 0 - fraction.length)
  else unreadable

/-- Reads the part of a number after its sign. -/
def readMagnitude (negative : Bool) (text : List Char) :
    Option (Json × List Char) := do
  let (whole, rest) ← takeDigits text
  if whole.head? = some '0' && whole.length ≠ 1 then none
  let (fraction, rest) ← takeFraction rest
  let (exponent, rest) ← takeExponent rest
  some (numberLeaf negative whole fraction exponent, rest)

def readNumber : List Char → Option (Json × List Char)
  | '-' :: rest => readMagnitude true rest
  | rest => readMagnitude false rest

end Json

end ChatBot
