import ChatBot.Text.CaseData
import ChatBot.Text.CharacterSet

/-!
# Lower case

The lower-case form of a text by the full mappings of Unicode.  Two letters
depart from one-to-one replacement: `İ` becomes `i` with a combining dot, and a
capital sigma at the end of a word becomes the final form `ς`.
-/

namespace ChatBot

namespace Text

/-- The lower-case code point of a code point, which is itself when it has none. -/
def lowerCode (code : Nat) : Nat :=
  match lowerCaseRuns.find? (fun (first, last, step, _) =>
      first ≤ code && code ≤ last && (code - first) % step = 0) with
  | some (first, _, _, target) => target + (code - first)
  | none => code

/-- The property Cased. -/
def isCased (c : Char) : Bool :=
  inSet casedBoundaries c.toNat

/-- The property Case_Ignorable. -/
def isCaseIgnorable (c : Char) : Bool :=
  inSet caseIgnorableBoundaries c.toNat

/-- Whether the first character that is not ignored when looking for case has
case. -/
def startsCased (text : List Char) : Bool :=
  match text.dropWhile isCaseIgnorable with
  | c :: _ => isCased c
  | [] => false

/-- The lower-case form of a character that stands between two texts, the one
before it given backwards. -/
def lowerChar (before : List Char) (c : Char) (after : List Char) : List Char :=
  if c.toNat < 0x80 then [c.toLower]
  else if c = 'Σ' then
    if startsCased before && !startsCased after then ['ς'] else ['σ']
  else if c = 'İ' then ['i', Char.ofNat 0x307]
  else [Char.ofNat (lowerCode c.toNat)]

/-- The lower-case form of the rest of a text. -/
def lowerFrom (before : List Char) : List Char → List Char
  | [] => []
  | c :: after => lowerChar before c after ++ lowerFrom (c :: before) after

/-- The lower-case form of a text. -/
def toLower (text : String) : String :=
  String.ofList (lowerFrom [] text.toList)

end Text

end ChatBot
