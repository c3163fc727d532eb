import ChatBot.Json.Reader

/-!
# Words of a TOML document

Blanks, comments, line ends, strings and keys.  Every reader takes its word from
the start of a list of characters and gives the characters after it.
-/

namespace ChatBot

namespace Toml

def isSpace (c : Char) : Bool :=
  c = ' ' || c = '\t'

def skipSpaces (text : List Char) : List Char :=
  text.dropWhile isSpace

/-- The characters that may stand in a comment and, quotation marks and escapes
apart, in a string. -/
def isTextChar (c : Char) : Bool :=
  c = '\t' || (0x20 ≤ c.toNat && c.toNat ≠ 0x7F)

/-- The text after a line end, or the empty text at the end of the document. -/
def lineEnd? : List Char → Option (List Char)
  | [] => some []
  | '\n' :: rest => some rest
  | '\r' :: '\n' :: rest => some rest
  | _ => none

/-- The text after what may follow a statement on its line: blanks and a comment. -/
def restOfLine? (text : List Char) : Option (List Char) :=
  match skipSpaces text with
  | '#' :: rest => lineEnd? (rest.dropWhile isTextChar)
  | rest => lineEnd? rest

/-- The text without the blanks, line ends and comments in front. -/
def skipLines (inComment : Bool) : List Char → Option (List Char)
  | [] => some []
  | '\n' :: rest => skipLines false rest
  | '\r' :: '\n' :: rest => skipLines false rest
  | c :: rest =>
    if inComment then if isTextChar c then skipLines true rest else none
    else if isSpace c then skipLines false rest
    else if c = '#' then skipLines true rest
    else some (c :: rest)

def hexNumber? (digits : List Char) : Option Nat :=
  digits.foldlM (fun value c => (Json.hexValue? c).map (value * 16 + ·)) 0

/-- The character of the code point that hexadecimal digits denote. -/
def codePoint? (digits : List Char) : Option Char := do
  let code ← hexNumber? digits
  if code < 0xD800 ∨ (0xE000 ≤ code ∧ code < 0x110000) then some (Char.ofNat code) else none

/-- The character that a one-letter escape stands for. -/
def escapeValue? (c : Char) : Option Char :=
  if c = '/' then none else Json.escapeValue? c

/-- Reads a string from after its opening quotation mark. -/
def basicString : List Char → Option (List Char × List Char)
  | [] => none
  | '"' :: rest => some ([], rest)
  | '\\' :: 'u' :: a :: b :: c :: d :: rest => do
    let value ← codePoint? [a, b, c, d]
    let (text, rest) ← basicString rest
    some (value :: text, rest)
  | '\\' :: 'U' :: a :: b :: c :: d :: e :: f :: g :: h :: rest => do
    let value ← codePoint? [a, b, c, d, e, f, g, h]
    let (text, rest) ← basicString rest
    some (value :: text, rest)
  | '\\' :: c :: rest => do
    let value ← escapeValue? c
    let (text, rest) ← basicString rest
    some (value :: text, rest)
  | c :: rest =>
    if c ≠ '\\' ∧ isTextChar c then do
      let (text, rest) ← basicString rest
      some (c :: text, rest)
    else none

/-- Reads a string without escapes from after its opening apostrophe. -/
def literalString (text : List Char) : Option (List Char × List Char) :=
  match text.dropWhile (fun c => isTextChar c && c ≠ '\'') with
  | '\'' :: rest => some (text.takeWhile (fun c => isTextChar c && c ≠ '\''), rest)
  | _ => none

/-- The marks that belong to a string of several lines although they touch its
closing marks, at most two. -/
def closingMarks (mark : Char) : List Char → List Char × List Char
  | a :: b :: rest =>
    if a = mark then if b = mark then ([a, b], rest) else ([a], b :: rest)
    else ([], a :: b :: rest)
  | [a] => if a = mark then ([a], []) else ([], [a])
  | [] => ([], [])

/-- Where a string of several lines stands in a gap, which starts with a backslash
at the end of a line and goes on to the next character that is not blank. -/
inductive Gap where
  | none
  | sameLine
  | nextLines
  deriving DecidableEq

/-- Reads a string of several lines from after its opening marks.  Line ends of
either form are read as line feeds. -/
def multilineBasic : Gap → List Char → Option (List Char × List Char)
  | _, [] => .none
  | .sameLine, c :: rest =>
    if isSpace c then multilineBasic .sameLine rest
    else if c = '\n' then multilineBasic .nextLines rest
    else if c = '\r' then
      match rest with
      | '\n' :: rest => multilineBasic .nextLines rest
      | _ => .none
    else .none
  | _, '"' :: '"' :: '"' :: rest => some (closingMarks '"' rest)
  | _, '\\' :: 'u' :: a :: b :: c :: d :: rest => do
    let value ← codePoint? [a, b, c, d]
    let (text, rest) ← multilineBasic .none rest
    some (value :: text, rest)
  | _, '\\' :: 'U' :: a :: b :: c :: d :: e :: f :: g :: h :: rest => do
    let value ← codePoint? [a, b, c, d, e, f, g, h]
    let (text, rest) ← multilineBasic .none rest
    some (value :: text, rest)
  | _, '\\' :: '\n' :: rest => multilineBasic .nextLines rest
  | _, '\\' :: '\r' :: '\n' :: rest => multilineBasic .nextLines rest
  | _, '\\' :: c :: rest =>
    if isSpace c then multilineBasic .sameLine rest
    else do
      let value ← escapeValue? c
      let (text, rest) ← multilineBasic .none rest
      some (value :: text, rest)
  | gap, '\r' :: '\n' :: rest =>
    if gap = .nextLines then multilineBasic .nextLines rest
    else do
      let (text, rest) ← multilineBasic .none rest
      some ('\n' :: text, rest)
  | gap, c :: rest =>
    if gap = .nextLines ∧ (isSpace c ∨ c = '\n') then multilineBasic .nextLines rest
    else if c = '\n' ∨ (c ≠ '\\' ∧ isTextChar c) then do
      let (text, rest) ← multilineBasic .none rest
      some (c :: text, rest)
    else .none

/-- Reads a string of several lines without escapes from after its opening marks. -/
def multilineLiteral : List Char → Option (List Char × List Char)
  | [] => none
  | '\'' :: '\'' :: '\'' :: rest => some (closingMarks '\'' rest)
  | '\r' :: '\n' :: rest => do
    let (text, rest) ← multilineLiteral rest
    some ('\n' :: text, rest)
  | c :: rest =>
    if c = '\n' ∨ isTextChar c then do
      let (text, rest) ← multilineLiteral rest
      some (c :: text, rest)
    else none

/-- The text without a line end in front. -/
def dropLineEnd (text : List Char) : List Char :=
  (lineEnd? text).getD text

def string? : List Char → Option (List Char × List Char)
  | '"' :: '"' :: '"' :: rest => multilineBasic .none (dropLineEnd rest)
  | '"' :: rest => basicString rest
  | '\'' :: '\'' :: '\'' :: rest => multilineLiteral (dropLineEnd rest)
  | '\'' :: rest => literalString rest
  | _ => none

/-- The characters of a key without quotation marks. -/
def isKeyChar (c : Char) : Bool :=
  c.isAlphanum || c = '_' || c = '-'

def keyPart? : List Char → Option (String × List Char)
  | '"' :: rest => (basicString rest).map fun (key, rest) => (String.ofList key, rest)
  | '\'' :: rest => (literalString rest).map fun (key, rest) => (String.ofList key, rest)
  | text =>
    if (text.takeWhile isKeyChar).isEmpty then none
    else some (String.ofList (text.takeWhile isKeyChar), text.dropWhile isKeyChar)

/-- How deep a document may nest, and how many parts a key may have, less one. -/
def depthLimit : Nat := 80

/-- Reads a key of at most so many parts, with dots between them. -/
def key? : Nat → List Char → Option (List String × List Char)
  | 0, _ => none
  | limit + 1, text => do
    let (part, rest) ← keyPart? (skipSpaces text)
    match skipSpaces rest with
    | '.' :: rest =>
      let (parts, rest) ← key? limit rest
      some (part :: parts, rest)
    | rest => some ([part], rest)

end Toml

end ChatBot
