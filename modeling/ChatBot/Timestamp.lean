/-!
# Timestamps

A platform names a message by its channel and its timestamp.  A timestamp is an
opaque text; it is ordered as text, code point by code point, which is also the
order of its UTF-8 bytes.
-/

namespace ChatBot

/-- The text by which a platform names a message within its channel. -/
structure Timestamp where
  text : String
  deriving DecidableEq, Inhabited, Repr

namespace Timestamp

instance : LT Timestamp := ⟨fun first second => first.text < second.text⟩

instance (first second : Timestamp) : Decidable (first < second) :=
  inferInstanceAs (Decidable (first.text < second.text))

/-- Puts a timestamp into its place in a strictly ascending list. -/
def insertSorted (timestamp : Timestamp) : List Timestamp → List Timestamp
  | [] => [timestamp]
  | first :: rest =>
    if timestamp < first then timestamp :: first :: rest
    else if timestamp = first then first :: rest
    else first :: insertSorted timestamp rest

/-- The distinct timestamps of a list, in ascending order. -/
def sortDistinct (timestamps : List Timestamp) : List Timestamp :=
  timestamps.foldl (fun sorted timestamp => insertSorted timestamp sorted) []

/-- The last timestamp of a list, if it has any. -/
def latest? (timestamps : List Timestamp) : Option Timestamp :=
  (sortDistinct timestamps).getLast?

end Timestamp

end ChatBot
