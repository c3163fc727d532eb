import ChatBot.Platform

/-!
# The terminal as a platform

Messages that the bot posts, changes or deletes are shown as lines of a terminal.
One clock numbers the messages that are posted and the lines that are typed, in
the order in which they are taken up.
-/

namespace ChatBot

/-- Something that a terminal shows. -/
inductive TerminalLine where
  | notice (text : String)
  | typed (stamp : Nat)
  | posted (stamp : Nat) (channel : String) (message : OutgoingMessage)
  | changed (channel : String) (timestamp : Timestamp) (text : String)
  | removed (channel : String) (timestamp : Timestamp)

/-- The timestamp with a number on the clock. -/
def stampOf (number : Nat) : Timestamp :=
  ⟨toString number ++ ".000000"⟩

namespace TerminalLine

/-- The text of a line; a message of several lines takes several. -/
def text : TerminalLine → String
  | notice text => text
  | typed stamp => "(" ++ (stampOf stamp).text ++ ")"
  | posted stamp channel message =>
    let thread := match message.thread with
      | some target => " thread:" ++ target.timestamp.text
      | none => ""
    "[" ++ channel ++ " " ++ (stampOf stamp).text ++ thread ++ "] " ++ message.text
  | changed channel timestamp text =>
    "[" ++ channel ++ " " ++ timestamp.text ++ " edited] " ++ text
  | removed channel timestamp => "[" ++ channel ++ " " ++ timestamp.text ++ " deleted]"

end TerminalLine

/-- A terminal: how many stamps were given out, and all that was shown. -/
structure Terminal where
  stamps : Nat
  lines : List TerminalLine

namespace Terminal

def empty : Terminal := ⟨0, []⟩

def print (terminal : Terminal) (line : TerminalLine) : Terminal :=
  { terminal with lines := terminal.lines ++ [line] }

/-- Gives out the next stamp and shows a line with it. -/
def printStamped (terminal : Terminal) (line : Nat → TerminalLine) : Nat × Terminal :=
  let stamp := terminal.stamps + 1
  (stamp, { terminal.print (line stamp) with stamps := stamp })

/-- The terminal as a chat driver, on which every call succeeds. -/
def driver : ChatDriver Terminal where
  send terminal channel message :=
    let (stamp, terminal) := terminal.printStamped (.posted · channel message)
    (.ok ⟨channel, stampOf stamp, message.text⟩, terminal)
  update terminal channel timestamp message :=
    (.ok ⟨channel, timestamp, message.text⟩,
      terminal.print (.changed channel timestamp message.text))
  delete terminal channel timestamp :=
    (.ok (), terminal.print (.removed channel timestamp))

end Terminal

end ChatBot
