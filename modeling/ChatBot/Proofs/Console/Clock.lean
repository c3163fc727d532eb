import ChatBot.Console.Terminal
import ChatBot.Proofs.Dispatch.Ledger
import ChatBot.Proofs.Session.Performed
import ChatBot.Proofs.Text.Numerals

/-!
# The clock of the terminal

The lines that are typed and the messages that are posted take their stamps from one clock.  Each
stamp is shown once, in order and without a gap, however typing and posting take turns.
-/

namespace ChatBot

theorem stampOf_injective : Function.Injective stampOf := by
  intro first second same
  exact Numeral.toString_append_injective ".000000" (congrArg Timestamp.text same)

namespace TerminalLine

/-- The stamp of a line that was typed. -/
def typed? : TerminalLine → Option Nat
  | typed stamp => some stamp
  | _ => none

/-- The stamp of a message that was posted. -/
def posted? : TerminalLine → Option Nat
  | posted stamp _ _ => some stamp
  | _ => none

/-- The stamp with which a line is shown, if it has one. -/
def stamp? (line : TerminalLine) : Option Nat :=
  line.typed?.or line.posted?

/-- A line is typed or posted or neither, so its stamp counts once. -/
theorem filterMap_stamp?_perm (lines : List TerminalLine) :
    (lines.filterMap typed? ++ lines.filterMap posted?).Perm (lines.filterMap stamp?) := by
  induction lines with
  | nil => exact .nil
  | cons line rest ih =>
      cases line with
      | typed stamp => simpa [stamp?, typed?, posted?, List.filterMap_cons] using ih
      | posted stamp channel message =>
          simpa [stamp?, typed?, posted?, List.filterMap_cons] using
            List.perm_middle.trans (ih.cons stamp)
      | _ => simpa [stamp?, typed?, posted?, List.filterMap_cons] using ih

end TerminalLine

namespace Terminal

variable {terminal before after : Terminal} {calls : List MadeCall}

/-- The stamps of the lines that were typed. -/
def typed (terminal : Terminal) : List Nat :=
  terminal.lines.filterMap TerminalLine.typed?

/-- The stamps of the messages that were posted. -/
def posted (terminal : Terminal) : List Nat :=
  terminal.lines.filterMap TerminalLine.posted?

/-- The lines show all stamps that were given out, each once and in order. -/
def Numbered (terminal : Terminal) : Prop :=
  terminal.lines.filterMap TerminalLine.stamp? = List.range' 1 terminal.stamps

theorem Numbered.perm (numbered : terminal.Numbered) :
    (terminal.typed ++ terminal.posted).Perm (List.range' 1 terminal.stamps) :=
  numbered ▸ TerminalLine.filterMap_stamp?_perm terminal.lines

theorem numbered_empty : empty.Numbered :=
  rfl

theorem Numbered.print (numbered : terminal.Numbered) {line : TerminalLine}
    (unstamped : line.stamp? = none) : (terminal.print line).Numbered := by
  simpa [Numbered, Terminal.print, unstamped] using numbered

theorem Numbered.printStamped (numbered : terminal.Numbered) (line : Nat → TerminalLine)
    (stamped : ∀ stamp, (line stamp).stamp? = some stamp) :
    (terminal.printStamped line).2.Numbered := by
  unfold Numbered at *
  simp [Terminal.printStamped, Terminal.print, stamped, numbered, List.range'_1_concat,
    Nat.add_comm]

/-! ## Requests -/

/-- What a request does to the terminal: the stamps stay in order, nothing is typed, and a message
that is posted has the timestamp of its receipt. -/
structure Answers (before after : Terminal) (calls : List MadeCall) : Prop where
  numbered : before.Numbered → after.Numbered
  typed : after.typed = before.typed
  posted : after.posted.map stampOf = before.posted.map stampOf ++ postedTimestamps calls

theorem Answers.refl (terminal : Terminal) : terminal.Answers terminal [] where
  numbered := id
  typed := rfl
  posted := by simp [postedTimestamps]

theorem answers_perform (terminal : Terminal) (origin : Origin) (request : Request) :
    terminal.Answers (driver.perform terminal request).2
      [(origin, (driver.perform terminal request).1)] := by
  cases request with
  | send channel message =>
      refine ⟨fun numbered => numbered.printStamped (.posted · channel message) fun _ => rfl,
        ?_, ?_⟩
      · simp [Terminal.typed, ChatDriver.perform, driver, printStamped, print,
          TerminalLine.typed?]
      · simp [Terminal.posted, ChatDriver.perform, driver, printStamped, print,
          TerminalLine.posted?, postedTimestamps, Call.postedTimestamp?]
  | update channel timestamp message =>
      refine ⟨fun numbered => numbered.print rfl, ?_, ?_⟩
      · simp [Terminal.typed, ChatDriver.perform, driver, print, TerminalLine.typed?]
      · simp [Terminal.posted, ChatDriver.perform, driver, print, TerminalLine.posted?,
          postedTimestamps, Call.postedTimestamp?]
  | delete channel timestamp =>
      refine ⟨fun numbered => numbered.print rfl, ?_, ?_⟩
      · simp [Terminal.typed, ChatDriver.perform, driver, print, TerminalLine.typed?]
      · simp [Terminal.posted, ChatDriver.perform, driver, print, TerminalLine.posted?,
          postedTimestamps, Call.postedTimestamp?]

theorem answers_of_performs (performs : driver.Performs before after calls) :
    before.Answers after calls := by
  induction calls generalizing before with
  | nil =>
      obtain rfl := ChatDriver.performs_nil.mp performs
      exact .refl before
  | cons made rest ih =>
      obtain ⟨call_eq, later⟩ := ChatDriver.performs_cons.mp performs
      have first := answers_perform before made.1 made.2.request
      rw [call_eq] at first
      have others := ih later
      refine ⟨fun numbered => others.numbered (first.numbered numbered), ?_, ?_⟩
      · rw [others.typed, first.typed]
      · rw [others.posted, first.posted, List.append_assoc, ← postedTimestamps_append]
        rfl

end Terminal

end ChatBot
