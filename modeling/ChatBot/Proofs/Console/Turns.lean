import ChatBot.Console
import ChatBot.Proofs.Console.Clock
import ChatBot.Proofs.Session.Correlation

/-!
# Turns at the console

The reader stamps at most one line in a turn, the event loop handles at most one event, and while
time passes only scheduled actions post.  What these turns come to is recorded here: the events
that the loop receives, and the calls that are made.  However the turns follow each other, the
terminal counts what is typed and what is posted by the same clock, and the replies that are
tracked are among what was posted.

The reader alone fills the queue, and the loop alone empties it.  So what others do between the
stamp of a line and its place in the queue may as well be done after the reader's turn.
-/

namespace ChatBot

namespace Console

variable (session : Session Terminal)

/-- The event that the loop receives in a turn.  It receives none once it has ended. -/
def receives (console : Console) : ConsoleTurn → List Event
  | .handle =>
    match console.session.stage with
    | .running => console.queue.take 1
    | .stopping _ _ _ | .stopped _ => []
  | .read | .wait _ => []

theorem receives_of_running {console : Console} (running : console.session.stage = .running) :
    console.receives .handle = console.queue.take 1 := by
  simp [receives, running]

theorem receives_of_not_running {console : Console} (ended : console.session.stage ≠ .running)
    (turn : ConsoleTurn) : console.receives turn = [] := by
  cases turn with
  | handle =>
      simp only [receives]
      split
      · next running => exact absurd running ended
      · rfl
      · rfl
  | _ => rfl

/-- The events that the loop receives in the course of turns. -/
def received (console : Console) : List ConsoleTurn → List Event
  | [] => []
  | turn :: rest => console.receives turn ++ received (console.take session turn) rest

/-- The calls of the chat driver in a turn. -/
def calls (console : Console) : ConsoleTurn → List MadeCall
  | .read => []
  | .handle =>
    match console.queue with
    | [] => []
    | event :: _ => Moment.calls (session.deliver console.session [event]).2.1
  | .wait milliseconds => Moment.calls (session.advance console.session milliseconds).2

/-- The calls of the chat driver in the course of turns. -/
def allCalls (console : Console) : List ConsoleTurn → List MadeCall
  | [] => []
  | turn :: rest => console.calls session turn ++ allCalls (console.take session turn) rest

/-! ## The reader's turn -/

variable {session} {console : Console}

@[simp]
theorem session_enqueue (console : Console) (event : Event) :
    (console.enqueue event).session = console.session := by
  unfold enqueue
  split <;> rfl

@[simp]
theorem input_enqueue (console : Console) (event : Event) :
    (console.enqueue event).input = console.input := by
  unfold enqueue
  split <;> rfl

@[simp]
theorem terminal_enqueue (console : Console) (event : Event) :
    (console.enqueue event).terminal = console.terminal := by
  rw [terminal, session_enqueue, terminal]

theorem enqueue_of_running (running : console.session.stage = .running) (event : Event) :
    console.enqueue event = { console with queue := console.queue ++ [event] } := by
  simp [enqueue, SessionState.isStopped, running]

theorem read_of_end (reading : console.isReading = true) (done : console.input = []) :
    console.read = { console.enqueue .termination with isReading := false } := by
  simp [read, reading, done]

theorem read_of_line (reading : console.isReading = true) {line : String} {rest : List String}
    (next : console.input = line :: rest) :
    console.read = { console with input := rest }.takeLine (.ofText line) := by
  simp [read, reading, next]

theorem session_takeLine (console : Console) (line : ConsoleLine) :
    (console.takeLine line).session =
      console.session.withDriver (console.takeLine line).terminal := by
  cases line with
  | blank => rfl
  | malformed => rfl
  | event event =>
      simp only [takeLine, session_enqueue, terminal_enqueue]
      rfl
  | message text =>
      simp only [takeLine, session_enqueue, terminal_enqueue]
      rfl

theorem terminal_takeLine (console : Console) (line : ConsoleLine) :
    (console.takeLine line).terminal = console.terminal ∨
      (console.takeLine line).terminal = (console.terminal.printStamped .typed).2 := by
  cases line with
  | blank => exact Or.inl rfl
  | malformed => exact Or.inl rfl
  | event event => exact Or.inl (console.terminal_enqueue event)
  | message text => exact Or.inr (terminal_enqueue _ _)

/-- The reader changes nothing of the session but the terminal, where it types a line or none. -/
theorem session_read (console : Console) :
    console.read.session = console.session.withDriver console.read.terminal ∧
      (console.read.terminal = console.terminal ∨
        console.read.terminal = (console.terminal.printStamped .typed).2) := by
  cases reading : console.isReading with
  | false =>
      have still : console.read = console := by simp [read, reading]
      rw [still]
      exact ⟨rfl, Or.inl rfl⟩
  | true =>
      cases next : console.input with
      | nil =>
          rw [read_of_end reading next]
          have session_eq := console.session_enqueue .termination
          have terminal_eq := console.terminal_enqueue .termination
          simp only [terminal] at terminal_eq ⊢
          simp only [session_eq]
          exact ⟨rfl, Or.inl trivial⟩
      | cons line rest =>
          rw [read_of_line reading next]
          exact ⟨session_takeLine _ _, terminal_takeLine _ _⟩

/-! ## The turn of the loop -/

theorem handle_of_nil (empty : console.queue = []) : console.handle session = console := by
  simp [handle, empty]

theorem session_handle_of_cons (session : Session Terminal) {event : Event} {rest : List Event}
    (next : console.queue = event :: rest) :
    (console.handle session).session = (session.deliver console.session [event]).1 := by
  simp [handle, next]

/-! ## What turns keep -/

section

variable (shown : session.platform = Terminal.driver)
include shown

/-- All that an event does to the terminal are the calls that are made for it. -/
theorem answers_handle (tidy : console.session.loop.desk.replies.Tidy) :
    console.terminal.Answers (console.handle session).terminal
      (console.calls session .handle) := by
  cases queue : console.queue with
  | nil => simpa [handle, calls, queue] using Terminal.Answers.refl console.terminal
  | cons event rest =>
      have performs := session.performs_deliver tidy [event]
      rw [shown] at performs
      simp only [handle, calls, queue]
      exact Terminal.answers_of_performs performs

theorem answers_wait (console : Console) (milliseconds : Nat) :
    console.terminal.Answers (console.take session (.wait milliseconds)).terminal
      (console.calls session (.wait milliseconds)) := by
  have performs := session.performs_advance console.session milliseconds
  rw [shown] at performs
  exact Terminal.answers_of_performs performs

end

/-- The terminal has counted what was typed and what was posted by one clock, the messages that
were posted are those of the calls, and the replies that are tracked are a ledger of the calls. -/
structure Counted (console : Console) (calls : List MadeCall) : Prop where
  numbered : console.terminal.Numbered
  posted : console.terminal.posted.map stampOf = postedTimestamps calls
  ledger : console.session.loop.desk.replies.Tidy ∧
    ((postedTimestamps (sourceCalls calls)).Nodup →
      Ledger console.session.loop.desk.replies (sourceCalls calls))

theorem counted_start (bot : Bot) (input : List String) : (start bot input).Counted [] where
  numbered := Terminal.numbered_empty.print rfl
  posted := rfl
  ledger := ⟨ReplyCache.tidy_empty bot.responseCapacity,
    fun _ => Ledger.empty bot.responseCapacity⟩

namespace Counted

variable {made : List MadeCall}

theorem read (counted : console.Counted made) : console.read.Counted made := by
  obtain ⟨session_eq, terminal_eq⟩ := console.session_read
  have printed : console.read.terminal.Numbered ∧
      console.read.terminal.posted = console.terminal.posted := by
    rcases terminal_eq with same | typed
    · rw [same]
      exact ⟨counted.numbered, rfl⟩
    · rw [typed]
      exact ⟨counted.numbered.printStamped .typed fun _ => rfl,
        by simp [Terminal.posted, Terminal.printStamped, Terminal.print, TerminalLine.posted?]⟩
  refine ⟨printed.1, printed.2 ▸ counted.posted, ?_⟩
  rw [session_eq]
  exact counted.ledger

theorem answer (counted : console.Counted made) {next : Console} {more : List MadeCall}
    (answers : console.terminal.Answers next.terminal more)
    (ledger : next.session.loop.desk.replies.Tidy ∧
      ((postedTimestamps (sourceCalls (made ++ more))).Nodup →
        Ledger next.session.loop.desk.replies (sourceCalls (made ++ more)))) :
    next.Counted (made ++ more) := by
  refine ⟨answers.numbered counted.numbered, ?_, ledger⟩
  rw [answers.posted, counted.posted, postedTimestamps_append]

variable (shown : session.platform = Terminal.driver)

include shown in
theorem take (counted : console.Counted made) (turn : ConsoleTurn) :
    (console.take session turn).Counted (made ++ console.calls session turn) := by
  cases turn with
  | read =>
      rw [calls, List.append_nil]
      exact counted.read
  | handle =>
      have answers := answers_handle shown counted.ledger.1
      cases queue : console.queue with
      | nil => simpa [Console.take, handle, calls, queue] using counted
      | cons event rest =>
          have ledger := session.loop.dispatcher.maintains_ledger.deliver [event] counted.ledger
          simp only [handle, calls, queue] at answers
          simp only [Console.take, handle, calls, queue]
          exact counted.answer answers ledger
  | wait milliseconds =>
      have ledger := session.loop.dispatcher.maintains_ledger.postsOnly
        (PostsOnly.advance session console.session milliseconds) counted.ledger
      exact counted.answer (answers_wait shown console milliseconds) ledger

include shown in
theorem takeAll (counted : console.Counted made) (turns : List ConsoleTurn) :
    (console.takeAll session turns).Counted (made ++ console.allCalls session turns) := by
  induction turns generalizing console made with
  | nil => simpa [Console.takeAll, allCalls] using counted
  | cons turn rest ih =>
      have later := ih (counted.take shown turn)
      rwa [List.append_assoc] at later

end Counted

end Console

end ChatBot
