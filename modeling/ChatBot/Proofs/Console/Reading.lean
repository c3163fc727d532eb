import ChatBot.Proofs.Console.Turns

/-!
# What the loop receives of the input

The reader and the loop work at the two ends of a queue.  What has been received and what waits in
the queue is what was read, in the order of the input, until an event ends the loop.
-/

namespace ChatBot

/-- Whether a line is read as a message, which takes a stamp. -/
def ConsoleLine.isMessage : ConsoleLine → Bool
  | message _ => true
  | blank | malformed | event _ => false

namespace Console

/-- How many of the lines are read as messages. -/
def messageCount (lines : List String) : Nat :=
  lines.countP fun line => (ConsoleLine.ofText line).isMessage

/-- The events that lines are read as, when the messages among them are given these stamps.  A
line that is blank or malformed is read as none, and any other as one. -/
def eventsOf : List String → List Nat → List Event
  | [], _ => []
  | line :: rest, stamps =>
    match ConsoleLine.ofText line with
    | .blank | .malformed => eventsOf rest stamps
    | .event event => event :: eventsOf rest stamps
    | .message text =>
      match stamps with
      | [] => eventsOf rest []
      | stamp :: later => typedMessage text stamp :: eventsOf rest later

theorem messageCount_cons (line : String) (rest : List String) :
    messageCount (line :: rest) =
      messageCount rest + if (ConsoleLine.ofText line).isMessage then 1 else 0 :=
  List.countP_cons

theorem eventsOf_append {first : List String} {stamps : List Nat}
    (level : stamps.length = messageCount first) (second : List String) (later : List Nat) :
    eventsOf (first ++ second) (stamps ++ later) =
      eventsOf first stamps ++ eventsOf second later := by
  induction first generalizing stamps with
  | nil =>
      obtain rfl := List.eq_nil_of_length_eq_zero level
      rfl
  | cons line rest ih =>
      rw [messageCount_cons] at level
      cases kind : ConsoleLine.ofText line with
      | message text =>
          cases stamps with
          | nil => simp [kind, ConsoleLine.isMessage] at level
          | cons stamp others =>
              simp only [kind, ConsoleLine.isMessage, List.length_cons, if_true,
                Nat.add_right_cancel_iff] at level
              simp only [List.cons_append, eventsOf, kind, ih level]
      | _ =>
          simp only [kind, ConsoleLine.isMessage, Bool.false_eq_true, if_false,
            Nat.add_zero] at level
          simp only [List.cons_append, eventsOf, kind, ih level]

theorem messageCount_append (first second : List String) :
    messageCount (first ++ second) = messageCount first + messageCount second :=
  List.countP_append

variable {console : Console}

/-- A line takes a stamp if it is read as a message, and adds its event to the queue if it has
one. -/
theorem takeLine_reads (console : Console) (line : String) :
    let next := console.takeLine (.ofText line)
    ∃ stamps : List Nat, stamps.length = messageCount [line] ∧
      next.terminal.typed = console.terminal.typed ++ stamps ∧ next.input = console.input ∧
      (console.session.stage = .running →
        next.queue = console.queue ++ eventsOf [line] stamps ∧
          next.isReading = console.isReading) := by
  intro next
  cases kind : ConsoleLine.ofText line with
  | message text =>
      refine ⟨[console.terminal.stamps + 1], ?_, ?_, ?_, fun running => ?_⟩
      · simp [messageCount, kind, ConsoleLine.isMessage]
      · simp only [next, kind, takeLine, terminal_enqueue]
        simp [terminal, SessionState.withDriver, SessionState.mapDriver, LoopState.mapDriver,
          Terminal.typed, Terminal.printStamped, Terminal.print, TerminalLine.typed?]
      · simp [next, kind, takeLine]
      · simp only [next, kind, takeLine]
        rw [enqueue_of_running (by exact running)]
        simp [eventsOf, kind, Terminal.printStamped]
  | event event =>
      refine ⟨[], ?_, ?_, ?_, fun running => ?_⟩
      · simp [messageCount, kind, ConsoleLine.isMessage]
      · simp [next, kind, takeLine]
      · simp [next, kind, takeLine]
      · simp [next, kind, takeLine, enqueue_of_running running, eventsOf]
  | _ =>
      refine ⟨[], ?_, ?_, ?_, fun running => ?_⟩
      · simp [messageCount, kind, ConsoleLine.isMessage]
      · simp [next, kind, takeLine]
      · simp [next, kind, takeLine]
      · simp [next, kind, takeLine, eventsOf]

/-- All that is offered to the loop when lines were read: that the bot is connected, the events of
the lines and, when there is nothing to be read any more, the request to terminate. -/
def offered (lines : List String) (stamps : List Nat) (isReading : Bool) : List Event :=
  .connected :: eventsOf lines stamps ++ if isReading then [] else [.termination]

theorem offered_append {lines : List String} {stamps : List Nat}
    (level : stamps.length = messageCount lines) (more : List String) (later : List Nat)
    (isReading : Bool) :
    offered (lines ++ more) (stamps ++ later) isReading =
      offered lines stamps true ++
        (eventsOf more later ++ if isReading then [] else [.termination]) := by
  simp [offered, eventsOf_append level]

/-! ## Receiving -/

/-- While the session runs, what was received and what waits in the queue are all that was offered.
Once an event has ended the loop, what was received is what a loop takes of it. -/
def InOrder (console : Console) (offers received : List Event) : Prop :=
  console.session.stage = .running ∧ Event.Quiet received ∧ received ++ console.queue = offers ∨
    (∃ ending, console.session.Ended ending) ∧ ¬ Event.Quiet received ∧
      received = Event.taken offers

namespace InOrder

variable {session : Session Terminal} {offers received : List Event}

theorem running_of_quiet (inOrder : console.InOrder offers received)
    (quiet : Event.Quiet received) : console.session.stage = .running := by
  rcases inOrder with ⟨running, -, -⟩ | ⟨-, loud, -⟩
  · exact running
  · exact absurd quiet loud

theorem eq_taken (inOrder : console.InOrder offers received) (empty : console.queue = []) :
    received = Event.taken offers := by
  rcases inOrder with ⟨-, quiet, rfl⟩ | ⟨-, -, taken⟩
  · rw [empty, List.append_nil, Event.taken_of_quiet quiet]
  · exact taken

theorem prefix_taken (inOrder : console.InOrder offers received) :
    received <+: Event.taken offers := by
  rcases inOrder with ⟨-, quiet, rfl⟩ | ⟨-, -, taken⟩
  · rw [Event.taken_append_of_quiet quiet]
    exact List.prefix_append _ _
  · exact taken ▸ List.prefix_rfl

/-- What is offered later waits in the queue, or comes too late. -/
theorem offer (inOrder : console.InOrder offers received) {next : Console} {driver : Terminal}
    (more : List Event) (session_eq : next.session = console.session.withDriver driver)
    (queue_eq : console.session.stage = .running → next.queue = console.queue ++ more) :
    next.InOrder (offers ++ more) received := by
  rcases inOrder with ⟨running, quiet, rfl⟩ | ⟨⟨ending, ended⟩, loud, taken⟩
  · left
    rw [session_eq, queue_eq running, List.append_assoc]
    exact ⟨running, quiet, rfl⟩
  · right
    rw [session_eq, Event.taken_append_of_not_quiet, ← taken]
    · exact ⟨⟨ending, ended.ending, ended.idle⟩, loud, rfl⟩
    · rwa [← Event.quiet_taken, ← taken]

theorem wait (inOrder : console.InOrder offers received) (milliseconds : Nat) :
    (console.take session (.wait milliseconds)).InOrder offers received := by
  rcases inOrder with ⟨running, quiet, offers_eq⟩ | ⟨⟨ending, ended⟩, loud, taken⟩
  · have still : (session.take console.session (.advance milliseconds)).1.stage = .running :=
      session.take_running running Event.quiet_nil
    exact Or.inl ⟨still, quiet, offers_eq⟩
  · exact Or.inr ⟨⟨ending, (session.take_ended ended (.advance milliseconds)).1⟩, loud, taken⟩

theorem handle (inOrder : console.InOrder offers received) :
    (console.handle session).InOrder offers (received ++ console.receives .handle) := by
  rcases inOrder with ⟨running, quiet, rfl⟩ | ⟨⟨ending, ended⟩, loud, taken⟩
  · rw [receives_of_running running]
    cases queue : console.queue with
    | nil =>
        rw [handle_of_nil queue, List.take_nil, List.append_nil]
        exact Or.inl ⟨running, quiet, by rw [queue, List.append_nil]⟩
    | cons event rest =>
        have handled := session_handle_of_cons session queue
        cases ends : event.ending? with
        | none =>
            have quietEvent : Event.Quiet [event] := by simp [Event.Quiet, ends]
            have still : (session.take console.session (.events [event])).1.stage = .running :=
              session.take_running running quietEvent
            refine Or.inl ⟨handled ▸ still, Event.quiet_append.mpr ⟨quiet, quietEvent⟩, ?_⟩
            simp [Console.handle, queue]
        | some ending =>
            have ended := session.deliver_ended running Event.quiet_nil ends []
            refine Or.inr ⟨⟨ending, handled ▸ ended⟩, ?_, ?_⟩
            · simp [Event.quiet_append, Event.quiet_cons, ends]
            · rw [Event.taken_append_of_quiet quiet, Event.taken_cons_of_ends ends]
              rfl
  · rw [receives_of_not_running ended.not_running, List.append_nil]
    refine Or.inr ⟨?_, loud, taken⟩
    cases queue : console.queue with
    | nil =>
        rw [handle_of_nil queue]
        exact ⟨ending, ended⟩
    | cons event rest =>
        rw [session_handle_of_cons session queue]
        exact ⟨ending, (session.take_ended ended (.events [event])).1⟩

end InOrder

/-! ## Reading -/

@[simp]
theorem input_handle (session : Session Terminal) (console : Console) :
    (console.handle session).input = console.input := by
  unfold handle
  split <;> rfl

@[simp]
theorem isReading_handle (session : Session Terminal) (console : Console) :
    (console.handle session).isReading = console.isReading := by
  unfold handle
  split <;> rfl

/-- How far a console has come with an input: the lines have been read in so many turns of the
reader, and the events have been received of those that were offered. -/
structure Reads (console : Console) (input lines : List String) (turns : Nat)
    (received : List Event) : Prop where
  input : input = lines ++ console.input
  stamped : console.terminal.typed.length = messageCount lines
  paced : console.isReading = true → lines.length = turns
  finished : console.isReading = false → console.input = [] ∨ ¬ Event.Quiet received
  inOrder : console.InOrder (offered lines console.terminal.typed console.isReading) received

theorem reads_start (bot : Bot) (input : List String) :
    (start bot input).Reads input [] 0 [] where
  input := rfl
  stamped := rfl
  paced _ := rfl
  finished reading := by cases reading
  inOrder := Or.inl ⟨rfl, Event.quiet_nil, rfl⟩

namespace Reads

variable {session : Session Terminal} {input lines : List String} {turns : Nat}
  {received : List Event}

theorem read_line (reads : console.Reads input lines turns received)
    (reading : console.isReading = true) {line : String} {rest : List String}
    (next : console.input = line :: rest) :
    console.read.Reads input (lines ++ [line]) (turns + 1) received := by
  obtain ⟨stamps, level, typed, input_eq, offers⟩ :=
    takeLine_reads { console with input := rest } line
  rw [← read_of_line reading next] at typed input_eq offers
  have typed_eq : console.read.terminal.typed = console.terminal.typed ++ stamps := typed
  have before := reads.inOrder
  rw [reading] at before
  constructor
  · rw [input_eq, reads.input, next, List.append_assoc]
    rfl
  · rw [typed_eq, List.length_append, messageCount_append, level, reads.stamped]
  · intro _
    rw [List.length_append, reads.paced reading]
    rfl
  · intro done
    right
    intro quiet
    rw [(offers (before.running_of_quiet quiet)).2, reading] at done
    cases done
  · rw [typed_eq, offered_append reads.stamped]
    apply before.offer _ console.session_read.1
    intro running
    obtain ⟨queue_eq, still⟩ := offers running
    rw [queue_eq, still]
    simp [reading]

theorem read_end (reads : console.Reads input lines turns received)
    (reading : console.isReading = true) (last : console.input = []) :
    console.read.Reads input lines (turns + 1) received := by
  have read_eq := read_of_end reading last
  have before := reads.inOrder
  rw [reading] at before
  have typed_eq : console.read.terminal.typed = console.terminal.typed := by
    rw [read_eq]
    exact congrArg Terminal.typed (console.terminal_enqueue .termination)
  have input_eq : console.read.input = [] := by
    rw [read_eq]
    exact (console.input_enqueue .termination).trans last
  have done : console.read.isReading = false := by rw [read_eq]
  refine ⟨?_, ?_, ?_, fun _ => Or.inl input_eq, ?_⟩
  · rw [input_eq, reads.input, last]
  · rw [typed_eq, reads.stamped]
  · intro still
    rw [done] at still
    cases still
  · have whole := offered_append reads.stamped [] [] false
    rw [List.append_nil, List.append_nil] at whole
    rw [typed_eq, done, whole]
    apply before.offer _ console.session_read.1
    intro running
    rw [read_eq, enqueue_of_running running]
    rfl

theorem read (reads : console.Reads input lines turns received) :
    ∃ lines, console.read.Reads input lines (turns + 1) received := by
  cases reading : console.isReading with
  | true =>
      cases next : console.input with
      | nil => exact ⟨lines, reads.read_end reading next⟩
      | cons line rest => exact ⟨lines ++ [line], reads.read_line reading next⟩
  | false =>
      have still : console.read = console := by simp [Console.read, reading]
      rw [still]
      refine ⟨lines, reads.input, reads.stamped, ?_, reads.finished, reads.inOrder⟩
      intro wrong
      rw [reading] at wrong
      cases wrong

/-- A turn in which nothing is read leaves the reader where it is. -/
theorem aside (reads : console.Reads input lines turns received) {next : Console}
    {more : List Event} (input_eq : next.input = console.input)
    (isReading_eq : next.isReading = console.isReading)
    (typed_eq : next.terminal.typed = console.terminal.typed)
    (inOrder : next.InOrder (offered lines console.terminal.typed console.isReading)
      (received ++ more)) :
    next.Reads input lines turns (received ++ more) := by
  refine ⟨?_, ?_, ?_, ?_, ?_⟩
  · rw [input_eq]
    exact reads.input
  · rw [typed_eq]
    exact reads.stamped
  · rw [isReading_eq]
    exact reads.paced
  · intro done
    rw [isReading_eq] at done
    rw [input_eq]
    exact (reads.finished done).imp_right fun loud quiet => loud (Event.quiet_append.mp quiet).1
  · rw [typed_eq, isReading_eq]
    exact inOrder

variable (shown : session.platform = Terminal.driver)
include shown

theorem take (reads : console.Reads input lines turns received) {made : List MadeCall}
    (counted : console.Counted made) (turn : ConsoleTurn) :
    ∃ lines, (console.take session turn).Reads input lines (turns + [turn].count .read)
      (received ++ console.receives turn) := by
  cases turn with
  | read =>
      have after := reads.read
      rwa [← List.append_nil received] at after
  | handle =>
      have typed_eq := (answers_handle shown counted.ledger.1).typed
      exact ⟨lines, reads.aside (input_handle session console) (isReading_handle session console)
        typed_eq reads.inOrder.handle⟩
  | wait milliseconds =>
      have typed_eq := (answers_wait shown console milliseconds).typed
      have inOrder : (console.take session (.wait milliseconds)).InOrder _ received :=
        reads.inOrder.wait milliseconds
      rw [← List.append_nil received] at inOrder
      exact ⟨lines, reads.aside rfl rfl typed_eq inOrder⟩

/-- However the turns follow each other, the loop receives the events of the lines in the order of
the input. -/
theorem takeAll (reads : console.Reads input lines turns received) {made : List MadeCall}
    (counted : console.Counted made) (more : List ConsoleTurn) :
    ∃ lines, (console.takeAll session more).Reads input lines (turns + more.count .read)
      (received ++ console.received session more) := by
  induction more generalizing console lines turns received made with
  | nil => exact ⟨lines, by simpa [Console.takeAll, Console.received] using reads⟩
  | cons turn rest ih =>
      obtain ⟨next, after⟩ := reads.take shown counted turn
      obtain ⟨last, later⟩ := ih after (counted.take shown turn)
      refine ⟨last, ?_⟩
      rwa [List.append_assoc, Nat.add_assoc, ← List.count_append] at later

end Reads

end Console

end ChatBot
