import ChatBot.Proofs.Loop.Dispatched

/-!
# What ends a loop

Whether an event ends the loop, and how, depends on the event alone: no state of the
loop, no failing call and no failing look-up has a part in it.  A loop takes events one
by one up to the first that ends it, and takes none after that.
-/

namespace ChatBot

variable {δ : Type}

namespace Event

/-- How an event ends the loop that takes it, if it does. -/
def ending? : Event → Option Ending
  | invalidCredentials => some .invalidCredentials
  | termination => some .terminated
  | _ => none

/-- None of the events ends a loop. -/
def Quiet (events : List Event) : Prop :=
  ∀ event ∈ events, event.ending? = none

instance (events : List Event) : Decidable (Quiet events) :=
  inferInstanceAs (Decidable (∀ event ∈ events, event.ending? = none))

/-- The events that a loop takes of those it is sent: all up to the first that ends it. -/
def taken : List Event → List Event
  | [] => []
  | event :: rest => if event.ending?.isSome then [event] else event :: taken rest

theorem quiet_nil : Quiet [] := by
  simp [Quiet]

theorem quiet_append {first second : List Event} :
    Quiet (first ++ second) ↔ Quiet first ∧ Quiet second := by
  simp [Quiet, or_imp, forall_and]

theorem quiet_cons {event : Event} {rest : List Event} :
    Quiet (event :: rest) ↔ event.ending? = none ∧ Quiet rest := by
  simp [Quiet]

theorem taken_append_of_quiet {first : List Event} (quiet : Quiet first)
    (second : List Event) : taken (first ++ second) = first ++ taken second := by
  induction first with
  | nil => rfl
  | cons event rest ih =>
      obtain ⟨goesOn, later⟩ := quiet_cons.mp quiet
      simp [taken, goesOn, ih later]

theorem taken_of_quiet {events : List Event} (quiet : Quiet events) : taken events = events := by
  have whole := taken_append_of_quiet quiet []
  simpa [taken] using whole

theorem taken_cons_of_ends {event : Event} {ending : Ending}
    (ends : event.ending? = some ending) (rest : List Event) : taken (event :: rest) = [event] := by
  simp [taken, ends]

/-- What comes after an event that ends the loop is not taken. -/
theorem taken_append_of_ends {early : List Event} {event : Event} {ending : Ending}
    (quiet : Quiet early) (ends : event.ending? = some ending) (late more : List Event) :
    taken (early ++ event :: late ++ more) = taken (early ++ event :: late) := by
  rw [List.append_assoc, taken_append_of_quiet quiet, taken_append_of_quiet quiet,
    List.cons_append, taken_cons_of_ends ends, taken_cons_of_ends ends]

/-- Events either never end a loop, or some first one does. -/
theorem quiet_or_ends (events : List Event) :
    Quiet events ∨ ∃ early event late ending, events = early ++ event :: late ∧ Quiet early ∧
      event.ending? = some ending := by
  induction events with
  | nil => exact Or.inl quiet_nil
  | cons event rest ih =>
      cases ends : event.ending? with
      | some ending => exact Or.inr ⟨[], event, rest, ending, rfl, quiet_nil, ends⟩
      | none =>
          rcases ih with quiet | ⟨early, last, late, ending, rfl, quiet, ends'⟩
          · exact Or.inl (quiet_cons.mpr ⟨ends, quiet⟩)
          · exact Or.inr ⟨event :: early, last, late, ending, rfl,
              quiet_cons.mpr ⟨ends, quiet⟩, ends'⟩

theorem quiet_taken {events : List Event} : Quiet (taken events) ↔ Quiet events := by
  rcases quiet_or_ends events with quiet | ⟨early, event, late, ending, rfl, quiet, ends⟩
  · rw [taken_of_quiet quiet]
  · rw [taken_append_of_quiet quiet, taken_cons_of_ends ends]
    simp [quiet_append, quiet_cons, ends]

/-- After an event that ends the loop nothing is taken. -/
theorem taken_append_of_not_quiet {events : List Event} (loud : ¬ Quiet events)
    (more : List Event) : taken (events ++ more) = taken events := by
  obtain ⟨early, event, late, ending, rfl, quiet, ends⟩ := (quiet_or_ends events).resolve_left loud
  exact taken_append_of_ends quiet ends late more

end Event

namespace EventLoop

variable (loop : EventLoop δ)

/-- Whatever the state, an event ends the loop in its own way or not at all. -/
theorem handle_ending (state : LoopState δ) (event : Event) :
    (loop.handle state event).2.2 = event.ending? := by
  cases event <;> rfl

theorem handle_terminated (state : LoopState δ) {event : Event} {ending : Ending}
    (ends : event.ending? = some ending) : (loop.handle state event).1.phase = .terminated := by
  cases event <;> simp_all [Event.ending?, handle]

theorem takeAll_append {first : List Event} (quiet : Event.Quiet first) (state : LoopState δ)
    (second : List Event) :
    loop.takeAll state (first ++ second) =
      ((loop.takeAll (loop.takeAll state first).1 second).1,
        (loop.takeAll state first).2.1 ++
          (loop.takeAll (loop.takeAll state first).1 second).2.1,
        (loop.takeAll (loop.takeAll state first).1 second).2.2) := by
  induction first generalizing state with
  | nil => rfl
  | cons event rest ih =>
      obtain ⟨goesOn, later⟩ := Event.quiet_cons.mp quiet
      have ends := (loop.handle_ending state event).trans goesOn
      rw [List.cons_append, loop.takeAll_cons_of_none ends, loop.takeAll_cons_of_none ends,
        ih later, List.append_assoc]

theorem takeAll_quiet {events : List Event} (quiet : Event.Quiet events)
    (state : LoopState δ) : (loop.takeAll state events).2.2 = none := by
  induction events generalizing state with
  | nil => rfl
  | cons event rest ih =>
      obtain ⟨goesOn, later⟩ := Event.quiet_cons.mp quiet
      rw [loop.takeAll_cons_of_none ((loop.handle_ending state event).trans goesOn)]
      exact ih later _

theorem takeAll_singleton (state : LoopState δ) (event : Event) :
    loop.takeAll state [event] = loop.handle state event := by
  cases ends : (loop.handle state event).2.2 with
  | some ending => exact loop.takeAll_cons_of_some ends []
  | none =>
      rw [loop.takeAll_cons_of_none ends, takeAll, List.append_nil, ← ends]

theorem takeAll_cons_of_ends (state : LoopState δ) {event : Event} {ending : Ending}
    (ends : event.ending? = some ending) (late : List Event) :
    loop.takeAll state (event :: late) = loop.handle state event :=
  loop.takeAll_cons_of_some ((loop.handle_ending state event).trans ends) late

end EventLoop

end ChatBot
