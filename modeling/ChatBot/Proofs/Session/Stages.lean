import ChatBot.Proofs.Session.Course

/-!
# From stage to stage

A session is running until its loop ends.  Then it is stopped at once or waits for the runs in
progress, and while it waits events queue up in its channel.  The equations here say what each
kind of step comes to, in terms of what is done in a stage and what leads to the next.
-/

namespace ChatBot

variable {δ : Type}

namespace SessionState

/-- Stops a session when the time has come for which it waits. -/
def arrive (state : SessionState δ) : SessionState δ × List Moment :=
  match state.stage with
  | .stopping ending stopTime _ =>
    if stopTime ≤ state.now then state.finish ending else (state, [])
  | .running | .stopped _ => (state, [])

/-- In a session that is stopped nothing queues up. -/
theorem enqueue_of_isStopped {state : SessionState δ} (stopped : state.isStopped = true)
    (count : Nat) : (state.enqueue count).1 = state ∧ (state.enqueue count).2.1 = [] := by
  cases stage : state.stage with
  | stopped ending => simp [enqueue, stage]
  | running => simp [isStopped, stage] at stopped
  | stopping ending stopTime waiting => simp [isStopped, stage] at stopped

end SessionState

namespace Session

variable (session : Session δ) (state : SessionState δ)

/-- When time passes, the runs that start by then are made, and a session stops when the time
has come for which it waits. -/
theorem advance_eq (milliseconds : Nat) :
    let limit := state.now + milliseconds
    let made := PlannedRun.makeAll session.platform (state.scheduler.runsUpTo limit)
      state.loop.desk.driver
    let passed := { state.withDriver made.1 with scheduler := state.scheduler.after limit }
    session.advance state milliseconds = (passed.arrive.1, made.2 ++ passed.arrive.2) := by
  cases stage : state.stage with
  | running =>
      simp [advance, Scheduler.advance, SessionState.arrive, SessionState.withDriver,
        SessionState.mapDriver, stage]
  | stopped ending =>
      simp [advance, Scheduler.advance, SessionState.arrive, SessionState.withDriver,
        SessionState.mapDriver, stage]
  | stopping ending stopTime waiting =>
      simp only [advance, Scheduler.advance, SessionState.arrive, SessionState.withDriver,
        SessionState.mapDriver, stage]
      split
      · rfl
      · simp

variable {state} {events : List Event}

theorem deliver_of_no_ending (running : state.stage = .running)
    (goesOn : (session.loop.takeAll state.loop events).2.2 = none) :
    let looped := session.loop.takeAll state.loop events
    (session.deliver state events).1 = { state with loop := looped.1 } ∧
      (session.deliver state events).2.1 = Moment.allAt state.now looped.2.1 := by
  cases taken : session.loop.takeAll state.loop events with
  | mk loop made =>
      obtain ⟨entries, last⟩ := made
      rw [taken] at goesOn
      subst goesOn
      simp [deliver, running, taken]

/-- When the loop ends, the session is stopped, and the events that come after the one that has
ended the loop queue up if it has to wait. -/
theorem deliver_of_ending (running : state.stage = .running) {ending : Ending}
    (ends : (session.loop.takeAll state.loop events).2.2 = some ending) :
    let looped := session.loop.takeAll state.loop events
    let stopped := SessionState.stop { state with loop := looped.1 } ending
    let queued := stopped.1.enqueue (Event.afterEnding events)
    (session.deliver state events).1 = queued.1 ∧
      (session.deliver state events).2.1 =
        Moment.allAt state.now looped.2.1 ++ stopped.2 ++ queued.2.1 := by
  intro looped stopped queued
  have unfolded : session.deliver state events =
      if stopped.1.isStopped && Event.overflow events then
        (stopped.1, Moment.allAt state.now looped.2.1 ++ stopped.2, .closed)
      else
        (queued.1, Moment.allAt state.now looped.2.1 ++ stopped.2 ++ queued.2.1, queued.2.2) := by
    simp only [deliver, running, ends]
    rfl
  rw [unfolded]
  split
  · next closed =>
      obtain ⟨state_eq, silent⟩ := SessionState.enqueue_of_isStopped
        (Bool.and_eq_true_iff.mp closed).1 (Event.afterEnding events)
      exact ⟨state_eq.symm, by rw [silent, List.append_nil]⟩
  · exact ⟨rfl, rfl⟩

end Session

end ChatBot
