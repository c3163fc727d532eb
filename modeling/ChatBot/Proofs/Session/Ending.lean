import ChatBot.Platform.Memory
import ChatBot.Platform.Scripted
import ChatBot.Proofs.Session.Course

/-!
# How a session ends

A session ends with the first event that ends its loop, whatever has failed before, and
what is sent after that event makes no difference.  Without such an event every event
is handled, and the session ends when the source of events is closed.
-/

namespace ChatBot

variable {δ : Type}

namespace SessionState

variable {state : SessionState δ} {ending : Ending}

/-- Closing a session makes no calls and leaves its loop alone. -/
theorem close_aside (state : SessionState δ) :
    state.close.1.loop = state.loop ∧ Moment.calls state.close.2 = [] := by
  cases stage : state.stage with
  | stopped last => simp [SessionState.close, stage]
  | stopping last stopTime waiting => simp [close, stage, atTime]
  | running =>
      have nothing := state.calls_stop .sourceClosed
      simp only [close, stage]
      split
      · refine ⟨state.loop_stop .sourceClosed, ?_⟩
        rw [Moment.calls_append, calls_finish, List.append_nil]
        exact nothing
      · exact ⟨state.loop_stop .sourceClosed, nothing⟩
      · exact ⟨state.loop_stop .sourceClosed, nothing⟩

theorem Ended.close (ended : state.Ended ending) :
    state.close.1.stage = .stopped ending := by
  have ending_eq := ended.ending
  cases stage : state.stage with
  | running => exact absurd stage ended.not_running
  | stopped last =>
      obtain rfl : last = ending := by simpa [ending?, stage] using ending_eq
      simp [SessionState.close, stage]
  | stopping last stopTime waiting =>
      obtain rfl : last = ending := by simpa [ending?, stage] using ending_eq
      simp [SessionState.close, stage, finish]

theorem close_running (running : state.stage = .running) :
    state.close.1.stage = .stopped .sourceClosed := by
  have ended := state.ended_stop .sourceClosed
  have ending_eq := ended.ending
  cases stage : (state.stop .sourceClosed).1.stage with
  | running => exact absurd stage ended.not_running
  | stopped last =>
      obtain rfl : last = .sourceClosed := by simpa [ending?, stage] using ending_eq
      simp [close, running, stage]
  | stopping last stopTime waiting =>
      obtain rfl : last = .sourceClosed := by simpa [ending?, stage] using ending_eq
      simp [close, running, stage, finish]

end SessionState

namespace Session

variable (session : Session δ)

/-- A whole session: takes steps, and then closes the source of events. -/
def run (state : SessionState δ) (steps : List (SessionStep δ)) :
    SessionState δ × List Moment :=
  let (state, moments) := session.takeAll state steps
  let (state, last) := state.close
  (state, moments ++ last)

variable {state : SessionState δ} {ending : Ending}

theorem run_eq (state : SessionState δ) (steps : List (SessionStep δ)) :
    (session.run state steps).1 = (session.takeAll state steps).1.close.1 ∧
      (session.run state steps).1.loop = (session.takeAll state steps).1.loop ∧
      Moment.calls (session.run state steps).2 =
        Moment.calls (session.takeAll state steps).2 := by
  obtain ⟨same, nothing⟩ := (session.takeAll state steps).1.close_aside
  exact ⟨rfl, same, by simp [run, nothing]⟩

/-- An event that ends the loop decides what becomes of the session: what comes after it
is without effect on the calls and, but for the platform, on the loop. -/
theorem run_of_ends (running : state.stage = .running) {before : List (SessionStep δ)}
    {early : List Event} {event : Event}
    (quiet : Event.Quiet (SessionStep.allSent before ++ early))
    (ends : event.ending? = some ending) (late : List Event) (after : List (SessionStep δ)) :
    let looped := session.loop.takeAll (session.takeAll state before).1.loop (early ++ [event])
    let whole := session.run state (before ++ .events (early ++ event :: late) :: after)
    (∃ change : δ → δ, whole.1.loop = looped.1.mapDriver change) ∧
      Moment.calls whole.2 =
        Moment.calls (session.takeAll state before).2 ++ callsOf looped.2.1 ∧
      whole.1.stage = .stopped ending := by
  obtain ⟨quietBefore, quietEarly⟩ := Event.quiet_append.mp quiet
  have still := session.takeAll_running running quietBefore
  have looped_eq : session.loop.takeAll (session.takeAll state before).1.loop
      (early ++ event :: late) =
      session.loop.takeAll (session.takeAll state before).1.loop (early ++ [event]) := by
    rw [session.loop.takeAll_append quietEarly, session.loop.takeAll_append quietEarly,
      session.loop.takeAll_cons_of_ends _ ends, session.loop.takeAll_cons_of_ends _ ends]
  obtain ⟨loop_eq, calls_eq⟩ := session.deliver_loop still (early ++ event :: late)
  rw [looped_eq] at loop_eq calls_eq
  have ended := session.deliver_ended still quietEarly ends late
  obtain ⟨last, ⟨⟨change, aside⟩, -⟩, nothing⟩ := session.takeAll_ended ended after
  obtain ⟨state_eq, kept, made⟩ := session.run_eq state
    (before ++ .events (early ++ event :: late) :: after)
  have whole_eq := session.takeAll_append state before
    (.events (early ++ event :: late) :: after)
  rw [takeAll_cons] at whole_eq
  refine ⟨⟨change, ?_⟩, ?_, ?_⟩
  · rw [kept, whole_eq, ← loop_eq]
    exact aside
  · rw [made, whole_eq, ← calls_eq, Moment.calls_append, Moment.calls_append]
    simp only [take] at nothing ⊢
    rw [nothing, List.append_nil]
  · rw [state_eq, whole_eq]
    exact last.close

/-- An event that nothing has ended the loop before is handled in the state to which the
session has come. -/
theorem takeAll_handles (running : state.stage = .running) {before : List (SessionStep δ)}
    {early : List Event} (quiet : Event.Quiet (SessionStep.allSent before ++ early))
    (event : Event) :
    let earlier := session.takeAll state (before ++ [.events early])
    let next := session.takeAll state (before ++ [.events (early ++ [event])])
    next.1.loop = (session.loop.handle earlier.1.loop event).1 ∧
      Moment.calls next.2 =
        Moment.calls earlier.2 ++ callsOf (session.loop.handle earlier.1.loop event).2.1 := by
  obtain ⟨quietBefore, quietEarly⟩ := Event.quiet_append.mp quiet
  have still := session.takeAll_running running quietBefore
  have taken := fun events => session.deliver_loop still events
  have split := session.loop.takeAll_append quietEarly (session.takeAll state before).1.loop
    [event]
  rw [session.loop.takeAll_singleton] at split
  simp only [takeAll_append, take, takeAll, List.append_nil, Moment.calls_append]
  rw [(taken early).1, (taken early).2, (taken (early ++ [event])).1,
    (taken (early ++ [event])).2, split]
  simp

/-- The first event that ends the loop ends the session, in its own way, whatever failed
before: the calls, the cache, the known users and the identity are those of a session to
which nothing is sent after that event.  As long as there is no such event, each event is
handled, and a session without one ends when its source of events is closed. -/
theorem run_endings (session : Session δ) (responses users : Nat) (driver : δ)
    (scheduler : Scheduler) :
    let start : SessionState δ := .initial responses users driver scheduler
    (∀ before early event late after ending,
      Event.Quiet (SessionStep.allSent before ++ early) → event.ending? = some ending →
        let whole := session.run start (before ++ .events (early ++ event :: late) :: after)
        let part := session.run start (before ++ [.events (early ++ [event])])
        Moment.calls whole.2 = Moment.calls part.2 ∧
          whole.1.loop.desk.replies = part.1.loop.desk.replies ∧
          whole.1.loop.desk.users = part.1.loop.desk.users ∧
          whole.1.loop.identity = part.1.loop.identity ∧
          whole.1.loop.phase = .terminated ∧ whole.1.stage = .stopped ending) ∧
    (∀ before early event, Event.Quiet (SessionStep.allSent before ++ early) →
      let earlier := session.takeAll start (before ++ [.events early])
      let next := session.takeAll start (before ++ [.events (early ++ [event])])
      next.1.loop = (session.loop.handle earlier.1.loop event).1 ∧
        Moment.calls next.2 =
          Moment.calls earlier.2 ++ callsOf (session.loop.handle earlier.1.loop event).2.1) ∧
    ∀ steps, Event.Quiet (SessionStep.allSent steps) →
      (session.run start steps).1.stage = .stopped .sourceClosed := by
  have running : (SessionState.initial responses users driver scheduler).stage = .running := rfl
  refine ⟨?_, fun before early event quiet =>
    session.takeAll_handles running quiet event, ?_⟩
  · intro before early event late after ending quiet ends
    obtain ⟨⟨change, whole⟩, wholeCalls, wholeStage⟩ :=
      session.run_of_ends running quiet ends late after
    obtain ⟨⟨change', part⟩, partCalls, -⟩ :=
      session.run_of_ends running quiet ends [] []
    have terminated : (session.loop.takeAll (session.takeAll
        (.initial responses users driver scheduler) before).1.loop
        (early ++ [event])).1.phase = .terminated := by
      rw [session.loop.takeAll_append (Event.quiet_append.mp quiet).2,
        session.loop.takeAll_singleton]
      exact session.loop.handle_terminated _ ends
    refine ⟨wholeCalls.trans partCalls.symm, ?_, ?_, ?_, ?_, wholeStage⟩
    · rw [whole, part]
      rfl
    · rw [whole, part]
      rfl
    · rw [whole, part]
      rfl
    · rw [whole]
      exact terminated
  · intro steps quiet
    rw [(session.run_eq _ steps).1]
    exact SessionState.close_running (session.takeAll_running running quiet)

/-- A session whose first post fails, and which is sent two events that end it. -/
theorem run_endings_echo :
    let session : Session (Scripted MemoryPlatform) :=
      ⟨.echo (Scripted.driver [] MemoryPlatform.driver)⟩
    let start : SessionState (Scripted MemoryPlatform) :=
      .initial 8 8 ⟨[some .notConnected], .empty⟩ (Scheduler.start 0 [])
    let posted := Event.message (.posted ⟨"general", "ann", "one", ⟨"1.0"⟩⟩)
    let whole := session.run start [.events [.connected, posted, .transportError 5 "lost"],
      .events [posted, .invalidCredentials, posted, .termination], .advance 5, .events [posted]]
    let part := session.run start [.events [.connected, posted, .transportError 5 "lost"],
      .events [posted, .invalidCredentials]]
    (Moment.calls part.2).length = 2 ∧ Moment.calls whole.2 = Moment.calls part.2 ∧
      whole.1.stage = .stopped .invalidCredentials := by
  intro session start posted whole part
  have endings := (session.run_endings 8 8 ⟨[some .notConnected], .empty⟩
    (Scheduler.start 0 [])).1 [.events [.connected, posted, .transportError 5 "lost"]] [posted]
    .invalidCredentials [posted, .termination] [.advance 5, .events [posted]]
    .invalidCredentials (by simp [posted, Event.Quiet, SessionStep.sent, Event.ending?]) rfl
  exact ⟨by decide +kernel, endings.1, endings.2.2.2.2.2⟩

end Session

end ChatBot
