import ChatBot.Proofs.Loop.Endings
import ChatBot.Proofs.Session.Maintained

/-!
# The course of a session

The loop of a session takes the events that are sent to it one by one, up to the first
that ends it.  In between only scheduled actions post.  So every call is made either in
the course of an event or by a scheduled action, and whatever the loop keeps true of its
state, of the events that it has taken and of the calls so far, the session keeps true.
Once the loop has ended, the session makes no calls any more.
-/

namespace ChatBot

/-- A call with the event in the course of which it was made; none when a scheduled
action made it. -/
abbrev TracedCall := Option Event × MadeCall

/-- The calls among the entries that were made in the course of an event. -/
def TracedCall.ofEntries (event : Event) (entries : List Entry) : List TracedCall :=
  (callsOf entries).map (some event, ·)

/-- Calls that scheduled actions made. -/
def TracedCall.ofSchedule (calls : List MadeCall) : List TracedCall :=
  calls.map (none, ·)

variable {δ : Type}

namespace SessionStep

/-- The events that a step sends. -/
def sent : SessionStep δ → List Event
  | .events sent => sent
  | .advance _ | .adjust _ => []

/-- The events that steps send, in order. -/
def allSent (steps : List (SessionStep δ)) : List Event :=
  steps.flatMap sent

@[simp]
theorem allSent_nil : allSent ([] : List (SessionStep δ)) = [] :=
  rfl

@[simp]
theorem allSent_cons (step : SessionStep δ) (rest : List (SessionStep δ)) :
    allSent (step :: rest) = step.sent ++ allSent rest :=
  List.flatMap_cons

end SessionStep

/-! ## Calls and what they were made for -/

/-- The calls of a loop, each with its event. -/
def EventLoop.traced (loop : EventLoop δ) (state : LoopState δ) : List Event → List TracedCall
  | [] => []
  | event :: rest =>
    TracedCall.ofEntries event (loop.handle state event).2.1 ++
      if (loop.handle state event).2.2.isSome then []
      else traced loop (loop.handle state event).1 rest

namespace Session

variable (session : Session δ)

/-- The calls of a step, each with its event. -/
def tracedStep (state : SessionState δ) : SessionStep δ → List TracedCall
  | .events events =>
    match state.stage with
    | .running => session.loop.traced state.loop events
    | .stopping _ _ _ | .stopped _ => []
  | .advance milliseconds =>
    TracedCall.ofSchedule (Moment.calls (session.advance state milliseconds).2)
  | .adjust _ => []

/-- The calls of steps, each with its event. -/
def traced (state : SessionState δ) : List (SessionStep δ) → List TracedCall
  | [] => []
  | step :: rest =>
    session.tracedStep state step ++ traced (session.take state step).1 rest

end Session

namespace EventLoop

variable (loop : EventLoop δ)

theorem traced_cons_of_ends (state : LoopState δ) {event : Event} {ending : Ending}
    (ends : event.ending? = some ending) (rest : List Event) :
    loop.traced state (event :: rest) =
      TracedCall.ofEntries event (loop.handle state event).2.1 := by
  simp [traced, loop.handle_ending, ends]

theorem traced_cons_of_none (state : LoopState δ) {event : Event}
    (goesOn : event.ending? = none) (rest : List Event) :
    loop.traced state (event :: rest) =
      TracedCall.ofEntries event (loop.handle state event).2.1 ++
        loop.traced (loop.handle state event).1 rest := by
  simp [traced, loop.handle_ending, goesOn]

theorem map_snd_traced (state : LoopState δ) (events : List Event) :
    (loop.traced state events).map Prod.snd = callsOf (loop.takeAll state events).2.1 := by
  induction events generalizing state with
  | nil => rfl
  | cons event rest ih =>
      cases ends : event.ending? with
      | some ending =>
          rw [loop.traced_cons_of_ends state ends, loop.takeAll_cons_of_ends state ends]
          simp [TracedCall.ofEntries, Function.comp_def]
      | none =>
          rw [loop.traced_cons_of_none state ends,
            loop.takeAll_cons_of_none ((loop.handle_ending state event).trans ends)]
          simp [TracedCall.ofEntries, Function.comp_def, ih]

end EventLoop

/-! ## Steps of a session that is running, and of one that has ended -/

namespace Scheduler

theorem runsUpTo_of_idle {scheduler : Scheduler} (idle : scheduler.tasks = []) (limit : Nat) :
    scheduler.runsUpTo limit = [] := by
  simp [runsUpTo, idle, PlannedRun.inOrder]

end Scheduler

/-- The loop of a session has ended, and no action is scheduled any more. -/
structure SessionState.Ended (state : SessionState δ) (ending : Ending) : Prop where
  ending : state.ending? = some ending
  idle : state.scheduler.tasks = []

namespace SessionState

variable {state : SessionState δ} {ending : Ending}

theorem Ended.not_running (ended : state.Ended ending) : state.stage ≠ .running := by
  intro running
  have none := ended.ending
  simp [ending?, running] at none

@[simp]
theorem loop_finish (state : SessionState δ) (ending : Ending) :
    (state.finish ending).1.loop = state.loop :=
  rfl

@[simp]
theorem calls_finish (state : SessionState δ) (ending : Ending) :
    Moment.calls (state.finish ending).2 = [] :=
  rfl

@[simp]
theorem loop_stop (state : SessionState δ) (ending : Ending) :
    (state.stop ending).1.loop = state.loop := by
  dsimp only [stop]
  split <;> rfl

@[simp]
theorem calls_stop (state : SessionState δ) (ending : Ending) :
    Moment.calls (state.stop ending).2 = [] := by
  dsimp only [stop]
  split <;> rfl

theorem ended_stop (state : SessionState δ) (ending : Ending) :
    (state.stop ending).1.Ended ending := by
  dsimp only [stop]
  split
  · exact ⟨rfl, rfl⟩
  · exact ⟨rfl, rfl⟩

@[simp]
theorem loop_enqueue (state : SessionState δ) (count : Nat) :
    (state.enqueue count).1.loop = state.loop := by
  unfold enqueue
  split
  · split <;> rfl
  · rfl
  · rfl

@[simp]
theorem calls_enqueue (state : SessionState δ) (count : Nat) :
    Moment.calls (state.enqueue count).2.1 = [] := by
  unfold enqueue
  split
  · split <;> rfl
  · rfl
  · rfl

theorem Ended.enqueue (ended : state.Ended ending) (count : Nat) :
    (state.enqueue count).1.Ended ending := by
  obtain ⟨ending_eq, idle⟩ := ended
  cases stage : state.stage with
  | running => simp [ending?, stage] at ending_eq
  | stopped last => simpa [SessionState.enqueue, stage] using Ended.mk ending_eq idle
  | stopping last stopTime waiting =>
      simp only [ending?, stage] at ending_eq
      by_cases room : waiting + count ≤ channelCapacity
      · simp only [SessionState.enqueue, stage, room, if_true]
        exact ⟨ending_eq, idle⟩
      · simp only [SessionState.enqueue, stage, room, if_false]
        exact ⟨ending_eq, idle⟩

end SessionState

namespace Session

variable (session : Session δ) {state : SessionState δ} {ending : Ending}

/-- While a session is running, what is sent to it is taken by its loop. -/
theorem deliver_loop (running : state.stage = .running) (events : List Event) :
    (session.deliver state events).1.loop = (session.loop.takeAll state.loop events).1 ∧
      Moment.calls (session.deliver state events).2.1 =
        callsOf (session.loop.takeAll state.loop events).2.1 := by
  cases taken : session.loop.takeAll state.loop events with
  | mk loop made =>
      obtain ⟨entries, last⟩ := made
      cases last with
      | none => simp [deliver, running, taken]
      | some ending =>
          simp only [deliver, running, taken]
          split <;> simp

/-- Events of which none ends the loop change nothing but the loop. -/
theorem deliver_quiet (running : state.stage = .running) {events : List Event}
    (quiet : Event.Quiet events) :
    (session.deliver state events).1 =
      { state with loop := (session.loop.takeAll state.loop events).1 } := by
  have goesOn := session.loop.takeAll_quiet quiet state.loop
  cases taken : session.loop.takeAll state.loop events with
  | mk loop made =>
      obtain ⟨entries, last⟩ := made
      rw [taken] at goesOn
      subst goesOn
      simp [deliver, running, taken]

theorem deliver_ended (running : state.stage = .running) {early : List Event} {event : Event}
    (quiet : Event.Quiet early) (ends : event.ending? = some ending) (late : List Event) :
    (session.deliver state (early ++ event :: late)).1.Ended ending := by
  have last_eq : (session.loop.takeAll state.loop (early ++ event :: late)).2.2 =
      some ending := by
    rw [session.loop.takeAll_append quiet, session.loop.takeAll_cons_of_ends _ ends,
      session.loop.handle_ending, ends]
  cases taken : session.loop.takeAll state.loop (early ++ event :: late) with
  | mk loop made =>
      obtain ⟨entries, last⟩ := made
      rw [taken] at last_eq
      subst last_eq
      simp only [deliver, running, taken]
      split
      · exact SessionState.ended_stop _ ending
      · exact (SessionState.ended_stop _ ending).enqueue _

theorem take_running (running : state.stage = .running) {step : SessionStep δ}
    (quiet : Event.Quiet step.sent) : (session.take state step).1.stage = .running := by
  cases step with
  | events events =>
      have goesOn : Event.Quiet events := quiet
      rw [take, session.deliver_quiet running goesOn]
      exact running
  | advance milliseconds => simp [take, advance, SessionState.withDriver, SessionState.mapDriver,
      running]
  | adjust change => simpa [take, SessionState.mapDriver] using running

/-- Once its loop has ended, a session makes no calls, and nothing happens to the loop but
what happens to the platform. -/
theorem take_ended (ended : state.Ended ending) (step : SessionStep δ) :
    (session.take state step).1.Ended ending ∧ PostsOnly state (session.take state step).1
      (session.take state step).2.1 ∧ Moment.calls (session.take state step).2.1 = [] := by
  obtain ⟨ending_eq, idle⟩ := ended
  cases step with
  | adjust change => exact ⟨⟨ending_eq, idle⟩, ⟨⟨change, rfl⟩, by simp [take]⟩, rfl⟩
  | advance milliseconds =>
      refine ⟨?_, PostsOnly.advance session state milliseconds, ?_⟩
      · cases stage : state.stage with
        | running => simp [SessionState.ending?, stage] at ending_eq
        | stopped last =>
            simp only [SessionState.ending?, stage] at ending_eq
            simp only [take, advance, SessionState.withDriver, SessionState.mapDriver, stage]
            exact ⟨ending_eq, by simp [Scheduler.advance, Scheduler.after, idle]⟩
        | stopping last stopTime waiting =>
            simp only [SessionState.ending?, stage] at ending_eq
            simp only [take, advance, SessionState.withDriver, SessionState.mapDriver, stage]
            split
            · exact ⟨ending_eq, by
                simp [SessionState.finish, Scheduler.advance, Scheduler.after, idle]⟩
            · exact ⟨ending_eq, by simp [Scheduler.advance, Scheduler.after, idle]⟩
      · simp only [take, advance, Scheduler.advance, Scheduler.runsUpTo_of_idle idle,
          PlannedRun.makeAll]
        split
        · rfl
        · rfl
        · split <;> rfl
  | events events =>
      cases stage : state.stage with
      | running => simp [SessionState.ending?, stage] at ending_eq
      | stopped last =>
          simp only [take, deliver, stage]
          exact ⟨⟨ending_eq, idle⟩, .refl state, rfl⟩
      | stopping last stopTime waiting =>
          simp only [take, deliver, stage]
          exact ⟨SessionState.Ended.enqueue ⟨ending_eq, idle⟩ _, .enqueue state _,
            SessionState.calls_enqueue state _⟩

/-- A session that is running goes on, unless one of the events that it is sent ends its
loop. -/
theorem take_quiet_or_ends (running : state.stage = .running) (step : SessionStep δ) :
    Event.Quiet step.sent ∧ (session.take state step).1.stage = .running ∨
      ∃ early event late ending, step.sent = early ++ event :: late ∧ Event.Quiet early ∧
        event.ending? = some ending ∧ (session.take state step).1.Ended ending := by
  rcases Event.quiet_or_ends step.sent with
    quiet | ⟨early, event, late, ending, sent_eq, quiet, ends⟩
  · exact Or.inl ⟨quiet, session.take_running running quiet⟩
  · refine Or.inr ⟨early, event, late, ending, sent_eq, quiet, ends, ?_⟩
    cases step with
    | events sent =>
        obtain rfl : sent = early ++ event :: late := sent_eq
        exact session.deliver_ended running quiet ends late
    | advance milliseconds => simp [SessionStep.sent] at sent_eq
    | adjust change => simp [SessionStep.sent] at sent_eq

theorem takeAll_cons (state : SessionState δ) (step : SessionStep δ)
    (rest : List (SessionStep δ)) :
    session.takeAll state (step :: rest) =
      ((session.takeAll (session.take state step).1 rest).1,
        (session.take state step).2.1 ++
          (session.takeAll (session.take state step).1 rest).2) :=
  rfl

theorem takeAll_append (state : SessionState δ) (first second : List (SessionStep δ)) :
    session.takeAll state (first ++ second) =
      ((session.takeAll (session.takeAll state first).1 second).1,
        (session.takeAll state first).2 ++
          (session.takeAll (session.takeAll state first).1 second).2) := by
  induction first generalizing state with
  | nil => rfl
  | cons step rest ih =>
      rw [List.cons_append, takeAll_cons, takeAll_cons, ih, List.append_assoc]

theorem takeAll_running (running : state.stage = .running) {steps : List (SessionStep δ)}
    (quiet : Event.Quiet (SessionStep.allSent steps)) :
    (session.takeAll state steps).1.stage = .running := by
  induction steps generalizing state with
  | nil => exact running
  | cons step rest ih =>
      rw [SessionStep.allSent_cons, Event.quiet_append] at quiet
      rw [takeAll_cons]
      exact ih (session.take_running running quiet.1) quiet.2

theorem takeAll_ended (ended : state.Ended ending) (steps : List (SessionStep δ)) :
    (session.takeAll state steps).1.Ended ending ∧
      PostsOnly state (session.takeAll state steps).1 (session.takeAll state steps).2 ∧
      Moment.calls (session.takeAll state steps).2 = [] := by
  induction steps generalizing state with
  | nil => exact ⟨ended, .refl state, rfl⟩
  | cons step rest ih =>
      obtain ⟨still, aside, nothing⟩ := session.take_ended ended step
      obtain ⟨last, asideLater, nothingLater⟩ := ih still
      rw [takeAll_cons]
      exact ⟨last, aside.trans asideLater, by rw [Moment.calls_append, nothing, nothingLater]; rfl⟩

theorem takeAll_running_or_ended (running : state.stage = .running)
    (steps : List (SessionStep δ)) :
    (session.takeAll state steps).1.stage = .running ∨
      ∃ ending, (session.takeAll state steps).1.Ended ending := by
  induction steps generalizing state with
  | nil => exact Or.inl running
  | cons step rest ih =>
      rw [takeAll_cons]
      rcases session.take_quiet_or_ends running step with
        ⟨-, still⟩ | ⟨-, -, -, ending, -, -, -, ended⟩
      · exact ih still
      · exact Or.inr ⟨ending, (session.takeAll_ended ended rest).1⟩

end Session

theorem Session.map_snd_traced (session : Session δ) (steps : List (SessionStep δ))
    (state : SessionState δ) :
    (session.traced state steps).map Prod.snd =
      Moment.calls (session.takeAll state steps).2 := by
  induction steps generalizing state with
  | nil => rfl
  | cons step rest ih =>
      have first : (session.tracedStep state step).map Prod.snd =
          Moment.calls (session.take state step).2.1 := by
        cases step with
        | adjust change => rfl
        | advance milliseconds =>
            simp [tracedStep, take, TracedCall.ofSchedule, Function.comp_def]
        | events events =>
            cases stage : state.stage with
            | running =>
                have made := (session.deliver_loop stage events).2
                simp [tracedStep, take, stage, session.loop.map_snd_traced, made]
            | stopping last stopTime waiting => simp [tracedStep, take, deliver, stage]
            | stopped last => simp [tracedStep, take, deliver, stage]
      rw [traced, takeAll_cons, List.map_append, first, ih, Moment.calls_append]

/-! ## What holds in the course of a session -/

/-- What a loop keeps true of its state, of the events that it has taken and of the calls
so far, whatever happens to the platform in between. -/
structure EventLoop.Keeps (loop : EventLoop δ)
    (holds : LoopState δ → List Event → List TracedCall → Prop) : Prop where
  handle : ∀ {state events calls}, Event.Quiet events → holds state events calls → ∀ event,
    holds (loop.handle state event).1 (events ++ [event])
      (calls ++ TracedCall.ofEntries event (loop.handle state event).2.1)
  aside : ∀ {state events calls}, holds state events calls → ∀ (change : δ → δ) scheduled,
    (∀ made ∈ scheduled, isScheduledSend made) →
      holds (state.mapDriver change) events (calls ++ TracedCall.ofSchedule scheduled)

namespace EventLoop.Keeps

variable {loop : EventLoop δ} {holds : LoopState δ → List Event → List TracedCall → Prop}

theorem takeAll (keeps : loop.Keeps holds) (more : List Event) {state : LoopState δ}
    {events : List Event} {calls : List TracedCall} (quiet : Event.Quiet events)
    (before : holds state events calls) :
    holds (loop.takeAll state more).1 (events ++ Event.taken more)
      (calls ++ loop.traced state more) := by
  induction more generalizing state events calls with
  | nil => simpa [EventLoop.takeAll, Event.taken, traced] using before
  | cons event rest ih =>
      have after := keeps.handle quiet before event
      cases ends : event.ending? with
      | some ending =>
          rw [loop.takeAll_cons_of_ends state ends, Event.taken_cons_of_ends ends,
            loop.traced_cons_of_ends state ends]
          exact after
      | none =>
          have still : Event.Quiet (events ++ [event]) :=
            Event.quiet_append.mpr ⟨quiet, Event.quiet_cons.mpr ⟨ends, Event.quiet_nil⟩⟩
          have later := ih still after
          rw [loop.takeAll_cons_of_none ((loop.handle_ending state event).trans ends),
            loop.traced_cons_of_none state ends]
          simpa [Event.taken, ends] using later

variable {session : Session δ}

theorem postsOnly (keeps : loop.Keeps holds) {state next : SessionState δ}
    {moments : List Moment} (posts : PostsOnly state next moments) {events : List Event}
    {calls : List TracedCall} (before : holds state.loop events calls) :
    holds next.loop events (calls ++ TracedCall.ofSchedule (Moment.calls moments)) := by
  obtain ⟨change, loop_eq⟩ := posts.loop
  rw [loop_eq]
  exact keeps.aside before change _ posts.scheduled

/-- What a loop keeps is kept through a session that has ended. -/
theorem session_ended (keeps : session.loop.Keeps holds) {state : SessionState δ}
    {ending : Ending} (ended : state.Ended ending) (steps : List (SessionStep δ))
    {events : List Event} {calls : List TracedCall} (before : holds state.loop events calls) :
    holds (session.takeAll state steps).1.loop events calls := by
  obtain ⟨-, aside, nothing⟩ := session.takeAll_ended ended steps
  have after := keeps.postsOnly aside before
  rw [nothing] at after
  simpa [TracedCall.ofSchedule] using after

end EventLoop.Keeps

theorem Session.traced_ended (session : Session δ) {state : SessionState δ} {ending : Ending}
    (ended : state.Ended ending) (steps : List (SessionStep δ)) :
    session.traced state steps = [] := by
  induction steps generalizing state with
  | nil => rfl
  | cons step rest ih =>
      obtain ⟨still, -, nothing⟩ := session.take_ended ended step
      have first : session.tracedStep state step = [] := by
        cases step with
        | adjust change => rfl
        | advance milliseconds =>
            have none : Moment.calls (session.advance state milliseconds).2 = [] := nothing
            simp [tracedStep, none, TracedCall.ofSchedule]
        | events events =>
            cases stage : state.stage with
            | running => exact absurd stage ended.not_running
            | stopping last stopTime waiting => simp [tracedStep, stage]
            | stopped last => simp [tracedStep, stage]
      rw [traced, first, ih still, List.append_nil]

/-- What a loop keeps true of its state, the events that it has taken and the calls so far
is kept through a session. -/
theorem EventLoop.Keeps.session_takeAll {session : Session δ}
    {holds : LoopState δ → List Event → List TracedCall → Prop}
    (keeps : session.loop.Keeps holds) (steps : List (SessionStep δ)) {state : SessionState δ}
    (running : state.stage = .running) {events : List Event} {calls : List TracedCall}
    (quiet : Event.Quiet events) (before : holds state.loop events calls) :
    holds (session.takeAll state steps).1.loop
      (events ++ Event.taken (SessionStep.allSent steps))
      (calls ++ session.traced state steps) := by
  induction steps generalizing state events calls with
  | nil => simpa [Session.takeAll, Event.taken, Session.traced] using before
  | cons step rest ih =>
      rw [Session.takeAll_cons, Session.traced]
      have after : holds (session.take state step).1.loop (events ++ Event.taken step.sent)
          (calls ++ session.tracedStep state step) := by
        cases step with
        | events sent =>
            have looped := keeps.takeAll sent quiet before
            rw [← (session.deliver_loop running sent).1] at looped
            have traced_eq : session.tracedStep state (.events sent) =
                session.loop.traced state.loop sent := by
              simp [Session.tracedStep, running]
            rw [traced_eq]
            exact looped
        | advance milliseconds =>
            have posted := keeps.postsOnly (PostsOnly.advance session state milliseconds) before
            simpa [SessionStep.sent, Event.taken, Session.tracedStep, Session.take] using posted
        | adjust change =>
            have adjusted := keeps.aside before change [] (by simp)
            simpa [SessionStep.sent, Event.taken, Session.tracedStep, Session.take,
              SessionState.mapDriver, TracedCall.ofSchedule] using adjusted
      rcases session.take_quiet_or_ends running step with
        ⟨quietStep, still⟩ | ⟨early, event, late, ending, sent_eq, quietEarly, ends, ended⟩
      · rw [Event.taken_of_quiet quietStep] at after
        have later := ih still (Event.quiet_append.mpr ⟨quiet, quietStep⟩) after
        rw [SessionStep.allSent_cons, Event.taken_append_of_quiet quietStep]
        simpa using later
      · -- The step ends the loop: what follows neither takes an event nor makes a call.
        have later := keeps.session_ended ended rest after
        have taken_eq : Event.taken (SessionStep.allSent (step :: rest)) =
            Event.taken step.sent := by
          rw [SessionStep.allSent_cons, sent_eq, Event.taken_append_of_ends quietEarly ends]
        rw [session.traced_ended ended, List.append_nil, taken_eq]
        exact later

/-- What a loop keeps is kept from any state of a session on, whether the loop goes on or
has ended. -/
theorem EventLoop.Keeps.session_onwards {session : Session δ}
    {holds : LoopState δ → List Event → List TracedCall → Prop}
    (keeps : session.loop.Keeps holds) {start : SessionState δ}
    (running : start.stage = .running) (steps more : List (SessionStep δ))
    (before : holds (session.takeAll start steps).1.loop [] []) :
    ∃ events calls, holds (session.takeAll start (steps ++ more)).1.loop events calls := by
  rw [Session.takeAll_append]
  rcases session.takeAll_running_or_ended running steps with still | ⟨ending, ended⟩
  · exact ⟨_, _, keeps.session_takeAll more still Event.quiet_nil before⟩
  · exact ⟨_, _, keeps.session_ended ended more before⟩

end ChatBot
