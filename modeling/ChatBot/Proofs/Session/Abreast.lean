import ChatBot.Proofs.Dispatch.Wording
import ChatBot.Proofs.Session.Sources

/-!
# Sessions side by side

Two sessions whose loops differ in their registries at most take the same steps side by
side.  As long as what their dispatchers are told to do calls for answers that differ in
wording only, all their calls differ in wording only, and each is made in the course of the
same event or by a scheduled action in both.
-/

namespace ChatBot

/-- Calls that are made in the course of the same event, or both by scheduled actions, and
differ in wording only.  How they may differ depends on the event. -/
def TracedCall.Alike (wording : Option Event → String → String → Prop)
    (first second : TracedCall) : Prop :=
  first.1 = second.1 ∧ MadeCall.Alike (wording first.1) first.2 second.2

variable {δ : Type} {alike : δ → δ → Prop} {wording : Option Event → String → String → Prop}

theorem TracedCall.alike_ofEntries {event : Event} {entries entries' : List Entry}
    (calls : List.Forall₂ (MadeCall.Alike (wording (some event))) (callsOf entries)
      (callsOf entries')) :
    List.Forall₂ (Alike wording) (ofEntries event entries) (ofEntries event entries') := by
  rw [ofEntries, ofEntries, List.forall₂_map_left_iff, List.forall₂_map_right_iff]
  exact calls.imp fun _ _ related => ⟨rfl, related⟩

theorem TracedCall.alike_ofSchedule {calls calls' : List MadeCall}
    (related : List.Forall₂ (MadeCall.Alike (wording none)) calls calls') :
    List.Forall₂ (Alike wording) (ofSchedule calls) (ofSchedule calls') := by
  rw [ofSchedule, ofSchedule, List.forall₂_map_left_iff, List.forall₂_map_right_iff]
  exact related.imp fun _ _ related => ⟨rfl, related⟩

/-! ## Loops side by side -/

namespace EventLoop

/-- What holds of a loop that has taken events: its state follows from the events, and its
records are in order. -/
structure Orderly (loop : EventLoop δ) (state : LoopState δ) (events : List Event) : Prop where
  told : ∃ calls, loop.Told state events calls
  tidy : state.desk.replies.Tidy
  users : state.desk.users.Faithful loop.dispatcher.users

namespace Orderly

variable {loop : EventLoop δ} {state : LoopState δ} {events : List Event}

theorem dispatched_eq (orderly : loop.Orderly state events) (quiet : Event.Quiet events)
    (event : Event) :
    state.dispatched event = loop.identities.dispatched (events.count .connected) event := by
  obtain ⟨calls, told⟩ := orderly.told
  exact told.dispatched_eq quiet event

theorem handle (orderly : loop.Orderly state events) (fixed : loop.dispatcher.users.Fixed)
    (quiet : Event.Quiet events) (event : Event) :
    loop.Orderly (loop.handle state event).1 (events ++ [event]) := by
  obtain ⟨⟨calls, told⟩, tidy, users⟩ := orderly
  rcases loop.handle_dispatched rfl with ⟨-, desk_eq, -⟩ | ⟨step, -, -, desk_eq, -⟩
  · refine ⟨⟨_, told.handle quiet event⟩, ?_, ?_⟩
    · rw [desk_eq]
      exact tidy
    · rw [desk_eq]
      exact users
  · refine ⟨⟨_, told.handle quiet event⟩, ?_, ?_⟩
    · rw [desk_eq]
      exact loop.dispatcher.tidy_take tidy step
    · rw [desk_eq]
      exact Dispatcher.faithful_take fixed users step

theorem mapDriver (orderly : loop.Orderly state events) (change : δ → δ) :
    loop.Orderly (state.mapDriver change) events := by
  obtain ⟨⟨calls, told⟩, tidy, users⟩ := orderly
  exact ⟨⟨_, loop.keeps_told.aside told change [] (List.forall_mem_nil _)⟩, tidy, users⟩

end Orderly

/-- Two loops that differ in their registries at most, on a platform that pays no attention to
texts, and whose answers in the course of any event differ in wording only. -/
structure Twins (alike : δ → δ → Prop) (wording : Option Event → String → String → Prop)
    (first second : EventLoop δ) : Prop where
  identities : first.identities = second.identities
  dispatcher : first.dispatcher.Twins second.dispatcher
  blind : first.dispatcher.driver.TextBlind alike
  fixed : first.dispatcher.users.Fixed
  answers : ∀ connections event, ∀ step ∈ first.identities.dispatched connections event,
    ∀ tracks, List.Forall₂ (Answer.Alike (wording (some event)))
      (first.dispatcher.due tracks step) (second.dispatcher.due tracks step)

/-- The states of two loops that have taken the same events side by side. -/
structure Abreast (alike : δ → δ → Prop) (first second : EventLoop δ)
    (state state' : LoopState δ) (events : List Event) : Prop where
  first : first.Orderly state events
  second : second.Orderly state' events
  desk : state.desk.Alike alike state'.desk

namespace Twins

variable {loop loop' : EventLoop δ} {state state' : LoopState δ} {events : List Event}

/-- An event is taken side by side. -/
theorem handle (twins : Twins alike wording loop loop')
    (abreast : Abreast alike loop loop' state state' events) (quiet : Event.Quiet events)
    (event : Event) :
    Abreast alike loop loop' (loop.handle state event).1 (loop'.handle state' event).1
        (events ++ [event]) ∧
      List.Forall₂ (MadeCall.Alike (wording (some event)))
        (callsOf (loop.handle state event).2.1) (callsOf (loop'.handle state' event).2.1) := by
  obtain ⟨orderly, orderly', desks⟩ := abreast
  have fixed' : loop'.dispatcher.users.Fixed := twins.dispatcher.users ▸ twins.fixed
  have after := orderly.handle twins.fixed quiet event
  have after' := orderly'.handle fixed' quiet event
  -- What the dispatchers are told follows from the events, so both are told the same.
  have told := orderly.dispatched_eq quiet event
  have told' := orderly'.dispatched_eq quiet event
  rw [← twins.identities] at told'
  rcases loop.handle_dispatched told with
    ⟨nothing, desk_eq, silent⟩ | ⟨step, one, -, desk_eq, calls_eq⟩
  · rcases loop'.handle_dispatched told' with
      ⟨-, desk_eq', silent'⟩ | ⟨step, one, -⟩
    · refine ⟨⟨after, after', ?_⟩, ?_⟩
      · rw [desk_eq, desk_eq']
        exact desks
      · rw [silent, silent']
        exact .nil
    · simp [nothing] at one
  · rcases loop'.handle_dispatched told' with
      ⟨nothing, -⟩ | ⟨step', one', -, desk_eq', calls_eq'⟩
    · simp [nothing] at one
    · obtain rfl : step = step' := by simpa [one] using one'
      have worded := twins.answers (events.count .connected) event step (by simp [one])
        state.desk.replies.isEnabled
      rw [← Dispatcher.wanted_eq_due twins.fixed orderly.users,
        ReplyCache.isEnabled_of_places desks.replies,
        ← Dispatcher.wanted_eq_due fixed' orderly'.users] at worded
      obtain ⟨still, calls⟩ := twins.dispatcher.take twins.blind orderly.tidy.toWellFormed
        orderly'.tidy.toWellFormed desks step worded
      rw [← desk_eq, ← desk_eq'] at still
      rw [← calls_eq, ← calls_eq'] at calls
      exact ⟨⟨after, after', still⟩, calls⟩

/-- Events are taken side by side, up to the first that ends both loops. -/
theorem takeAll (twins : Twins alike wording loop loop') (more : List Event)
    (abreast : Abreast alike loop loop' state state' events) (quiet : Event.Quiet events) :
    Abreast alike loop loop' (loop.takeAll state more).1 (loop'.takeAll state' more).1
        (events ++ Event.taken more) ∧
      List.Forall₂ (TracedCall.Alike wording) (loop.traced state more)
        (loop'.traced state' more) := by
  induction more generalizing state state' events with
  | nil => exact ⟨by simpa [EventLoop.takeAll, Event.taken] using abreast, .nil⟩
  | cons event rest ih =>
      obtain ⟨after, calls⟩ := twins.handle abreast quiet event
      have traced := TracedCall.alike_ofEntries calls
      cases ends : event.ending? with
      | some ending =>
          rw [loop.takeAll_cons_of_ends state ends, loop'.takeAll_cons_of_ends state' ends,
            Event.taken_cons_of_ends ends, loop.traced_cons_of_ends state ends,
            loop'.traced_cons_of_ends state' ends]
          exact ⟨after, traced⟩
      | none =>
          have still : Event.Quiet (events ++ [event]) :=
            Event.quiet_append.mpr ⟨quiet, Event.quiet_cons.mpr ⟨ends, Event.quiet_nil⟩⟩
          obtain ⟨later, others⟩ := ih after still
          rw [loop.takeAll_cons_of_none ((loop.handle_ending state event).trans ends),
            loop'.takeAll_cons_of_none ((loop'.handle_ending state' event).trans ends),
            loop.traced_cons_of_none state ends, loop'.traced_cons_of_none state' ends]
          exact ⟨by simpa [Event.taken, ends] using later, List.rel_append traced others⟩

end Twins

end EventLoop

/-! ## Schedules side by side -/

/-- A scheduled action without what it says about itself. -/
def ScheduledAction.bare (action : ScheduledAction) : ScheduledAction :=
  { action with description := "", hidden := false }

namespace PlannedRun

/-- A run of an action without what the action says about itself. -/
def bare (run : PlannedRun) : PlannedRun :=
  ⟨run.start, run.action.bare⟩

theorem inOrder_bare (runs : List PlannedRun) :
    inOrder (runs.map bare) = (inOrder runs).map bare :=
  (List.map_mergeSort (f := bare) fun _ _ _ _ => rfl).symm

theorem makeAll_bare (driver : ChatDriver δ) (runs : List PlannedRun) (state : δ) :
    makeAll driver (runs.map bare) state = makeAll driver runs state := by
  induction runs generalizing state with
  | nil => rfl
  | cons run rest ih =>
      simp only [List.map_cons, makeAll, ih]
      rfl

end PlannedRun

/-- A task without what its action says about itself. -/
def ScheduledTask.bare (task : ScheduledTask) : ScheduledTask :=
  { task with action := task.action.bare }

namespace Scheduler

/-- A scheduler without what its actions say about themselves. -/
def bare (scheduler : Scheduler) : Scheduler :=
  { scheduler with tasks := scheduler.tasks.map ScheduledTask.bare }

theorem runsUpTo_bare (scheduler : Scheduler) (limit : Nat) :
    scheduler.bare.runsUpTo limit = (scheduler.runsUpTo limit).map PlannedRun.bare := by
  rw [runsUpTo, runsUpTo, ← PlannedRun.inOrder_bare]
  simp [bare, ScheduledTask.runsUpTo, List.flatMap_map, List.map_flatMap, Function.comp_def,
    PlannedRun.bare, ScheduledTask.bare, ScheduledAction.bare]

theorem after_bare (scheduler : Scheduler) (limit : Nat) :
    scheduler.bare.after limit = (scheduler.after limit).bare := by
  simp [bare, after, ScheduledTask.after, Function.comp_def, ScheduledTask.bare,
    ScheduledAction.bare]

theorem start_bare (now : Nat) (actions : List (Registered ScheduledAction)) :
    (start now actions).bare.tasks =
      ((actions.map (·.action)).map ScheduledAction.bare).filterMap (ScheduledTask.start? now) := by
  have started (action : ScheduledAction) : ScheduledTask.start? now action.bare =
      (ScheduledTask.start? now action).map ScheduledTask.bare := by
    unfold ScheduledTask.start?
    by_cases positive : 0 < action.schedule.period.nanoseconds
    · rw [dif_pos positive, dif_pos (by exact positive)]
      rfl
    · rw [dif_neg positive, dif_neg (by exact positive)]
      rfl
  simp [bare, start, List.map_filterMap, List.filterMap_map, Function.comp_def, started]

end Scheduler

section Posts

variable {driver : ChatDriver δ} {said : String → String → Prop}

theorem ScheduledAction.alike_postAll (blind : driver.TextBlind alike)
    (same : ∀ text, said text text) (posts : List (String × OutgoingMessage)) {state state' : δ}
    (start : alike state state') :
    alike (postAll driver posts state).1 (postAll driver posts state').1 ∧
      List.Forall₂ (MadeCall.Alike said) (callsOf (postAll driver posts state).2)
        (callsOf (postAll driver posts state').2) := by
  induction posts generalizing state state' with
  | nil => exact ⟨start, .nil⟩
  | cons post rest ih =>
      obtain ⟨channel, message⟩ := post
      have unchanged : message.Alike said message := ⟨same message.text, rfl, rfl⟩
      obtain ⟨outcome, next⟩ := blind.send start channel unchanged
      obtain ⟨last, calls⟩ := ih next
      exact ⟨last, .cons ⟨rfl, .send channel unchanged outcome⟩ calls⟩

/-- Runs of the same actions make the same calls. -/
theorem PlannedRun.alike_makeAll (blind : driver.TextBlind alike)
    (same : ∀ text, said text text) {runs runs' : List PlannedRun}
    (planned : runs.map bare = runs'.map bare) {state state' : δ} (start : alike state state') :
    alike (makeAll driver runs state).1 (makeAll driver runs' state').1 ∧
      List.Forall₂ (MadeCall.Alike said) (Moment.calls (makeAll driver runs state).2)
        (Moment.calls (makeAll driver runs' state').2) := by
  rw [← makeAll_bare driver runs, ← makeAll_bare driver runs', ← planned]
  induction runs.map bare generalizing state state' with
  | nil => exact ⟨start, .nil⟩
  | cons run rest ih =>
      obtain ⟨next, posts⟩ := ScheduledAction.alike_postAll blind same run.action.posts start
      obtain ⟨last, calls⟩ := ih next
      simp only [makeAll, Moment.calls_append, Moment.calls_allAt]
      exact ⟨last, List.rel_append posts calls⟩

end Posts

/-! ## Sessions side by side -/

theorem Session.advance_running (session : Session δ) {state : SessionState δ}
    (running : state.stage = .running) (milliseconds : Nat) :
    let limit := state.now + milliseconds
    let made := PlannedRun.makeAll session.platform (state.scheduler.runsUpTo limit)
      state.loop.desk.driver
    session.advance state milliseconds =
      ({ state.withDriver made.1 with scheduler := state.scheduler.after limit }, made.2) := by
  simp [advance, Scheduler.advance, SessionState.withDriver, SessionState.mapDriver, running]

/-- Sessions that run side by side: their loops have taken the same events, and the actions
that they schedule differ at most in what they say about themselves. -/
structure Session.Abreast (alike : δ → δ → Prop) (session session' : Session δ)
    (state state' : SessionState δ) (events : List Event) : Prop where
  running : state.stage = .running
  running' : state'.stage = .running
  scheduler : state.scheduler.bare = state'.scheduler.bare
  quiet : Event.Quiet events
  loops : EventLoop.Abreast alike session.loop session'.loop state.loop state'.loop events

namespace Session.Abreast

variable {session session' : Session δ} {state state' : SessionState δ} {events : List Event}

theorem advance (abreast : Abreast alike session session' state state' events)
    (twins : session.loop.Twins alike wording session'.loop)
    (same : ∀ text, wording none text text) (milliseconds : Nat) :
    Abreast alike session session' (session.advance state milliseconds).1
        (session'.advance state' milliseconds).1 events ∧
      List.Forall₂ (TracedCall.Alike wording)
        (TracedCall.ofSchedule (Moment.calls (session.advance state milliseconds).2))
        (TracedCall.ofSchedule (Moment.calls (session'.advance state' milliseconds).2)) := by
  obtain ⟨running, running', scheduler, quiet, orderly, orderly', desks⟩ := abreast
  have now_eq : state.scheduler.bare.now = state'.scheduler.bare.now := by rw [scheduler]
  have planned : (state.scheduler.runsUpTo (state.now + milliseconds)).map PlannedRun.bare =
      (state'.scheduler.runsUpTo (state'.now + milliseconds)).map PlannedRun.bare := by
    rw [← Scheduler.runsUpTo_bare, ← Scheduler.runsUpTo_bare, scheduler]
    exact congrArg (state'.scheduler.bare.runsUpTo <| · + milliseconds) now_eq
  obtain ⟨driver, calls⟩ := PlannedRun.alike_makeAll twins.blind same planned desks.driver
  have platform_eq : session'.platform = session.platform := twins.dispatcher.driver.symm
  rw [session.advance_running running, session'.advance_running running', platform_eq]
  refine ⟨⟨running, running', ?_, quiet, ?_, ?_, ⟨desks.replies, driver⟩⟩,
    TracedCall.alike_ofSchedule calls⟩
  · rw [← Scheduler.after_bare, ← Scheduler.after_bare, scheduler]
    exact congrArg (state'.scheduler.bare.after <| · + milliseconds) now_eq
  · exact orderly.mapDriver fun _ => _
  · exact orderly'.mapDriver fun _ => _

theorem deliver (abreast : Abreast alike session session' state state' events)
    (twins : session.loop.Twins alike wording session'.loop) (sent : List Event) :
    (Event.Quiet sent → Abreast alike session session' (session.deliver state sent).1
        (session'.deliver state' sent).1 (events ++ sent)) ∧
      List.Forall₂ (TracedCall.Alike wording) (session.loop.traced state.loop sent)
        (session'.loop.traced state'.loop sent) := by
  obtain ⟨running, running', scheduler, quiet, loops⟩ := abreast
  obtain ⟨after, traced⟩ := twins.takeAll sent loops quiet
  refine ⟨fun still => ?_, traced⟩
  rw [Event.taken_of_quiet still] at after
  rw [session.deliver_quiet running still, session'.deliver_quiet running' still]
  exact ⟨running, running', scheduler, Event.quiet_append.mpr ⟨quiet, still⟩, after⟩

theorem take (abreast : Abreast alike session session' state state' events)
    (twins : session.loop.Twins alike wording session'.loop)
    (same : ∀ text, wording none text text) (step : SessionStep δ)
    (adjusts : ∀ change, step = .adjust change →
      ∀ driver driver', alike driver driver' → alike (change driver) (change driver')) :
    (Event.Quiet step.sent → Abreast alike session session' (session.take state step).1
        (session'.take state' step).1 (events ++ step.sent)) ∧
      List.Forall₂ (TracedCall.Alike wording) (session.tracedStep state step)
        (session'.tracedStep state' step) := by
  cases step with
  | events sent =>
      obtain ⟨onwards, calls⟩ := abreast.deliver twins sent
      refine ⟨onwards, ?_⟩
      simpa [Session.tracedStep, abreast.running, abreast.running'] using calls
  | advance milliseconds =>
      obtain ⟨after, calls⟩ := abreast.advance twins same milliseconds
      refine ⟨fun _ => ?_, calls⟩
      rw [SessionStep.sent, List.append_nil]
      exact after
  | adjust change =>
      obtain ⟨running, running', scheduler, quiet, orderly, orderly', replies, driver⟩ := abreast
      refine ⟨fun _ => ?_, .nil⟩
      rw [SessionStep.sent, List.append_nil]
      exact ⟨running, running', scheduler, quiet, orderly.mapDriver change,
        orderly'.mapDriver change, replies, adjusts change rfl _ _ driver⟩

/-- Steps are taken side by side, up to the first that ends the loops; after that there are no
calls. -/
theorem traced (abreast : Abreast alike session session' state state' events)
    (twins : session.loop.Twins alike wording session'.loop)
    (same : ∀ text, wording none text text) (steps : List (SessionStep δ))
    (adjusts : ∀ change, .adjust change ∈ steps →
      ∀ driver driver', alike driver driver' → alike (change driver) (change driver')) :
    List.Forall₂ (TracedCall.Alike wording) (session.traced state steps)
      (session'.traced state' steps) := by
  induction steps generalizing state state' events with
  | nil => exact .nil
  | cons step rest ih =>
      obtain ⟨onwards, calls⟩ := abreast.take twins same step fun change step_eq =>
        adjusts change (step_eq ▸ List.mem_cons_self ..)
      rw [Session.traced, Session.traced]
      refine List.rel_append calls ?_
      -- Whether a step ends a loop depends on its events alone: it ends both or none.
      rcases session.take_quiet_or_ends abreast.running step with
        ⟨quiet, -⟩ | ⟨early, event, late, ending, sent_eq, -, ends, ended⟩
      · exact ih (onwards quiet) fun change member =>
          adjusts change (List.mem_cons_of_mem step member)
      · rcases session'.take_quiet_or_ends abreast.running' step with
          ⟨quiet, -⟩ | ⟨-, -, -, ending', -, -, -, ended'⟩
        · have goesOn := quiet event (by simp [sent_eq])
          rw [ends] at goesOn
          cases goesOn
        · rw [session.traced_ended ended, session'.traced_ended ended']
          exact .nil

end Session.Abreast

end ChatBot
