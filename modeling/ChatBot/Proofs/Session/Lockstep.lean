import ChatBot.Proofs.Session.Ending
import ChatBot.Proofs.Session.Stages

/-!
# Sessions in lockstep

Two loops on the same platform keep step when, from states that are related, every event takes
them to states that are related again, and what they do on the way looks the same to an observer
who sees some of their entries.  Then whole sessions of the two look the same to that observer:
the same entries at the same times.
-/

namespace ChatBot

variable {δ : Type}

/-- Two loops keep step, as far as an observer sees.  Related states have the same phase and the
same platform, and stay related when the platform changes. -/
structure EventLoop.Lockstep (loop loop' : EventLoop δ) (shown : Entry → Bool)
    (related : LoopState δ → LoopState δ → Prop) : Prop where
  platform : loop.dispatcher.driver = loop'.dispatcher.driver
  phase : ∀ {state state'}, related state state' → state.phase = state'.phase
  driver : ∀ {state state'}, related state state' → state.desk.driver = state'.desk.driver
  mapDriver : ∀ {state state'}, related state state' → ∀ change : δ → δ,
    related (state.mapDriver change) (state'.mapDriver change)
  handle : ∀ {state state'}, related state state' → ∀ event,
    related (loop.handle state event).1 (loop'.handle state' event).1 ∧
      (loop.handle state event).2.1.filter shown = (loop'.handle state' event).2.1.filter shown

/-- Two states of sessions whose loops keep step. -/
structure SessionState.Lockstep (related : LoopState δ → LoopState δ → Prop)
    (first second : SessionState δ) : Prop where
  loop : related first.loop second.loop
  scheduler : first.scheduler = second.scheduler
  stage : first.stage = second.stage

/-- What an observer sees of moments. -/
def Moment.seen (shown : Entry → Bool) (moments : List Moment) : List Moment :=
  moments.filter fun moment => shown moment.entry

/-- What two sessions come to that keep step. -/
def SessionState.KeepsStep (shown : Entry → Bool) (related : LoopState δ → LoopState δ → Prop)
    (first second : SessionState δ × List Moment) : Prop :=
  first.1.Lockstep related second.1 ∧ Moment.seen shown first.2 = Moment.seen shown second.2

variable {shown : Entry → Bool} {related : LoopState δ → LoopState δ → Prop}

theorem Moment.seen_append (first second : List Moment) :
    seen shown (first ++ second) = seen shown first ++ seen shown second :=
  List.filter_append ..

theorem Moment.seen_cons (moment : Moment) {moments moments' : List Moment}
    (same : seen shown moments = seen shown moments') :
    seen shown (moment :: moments) = seen shown (moment :: moments') := by
  simp only [seen, List.filter_cons] at same ⊢
  rw [same]

theorem Moment.seen_allAt (time : Nat) (entries : List Entry) :
    seen shown (allAt time entries) = allAt time (entries.filter shown) := by
  simp [seen, allAt, List.filter_map, Function.comp_def]

namespace EventLoop.Lockstep

variable {loop loop' : EventLoop δ} {state state' : LoopState δ}

theorem takeAll (lockstep : loop.Lockstep loop' shown related) (start : related state state')
    (events : List Event) :
    related (loop.takeAll state events).1 (loop'.takeAll state' events).1 ∧
      (loop.takeAll state events).2.1.filter shown =
        (loop'.takeAll state' events).2.1.filter shown ∧
      (loop.takeAll state events).2.2 = (loop'.takeAll state' events).2.2 := by
  induction events generalizing state state' with
  | nil => exact ⟨start, rfl, rfl⟩
  | cons event rest ih =>
      obtain ⟨after, entries⟩ := lockstep.handle start event
      have ends := loop.handle_ending state event
      have ends' := loop'.handle_ending state' event
      cases ending : event.ending? with
      | some last =>
          rw [loop.takeAll_cons_of_ends state ending, loop'.takeAll_cons_of_ends state' ending]
          exact ⟨after, entries, ends.trans ends'.symm⟩
      | none =>
          obtain ⟨last, others, ending_eq⟩ := ih after
          rw [loop.takeAll_cons_of_none (ends.trans ending),
            loop'.takeAll_cons_of_none (ends'.trans ending)]
          exact ⟨last, by simp only [List.filter_append, entries, others], ending_eq⟩

end EventLoop.Lockstep

namespace SessionState

variable {state state' : SessionState δ}

theorem Lockstep.now (level : state.Lockstep related state') : state.now = state'.now :=
  congrArg Scheduler.now level.scheduler

theorem Lockstep.withScheduler (level : state.Lockstep related state') (scheduler : Scheduler) :
    Lockstep related { state with scheduler } { state' with scheduler } :=
  ⟨level.loop, rfl, level.stage⟩

theorem Lockstep.withLoop (level : state.Lockstep related state') {loop loop' : LoopState δ}
    (loops : related loop loop') :
    Lockstep related { state with loop } { state' with loop := loop' } :=
  ⟨loops, level.scheduler, level.stage⟩

theorem Lockstep.atTime (level : state.Lockstep related state') (time : Nat) :
    (state.atTime time).Lockstep related (state'.atTime time) := by
  simp only [SessionState.atTime, ← level.scheduler]
  exact level.withScheduler _

end SessionState

namespace Session

variable {session session' : Session δ} {state state' : SessionState δ}
  (lockstep : session.loop.Lockstep session'.loop shown related)
  (level : state.Lockstep related state')

include lockstep level

theorem lockstep_mapDriver (change : δ → δ) :
    (state.mapDriver change).Lockstep related (state'.mapDriver change) :=
  ⟨lockstep.mapDriver level.loop change, level.scheduler, level.stage⟩

theorem lockstep_finish (ending : Ending) :
    SessionState.KeepsStep shown related (state.finish ending) (state'.finish ending) := by
  refine ⟨⟨level.loop, level.scheduler, rfl⟩, ?_⟩
  simp only [SessionState.finish, SessionState.now, level.scheduler, lockstep.phase level.loop]

theorem lockstep_enqueue (count : Nat) :
    (state.enqueue count).1.Lockstep related (state'.enqueue count).1 ∧
      Moment.seen shown (state.enqueue count).2.1 =
        Moment.seen shown (state'.enqueue count).2.1 := by
  simp only [SessionState.enqueue, ← level.stage]
  split
  · split
    · exact ⟨⟨level.loop, level.scheduler, rfl⟩, rfl⟩
    · exact lockstep_finish lockstep (level.atTime _) _
  · exact ⟨level, rfl⟩
  · exact ⟨level, rfl⟩

theorem lockstep_arrive : SessionState.KeepsStep shown related state.arrive state'.arrive := by
  simp only [SessionState.arrive, ← level.stage, ← level.now]
  split
  · split
    · exact lockstep_finish lockstep level _
    · exact ⟨level, rfl⟩
  · exact ⟨level, rfl⟩
  · exact ⟨level, rfl⟩

theorem lockstep_stop (ending : Ending) :
    SessionState.KeepsStep shown related (state.stop ending) (state'.stop ending) := by
  simp only [SessionState.stop, ← level.scheduler, ← level.now]
  split
  · exact lockstep_finish lockstep (level.withScheduler _) ending
  · exact ⟨⟨level.loop, rfl, rfl⟩, rfl⟩

theorem lockstep_close :
    SessionState.KeepsStep shown related state.close state'.close := by
  simp only [SessionState.close, ← level.stage, ← level.now]
  split
  · exact ⟨level, rfl⟩
  · exact lockstep_finish lockstep (level.atTime _) _
  · obtain ⟨stopping, moments⟩ := lockstep_stop lockstep level .sourceClosed
    have closed := Moment.seen_cons ⟨state.now, LoopReport.entry .sourceClosed⟩ moments
    rw [← stopping.stage]
    split
    · obtain ⟨after, last⟩ := lockstep_finish lockstep (stopping.atTime _) _
      refine ⟨after, ?_⟩
      rw [Moment.seen_append, Moment.seen_append, closed, last]
    · exact ⟨stopping, closed⟩
    · exact ⟨stopping, closed⟩

theorem lockstep_advance (milliseconds : Nat) :
    SessionState.KeepsStep shown related (session.advance state milliseconds)
      (session'.advance state' milliseconds) := by
  have platform : session.platform = session'.platform := lockstep.platform
  rw [advance_eq, advance_eq, ← level.scheduler, ← level.now, ← lockstep.driver level.loop,
    ← platform]
  have passed := (lockstep_mapDriver lockstep level fun _ =>
      (PlannedRun.makeAll session.platform (state.scheduler.runsUpTo (state.now + milliseconds))
        state.loop.desk.driver).1).withScheduler
    (state.scheduler.after (state.now + milliseconds))
  obtain ⟨after, last⟩ := lockstep_arrive lockstep passed
  refine ⟨after, ?_⟩
  rw [Moment.seen_append, Moment.seen_append]
  exact congrArg (_ ++ ·) last

theorem lockstep_deliver (events : List Event) :
    (session.deliver state events).1.Lockstep related (session'.deliver state' events).1 ∧
      Moment.seen shown (session.deliver state events).2.1 =
        Moment.seen shown (session'.deliver state' events).2.1 := by
  have stage_eq := level.stage
  cases stage : state.stage with
  | stopped last =>
      rw [stage] at stage_eq
      simp only [deliver, stage, ← stage_eq]
      exact ⟨level, trivial⟩
  | stopping last stopTime waiting =>
      rw [stage] at stage_eq
      simp only [deliver, stage, ← stage_eq]
      exact lockstep_enqueue lockstep level _
  | running =>
      have running' : state'.stage = .running := stage_eq.symm.trans stage
      obtain ⟨loops, entries, ending_eq⟩ := lockstep.takeAll level.loop events
      have looped := level.withLoop loops
      have moments : Moment.seen shown
            (Moment.allAt state.now (session.loop.takeAll state.loop events).2.1) =
          Moment.seen shown
            (Moment.allAt state.now (session'.loop.takeAll state'.loop events).2.1) := by
        rw [Moment.seen_allAt, Moment.seen_allAt, entries]
      cases last : (session.loop.takeAll state.loop events).2.2 with
      | none =>
          obtain ⟨state_eq, made⟩ := session.deliver_of_no_ending stage last
          obtain ⟨state_eq', made'⟩ :=
            session'.deliver_of_no_ending running' (ending_eq.symm.trans last)
          rw [state_eq, state_eq', made, made', ← level.now]
          exact ⟨looped, moments⟩
      | some ending =>
          obtain ⟨state_eq, made⟩ := session.deliver_of_ending stage last
          obtain ⟨state_eq', made'⟩ :=
            session'.deliver_of_ending running' (ending_eq.symm.trans last)
          obtain ⟨stopped, lasts⟩ := lockstep_stop lockstep looped ending
          obtain ⟨queued, others⟩ :=
            lockstep_enqueue lockstep stopped (Event.afterEnding events)
          rw [state_eq, state_eq', made, made', ← level.now]
          refine ⟨queued, ?_⟩
          simp only [Moment.seen_append, moments, lasts, others]

theorem lockstep_take (step : SessionStep δ) :
    (session.take state step).1.Lockstep related (session'.take state' step).1 ∧
      Moment.seen shown (session.take state step).2.1 =
        Moment.seen shown (session'.take state' step).2.1 := by
  cases step with
  | events events => exact lockstep_deliver lockstep level events
  | advance milliseconds => exact lockstep_advance lockstep level milliseconds
  | adjust change => exact ⟨lockstep_mapDriver lockstep level change, rfl⟩

theorem lockstep_takeAll (steps : List (SessionStep δ)) :
    SessionState.KeepsStep shown related (session.takeAll state steps)
      (session'.takeAll state' steps) := by
  induction steps generalizing state state' with
  | nil => exact ⟨level, rfl⟩
  | cons step rest ih =>
      obtain ⟨after, moments⟩ := lockstep_take lockstep level step
      obtain ⟨last, others⟩ := ih after
      rw [takeAll_cons, takeAll_cons]
      exact ⟨last, by rw [Moment.seen_append, Moment.seen_append, moments, others]⟩

/-- Whole sessions keep step, up to and including their ends. -/
theorem lockstep_run (steps : List (SessionStep δ)) :
    SessionState.KeepsStep shown related (session.run state steps) (session'.run state' steps) := by
  obtain ⟨after, moments⟩ := lockstep_takeAll lockstep level steps
  obtain ⟨last, others⟩ := lockstep_close lockstep after
  exact ⟨last, by simp only [run, Moment.seen_append, moments, others]⟩

end Session

end ChatBot
