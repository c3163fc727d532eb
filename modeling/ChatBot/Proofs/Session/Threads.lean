import ChatBot.Proofs.Dispatch.Threads
import ChatBot.Proofs.Session.Ending
import ChatBot.Proofs.Session.Sources
import ChatBot.Proofs.Session.Stages

/-!
# Sessions with different settings

The settings say in which threads replies are posted.  Two sessions that differ in them, on a
platform that pays no attention to threads, do the same at the same times and keep the same
records; only the threads differ in which their answers are posted.
-/

namespace ChatBot

variable {δ : Type}

/-! ## Loops with different settings -/

/-- Two states of a loop with the same records, on platforms that are alike. -/
structure LoopState.Matches (alike : δ → δ → Prop) (first second : LoopState δ) : Prop where
  phase : first.phase = second.phase
  identity : first.identity = second.identity
  connections : first.connections = second.connections
  identityLookups : first.identityLookups = second.identityLookups
  desk : first.desk.Matches alike second.desk

/-- What two loops come to that differ in threads only. -/
def LoopState.ThreadsApart (alike : δ → δ → Prop) (first second : LoopState δ × List Entry) :
    Prop :=
  first.1.Matches alike second.1 ∧
    first.2.map Entry.unthreaded = second.2.map Entry.unthreaded

namespace EventLoop

def withSettings (loop : EventLoop δ) (settings : ReplySettings) : EventLoop δ :=
  ⟨loop.dispatcher.withSettings settings, loop.identities⟩

variable (loop : EventLoop δ) {alike : δ → δ → Prop}
  (blind : loop.dispatcher.driver.ThreadBlind alike) (settings : ReplySettings)
  {state state' : LoopState δ} (level : state.Matches alike state')

include level

theorem onConnected_threadsApart :
    LoopState.ThreadsApart alike (loop.onConnected state)
      ((loop.withSettings settings).onConnected state') := by
  obtain ⟨phase, identity, connections, lookups, desk⟩ := state
  obtain ⟨phase', identity', connections', lookups', desk'⟩ := state'
  obtain ⟨rfl, rfl, rfl, rfl, desks⟩ := level
  simp only [onConnected, withSettings]
  split
  · exact ⟨⟨rfl, rfl, rfl, rfl, desks⟩, rfl⟩
  · split
    · exact ⟨⟨rfl, rfl, rfl, rfl, desks⟩, rfl⟩
    · exact ⟨⟨rfl, rfl, rfl, rfl, desks⟩, rfl⟩

include blind

theorem route_threadsApart (me : Identity) (event : MessageEvent) :
    LoopState.ThreadsApart alike (loop.route me state event)
      ((loop.withSettings settings).route me state' event) := by
  obtain ⟨phase, identity, connections, lookups, desk⟩ := state
  obtain ⟨phase', identity', connections', lookups', desk'⟩ := state'
  obtain ⟨rfl, rfl, rfl, rfl, desks⟩ := level
  have taken := fun step => loop.dispatcher.take_threadsApart blind settings desks step
  simp only [route]
  split
  · split
    · exact ⟨⟨rfl, rfl, rfl, rfl, desks⟩, rfl⟩
    · obtain ⟨after, entries⟩ := taken (.posted (Envelope.of event.message me))
      exact ⟨⟨rfl, rfl, rfl, rfl, after⟩, entries⟩
  · next edited _ =>
      split
      · exact ⟨⟨rfl, rfl, rfl, rfl, desks⟩, rfl⟩
      · obtain ⟨after, entries⟩ := taken (.edited (Envelope.of (editedMessage event edited) me))
        exact ⟨⟨rfl, rfl, rfl, rfl, after⟩, entries⟩
  · next timestamp _ =>
      obtain ⟨after, entries⟩ := taken (.deleted ⟨event.channel, timestamp⟩)
      exact ⟨⟨rfl, rfl, rfl, rfl, after⟩, entries⟩

theorem onMessage_threadsApart (event : MessageEvent) :
    LoopState.ThreadsApart alike (loop.onMessage state event)
      ((loop.withSettings settings).onMessage state' event) := by
  simp only [onMessage, ← level.identity, ← level.phase]
  split
  · exact ⟨level, rfl⟩
  · split
    · exact ⟨level, rfl⟩
    · split
      · exact ⟨level, rfl⟩
      · exact loop.route_threadsApart blind settings level _ event

/-- An event is handled in the same way, whatever the settings. -/
theorem handle_threadsApart (event : Event) :
    let first := loop.handle state event
    let second := (loop.withSettings settings).handle state' event
    first.1.Matches alike second.1 ∧
      first.2.1.map Entry.unthreaded = second.2.1.map Entry.unthreaded := by
  have phase := level.phase
  cases event with
  | connected =>
      obtain ⟨after, entries⟩ := loop.onConnected_threadsApart settings level
      exact ⟨after, by simp only [handle, List.map_cons, phase, entries]⟩
  | message event =>
      obtain ⟨after, entries⟩ := loop.onMessage_threadsApart blind settings level event
      exact ⟨after, by simp only [handle, List.map_cons, phase, entries]⟩
  | latencyReport milliseconds => exact ⟨level, by simp only [handle, phase]⟩
  | transportError code message => exact ⟨level, by simp only [handle, phase]⟩
  | invalidCredentials => exact ⟨{ level with phase := rfl }, by simp only [handle, phase]⟩
  | termination => exact ⟨{ level with phase := rfl }, by simp only [handle, phase]⟩

theorem takeAll_threadsApart (events : List Event) :
    let first := loop.takeAll state events
    let second := (loop.withSettings settings).takeAll state' events
    first.1.Matches alike second.1 ∧
      first.2.1.map Entry.unthreaded = second.2.1.map Entry.unthreaded ∧
      first.2.2 = second.2.2 := by
  induction events generalizing state state' with
  | nil => exact ⟨level, rfl, rfl⟩
  | cons event rest ih =>
      obtain ⟨after, entries⟩ := loop.handle_threadsApart blind settings level event
      -- The event alone decides whether a loop ends, so both end with it or neither.
      have ends := loop.handle_ending state event
      have ends' := (loop.withSettings settings).handle_ending state' event
      cases ending : event.ending? with
      | some last =>
          rw [loop.takeAll_cons_of_ends state ending,
            (loop.withSettings settings).takeAll_cons_of_ends state' ending]
          exact ⟨after, entries, ends.trans ends'.symm⟩
      | none =>
          obtain ⟨last, others, ending_eq⟩ := ih after
          rw [loop.takeAll_cons_of_none (ends.trans ending),
            (loop.withSettings settings).takeAll_cons_of_none (ends'.trans ending)]
          exact ⟨last, by simp only [List.map_append, entries, others], ending_eq⟩

end EventLoop

/-! ## Sessions with different settings -/

/-- The moment with a post for a source message taken out of its thread. -/
def Moment.unthreaded (moment : Moment) : Moment :=
  { moment with entry := moment.entry.unthreaded }

theorem Moment.unthreaded_allAt (time : Nat) {entries entries' : List Entry}
    (same : entries.map Entry.unthreaded = entries'.map Entry.unthreaded) :
    (allAt time entries).map unthreaded = (allAt time entries').map unthreaded := by
  have at_time := congrArg (List.map (Moment.mk time)) same
  simpa [allAt, Function.comp_def, unthreaded] using at_time

section Posts

variable {driver : ChatDriver δ} {alike : δ → δ → Prop} (blind : driver.ThreadBlind alike)

include blind

/-- Scheduled actions post the same on platforms that are alike. -/
theorem ScheduledAction.postAll_alike (posts : List (String × OutgoingMessage)) {state state' : δ}
    (start : alike state state') :
    alike (postAll driver posts state).1 (postAll driver posts state').1 ∧
      (postAll driver posts state).2 = (postAll driver posts state').2 := by
  induction posts generalizing state state' with
  | nil => exact ⟨start, rfl⟩
  | cons post rest ih =>
      obtain ⟨channel, message⟩ := post
      obtain ⟨result_eq, next⟩ := blind.send start channel (rfl : message.unthreaded = _)
      obtain ⟨last, entries⟩ := ih next
      exact ⟨last, by simp only [postAll, result_eq, entries]⟩

theorem PlannedRun.makeAll_alike (runs : List PlannedRun) {state state' : δ}
    (start : alike state state') :
    alike (makeAll driver runs state).1 (makeAll driver runs state').1 ∧
      (makeAll driver runs state).2 = (makeAll driver runs state').2 := by
  induction runs generalizing state state' with
  | nil => exact ⟨start, rfl⟩
  | cons run rest ih =>
      obtain ⟨next, entries⟩ := ScheduledAction.postAll_alike blind run.action.posts start
      obtain ⟨last, moments⟩ := ih next
      refine ⟨last, ?_⟩
      simp only [makeAll, ScheduledAction.run, entries, moments]

end Posts

/-- Two states of a session with the same records, on platforms that are alike. -/
structure SessionState.Matches (alike : δ → δ → Prop) (first second : SessionState δ) : Prop where
  loop : first.loop.Matches alike second.loop
  scheduler : first.scheduler = second.scheduler
  stage : first.stage = second.stage

/-- What two sessions come to that differ in threads only. -/
def SessionState.ThreadsApart (alike : δ → δ → Prop)
    (first second : SessionState δ × List Moment) : Prop :=
  first.1.Matches alike second.1 ∧
    first.2.map Moment.unthreaded = second.2.map Moment.unthreaded

namespace SessionState

variable {alike : δ → δ → Prop} {state state' : SessionState δ}

theorem Matches.now (level : state.Matches alike state') : state.now = state'.now :=
  congrArg Scheduler.now level.scheduler

theorem Matches.withScheduler (level : state.Matches alike state') (scheduler : Scheduler) :
    Matches alike { state with scheduler } { state' with scheduler } :=
  ⟨level.loop, rfl, level.stage⟩

theorem Matches.withLoop (level : state.Matches alike state') {loop loop' : LoopState δ}
    (loops : loop.Matches alike loop') :
    Matches alike { state with loop } { state' with loop := loop' } :=
  ⟨loops, level.scheduler, level.stage⟩

theorem Matches.withDriver (level : state.Matches alike state') {driver driver' : δ}
    (related : alike driver driver') :
    (state.withDriver driver).Matches alike (state'.withDriver driver') where
  loop := { level.loop with desk := { level.loop.desk with driver := related } }
  scheduler := level.scheduler
  stage := level.stage

theorem Matches.atTime (level : state.Matches alike state') (time : Nat) :
    (state.atTime time).Matches alike (state'.atTime time) := by
  simp only [SessionState.atTime, ← level.scheduler]
  exact level.withScheduler _

theorem finish_threadsApart (level : state.Matches alike state') (ending : Ending) :
    ThreadsApart alike (state.finish ending) (state'.finish ending) := by
  refine ⟨⟨level.loop, level.scheduler, rfl⟩, ?_⟩
  simp only [finish, now, level.scheduler, level.loop.phase]

theorem enqueue_threadsApart (level : state.Matches alike state') (count : Nat) :
    (state.enqueue count).1.Matches alike (state'.enqueue count).1 ∧
      (state.enqueue count).2.1.map Moment.unthreaded =
        (state'.enqueue count).2.1.map Moment.unthreaded := by
  simp only [enqueue, ← level.stage]
  split
  · split
    · exact ⟨⟨level.loop, level.scheduler, rfl⟩, rfl⟩
    · exact finish_threadsApart (level.atTime _) _
  · exact ⟨level, rfl⟩
  · exact ⟨level, rfl⟩

theorem arrive_threadsApart (level : state.Matches alike state') :
    ThreadsApart alike state.arrive state'.arrive := by
  simp only [arrive, ← level.stage, ← level.now]
  split
  · split
    · exact finish_threadsApart level _
    · exact ⟨level, rfl⟩
  · exact ⟨level, rfl⟩
  · exact ⟨level, rfl⟩

theorem stop_threadsApart (level : state.Matches alike state') (ending : Ending) :
    ThreadsApart alike (state.stop ending) (state'.stop ending) := by
  simp only [stop, ← level.scheduler, ← level.now]
  split
  · exact finish_threadsApart (level.withScheduler _) ending
  · exact ⟨⟨level.loop, rfl, rfl⟩, rfl⟩

theorem close_threadsApart (level : state.Matches alike state') :
    ThreadsApart alike state.close state'.close := by
  simp only [close, ← level.stage, ← level.now]
  split
  · exact ⟨level, rfl⟩
  · exact finish_threadsApart (level.atTime _) _
  · obtain ⟨stopping, moments⟩ := stop_threadsApart level .sourceClosed
    rw [← stopping.stage]
    split
    · obtain ⟨after, last⟩ := finish_threadsApart (stopping.atTime _) _
      refine ⟨after, ?_⟩
      simp only [List.map_append, List.map_cons, moments, last]
    · refine ⟨stopping, ?_⟩
      simp only [List.map_cons, moments]
    · refine ⟨stopping, ?_⟩
      simp only [List.map_cons, moments]

end SessionState

namespace Session

def withSettings (session : Session δ) (settings : ReplySettings) : Session δ :=
  ⟨session.loop.withSettings settings⟩

variable (session : Session δ) {alike : δ → δ → Prop}
  (blind : session.platform.ThreadBlind alike) (settings : ReplySettings)
  {state state' : SessionState δ} (level : state.Matches alike state')

include level blind

theorem advance_threadsApart (milliseconds : Nat) :
    SessionState.ThreadsApart alike (session.advance state milliseconds)
      ((session.withSettings settings).advance state' milliseconds) := by
  obtain ⟨driver, moments⟩ := PlannedRun.makeAll_alike blind
    (state.scheduler.runsUpTo (state.now + milliseconds)) level.loop.desk.driver
  have passed := (level.withDriver driver).withScheduler
    (state.scheduler.after (state.now + milliseconds))
  obtain ⟨after, last⟩ := SessionState.arrive_threadsApart passed
  rw [advance_eq, advance_eq, ← level.scheduler, ← level.now]
  refine ⟨after, ?_⟩
  rw [List.map_append, List.map_append, moments, last]
  rfl

theorem deliver_threadsApart (events : List Event) :
    (session.deliver state events).1.Matches alike
        ((session.withSettings settings).deliver state' events).1 ∧
      (session.deliver state events).2.1.map Moment.unthreaded =
        ((session.withSettings settings).deliver state' events).2.1.map Moment.unthreaded := by
  have stage_eq := level.stage
  cases stage : state.stage with
  | stopped last =>
      rw [stage] at stage_eq
      simp only [deliver, stage, ← stage_eq]
      exact ⟨level, trivial⟩
  | stopping last stopTime waiting =>
      rw [stage] at stage_eq
      simp only [deliver, stage, ← stage_eq]
      exact SessionState.enqueue_threadsApart level _
  | running =>
      have running' : state'.stage = .running := stage_eq.symm.trans stage
      obtain ⟨loops, entries, ending_eq⟩ :=
        session.loop.takeAll_threadsApart blind settings level.loop events
      have moments := Moment.unthreaded_allAt state.now entries
      have looped := level.withLoop loops
      cases last : (session.loop.takeAll state.loop events).2.2 with
      | none =>
          obtain ⟨state_eq, made⟩ := session.deliver_of_no_ending stage last
          obtain ⟨state_eq', made'⟩ := (session.withSettings settings).deliver_of_no_ending
            running' (ending_eq.symm.trans last)
          rw [state_eq, state_eq', made, made', ← level.now]
          exact ⟨looped, moments⟩
      | some ending =>
          obtain ⟨state_eq, made⟩ := session.deliver_of_ending stage last
          obtain ⟨state_eq', made'⟩ := (session.withSettings settings).deliver_of_ending
            running' (ending_eq.symm.trans last)
          obtain ⟨stopped, lasts⟩ := SessionState.stop_threadsApart looped ending
          obtain ⟨queued, others⟩ :=
            SessionState.enqueue_threadsApart stopped (Event.afterEnding events)
          rw [state_eq, state_eq', made, made', ← level.now]
          refine ⟨queued, ?_⟩
          simp only [List.map_append]
          exact congrArg₂ _ (congrArg₂ _ moments lasts) others

theorem take_threadsApart (step : SessionStep δ)
    (adjusts : ∀ change, step = .adjust change →
      ∀ driver driver', alike driver driver' → alike (change driver) (change driver')) :
    (session.take state step).1.Matches alike
        ((session.withSettings settings).take state' step).1 ∧
      (session.take state step).2.1.map Moment.unthreaded =
        ((session.withSettings settings).take state' step).2.1.map Moment.unthreaded := by
  cases step with
  | events events => exact session.deliver_threadsApart blind settings level events
  | advance milliseconds => exact session.advance_threadsApart blind settings level milliseconds
  | adjust change =>
      have adjusted := adjusts change rfl _ _ level.loop.desk.driver
      exact ⟨level.withDriver adjusted, rfl⟩

theorem takeAll_threadsApart (steps : List (SessionStep δ))
    (adjusts : ∀ change, .adjust change ∈ steps →
      ∀ driver driver', alike driver driver' → alike (change driver) (change driver')) :
    SessionState.ThreadsApart alike (session.takeAll state steps)
      ((session.withSettings settings).takeAll state' steps) := by
  induction steps generalizing state state' with
  | nil => exact ⟨level, rfl⟩
  | cons step rest ih =>
      obtain ⟨after, moments⟩ := session.take_threadsApart blind settings level step
        fun change step_eq => adjusts change (step_eq ▸ List.mem_cons_self ..)
      obtain ⟨last, others⟩ := ih after fun change member =>
        adjusts change (List.mem_cons_of_mem step member)
      rw [takeAll_cons, takeAll_cons]
      exact ⟨last, by rw [List.map_append, List.map_append, moments, others]⟩

theorem run_threadsApart (steps : List (SessionStep δ))
    (adjusts : ∀ change, .adjust change ∈ steps →
      ∀ driver driver', alike driver driver' → alike (change driver) (change driver')) :
    SessionState.ThreadsApart alike (session.run state steps)
      ((session.withSettings settings).run state' steps) := by
  obtain ⟨after, moments⟩ := session.takeAll_threadsApart blind settings level steps adjusts
  obtain ⟨last, others⟩ := SessionState.close_threadsApart after
  exact ⟨last, by simp only [run, List.map_append, moments, others]⟩

end Session

/-! ## The threads of answers -/

namespace EventLoop

/-- In the course of an event the answers that are wanted are posted in their threads. -/
theorem handle_threaded (loop : EventLoop δ) {state : LoopState δ}
    (wellFormed : state.desk.replies.WellFormed) (event : Event) :
    callsOf (loop.handle state event).2.1 = [] ∨
      ∃ step, state.dispatched event = [step] ∧ event.source? = some step.key ∧
        Threaded loop.dispatcher.settings step.key (loop.dispatcher.wanted state.desk step)
          (callsOf (loop.handle state event).2.1) := by
  rcases loop.handle_dispatched rfl with ⟨-, -, silent⟩ | ⟨step, told, about, -, calls_eq⟩
  · exact Or.inl silent
  · obtain ⟨replies, -, reconciled⟩ := loop.dispatcher.take_reconciled wellFormed step
    rw [calls_eq]
    exact Or.inr ⟨step, told, about, reconciled.threaded⟩

end EventLoop

/-- Whatever has happened before, the next event that a session takes makes no calls, or brings a
message to the dispatcher, new or edited, or the report that one is gone; then the answers that
are wanted are posted in their threads, if they are posted, and what is changed stays where it
is. -/
def Session.PostsInThreads (session : Session δ) (start : SessionState δ) : Prop :=
  ∀ before early event, Event.Quiet (SessionStep.allSent before ++ early) →
    let earlier := session.takeAll start (before ++ [.events early])
    let next := session.takeAll start (before ++ [.events (early ++ [event])])
    ∃ made, Moment.calls next.2 = Moment.calls earlier.2 ++ made ∧
      (made = [] ∨ ∃ step, earlier.1.loop.dispatched event = [step] ∧
        event.source? = some step.key ∧
        Threaded session.loop.dispatcher.settings step.key
          (session.loop.dispatcher.wanted earlier.1.loop.desk step) made)

namespace Session

theorem postsInThreads (session : Session δ) (responses users : Nat) (driver : δ)
    (scheduler : Scheduler) :
    session.PostsInThreads (.initial responses users driver scheduler) := by
  intro before early event quiet earlier next
  have tidy : earlier.1.loop.desk.replies.Tidy := by
    have begun : (SessionState.initial responses users driver scheduler).loop.desk.replies.Tidy ∧
        ∀ traced ∈ ([] : List TracedCall), traced.Rooted [] :=
      ⟨ReplyCache.tidy_empty responses, by simp⟩
    exact (session.loop.keeps_rooted.session_takeAll (before ++ [.events early]) rfl
      Event.quiet_nil begun).1
  obtain ⟨-, calls_eq⟩ := session.takeAll_handles
    (rfl : (SessionState.initial responses users driver scheduler).stage = .running) quiet event
  exact ⟨_, calls_eq, session.loop.handle_threaded tidy.toWellFormed event⟩

/-- Two sessions differ in their settings only, and run on a platform that pays no attention to
threads, in states that are alike.  They do the same at the same times, in the same order and
with the same outcomes, and come to the same records; what they post may differ only in the
threads of answers.  In each of them an answer is posted in the thread of its source message if
it wishes so, or if it has no wish and the settings say so, and shown outside likewise; and what
takes the place of a reply names no thread. -/
theorem threads_apart (session : Session δ) (settings : ReplySettings) {alike : δ → δ → Prop}
    (blind : session.platform.ThreadBlind alike) (responses users : Nat) (scheduler : Scheduler)
    {driver driver' : δ} (related : alike driver driver') (steps : List (SessionStep δ))
    (adjusts : ∀ change, .adjust change ∈ steps →
      ∀ driver driver', alike driver driver' → alike (change driver) (change driver')) :
    let other := session.withSettings settings
    let start : SessionState δ := .initial responses users driver scheduler
    let start' : SessionState δ := .initial responses users driver' scheduler
    let first := session.run start steps
    let second := other.run start' steps
    first.2.map Moment.unthreaded = second.2.map Moment.unthreaded ∧
      first.1.loop.desk.replies = second.1.loop.desk.replies ∧
      first.1.Matches alike second.1 ∧
      session.PostsInThreads start ∧ other.PostsInThreads start' := by
  intro other start start' first second
  have level : start.Matches alike start' := ⟨⟨rfl, rfl, rfl, rfl, ⟨rfl, rfl, related⟩⟩, rfl, rfl⟩
  obtain ⟨after, moments⟩ := session.run_threadsApart blind settings level steps adjusts
  exact ⟨moments, after.loop.desk.replies, after, session.postsInThreads _ _ _ _,
    other.postsInThreads _ _ _ _⟩

/-- Two actions answer, of which one wishes to stay outside threads.  One of the first answers is
refused, so an edit replaces the other by two, and the next changes both in place. -/
theorem threads_apart_wish :
    let answering := fun wish => { Action.new .hear "anything" with
      predicate := some fun _ _ => true
      answer := some fun envelope => .done (some (wish (Answer.ofText envelope.text))) }
    let registry := { Registry.empty with
      hearActions := [⟨"plain", answering id⟩, ⟨"apart", answering (·.inThread false)⟩] }
    let dispatcher : Dispatcher (Scripted MemoryPlatform) :=
      { registry, settings := ⟨false, false⟩, users := .ofTable []
        driver := Scripted.driver [] MemoryPlatform.driver }
    let session : Session (Scripted MemoryPlatform) := ⟨dispatcher, fun _ => .ok ⟨"bot", "Bot"⟩⟩
    let start : SessionState (Scripted MemoryPlatform) :=
      .initial 8 8 ⟨[none, some .notConnected], .empty⟩ ⟨0, []⟩
    let posted := Event.message (.posted ⟨"general", "ann", "one", ⟨"1.0"⟩⟩)
    let edited := fun text =>
      Event.message (.changed "general" ⟨"4.0"⟩ ⟨"general", "ann", text, ⟨"1.0"⟩⟩)
    let steps := [.events [.connected, posted], .events [edited "two", edited "three"]]
    let first := session.run start steps
    let second := (session.withSettings ⟨true, true⟩).run start steps
    let threads := fun moments => (Moment.calls moments).filterMap fun made =>
      match made.2 with
      | .send _ message _ => some message.thread
      | .update _ _ _ _ | .delete _ _ _ => none
    (Moment.calls first.2).length = 7 ∧
      threads first.2 = [none, none, none, none] ∧
      threads second.2 = [some ⟨⟨"1.0"⟩, true⟩, none, some ⟨⟨"1.0"⟩, true⟩, none] ∧
      first.2.map Moment.unthreaded = second.2.map Moment.unthreaded := by
  intro answering registry dispatcher session start posted edited steps first second threads
  have alike : Scripted.Alike MemoryPlatform.Alike start.loop.desk.driver start.loop.desk.driver :=
    ⟨rfl, rfl, rfl⟩
  have apart := threads_apart session ⟨true, true⟩
    (Scripted.threadBlind [] MemoryPlatform.threadBlind) 8 8 ⟨0, []⟩ alike steps (by simp [steps])
  exact ⟨by decide +kernel, by decide +kernel, by decide +kernel, apart.1⟩

end Session

end ChatBot
