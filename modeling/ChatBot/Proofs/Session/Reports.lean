import ChatBot.Proofs.Dispatch.Reports
import ChatBot.Proofs.Session.Ending
import ChatBot.Proofs.Session.Identity
import ChatBot.Proofs.Session.Sources
import ChatBot.Proofs.Session.Stages

/-!
# What a session reports as errors

The errors that a session reports are the failures in its course, one for each, in the order in
which they happen: calls for source messages that fail, refusals to say who the bot is, errors
of the connection, and the refusal of the bot's credentials.
-/

namespace ChatBot

/-- Something that happens in the course of a session: an event is taken, the bot is told who it
is or refused to be told, a rule notes something, or a call is made. -/
inductive Incident where
  | took (event : Event)
  | asked (answer : Except ApiError Identity)
  | noted (report : LogEvent)
  | made (call : MadeCall)

namespace Incident

def took? : Incident → Option Event
  | took event => some event
  | asked _ | noted _ | made _ => none

def asked? : Incident → Option (Except ApiError Identity)
  | asked answer => some answer
  | took _ | noted _ | made _ => none

def made? : Incident → Option MadeCall
  | made call => some call
  | took _ | asked _ | noted _ => none

/-- The error that is reported of an incident, if it is a failure. -/
def failure? : Incident → Option LogEvent
  | took (.transportError code message) =>
    some ⟨.error, "Error: Code " ++ toString code.toInt ++ " - " ++ message, []⟩
  | took .invalidCredentials => some ⟨.error, "Invalid credentials", []⟩
  | took _ => none
  | asked (.error error) =>
    some ⟨.error, "Failed to resolve self identity", [("error", error.message)]⟩
  | asked (.ok _) => none
  | noted report => some report
  | made call => MadeCall.failure? call

end Incident

variable {δ : Type}

/-! ## The course of a loop -/

namespace EventLoop

variable (loop : EventLoop δ)

/-- What the bot is answered in the course of an event to the question who it is. -/
def questions (state : LoopState δ) : Event → List (Except ApiError Identity)
  | .connected => if state.identity.isNone then [loop.identities state.identityLookups] else []
  | _ => []

def noted (state : LoopState δ) (event : Event) : List LogEvent :=
  (state.dispatched event).flatMap (loop.dispatcher.noted state.desk)

/-- What happens in the course of an event. -/
def incidents (state : LoopState δ) (event : Event) : List Incident :=
  .took event :: ((loop.questions state event).map .asked ++ (loop.noted state event).map .noted ++
    (callsOf (loop.handle state event).2.1).map .made)

/-- What happens in the course of events, up to the first that ends the loop. -/
def course (state : LoopState δ) : List Event → List Incident
  | [] => []
  | event :: rest =>
    loop.incidents state event ++
      if (loop.handle state event).2.2.isSome then []
      else course (loop.handle state event).1 rest

theorem errorsOf_route (me : Identity) (state : LoopState δ) (event : MessageEvent) :
    errorsOf (loop.route me state event).2 =
      errorsOf (loop.dispatcher.takeAll state.desk (event.step? me).toList).2 := by
  cases change : event.change with
  | none =>
      by_cases own : event.user = me.id
      · simp only [route, MessageEvent.step?, change, own, if_true]
        rfl
      · simp [route, MessageEvent.step?, change, own, Dispatcher.takeAll_cons, Dispatcher.take]
  | some change' =>
      cases change' with
      | deleted timestamp =>
          simp [route, MessageEvent.step?, change, Dispatcher.takeAll_cons, Dispatcher.take]
      | changed edited =>
          by_cases own : edited.user = me.id
          · simp only [route, MessageEvent.step?, change, own, if_true]
            rfl
          · simp [route, MessageEvent.step?, change, own, Dispatcher.takeAll_cons,
              Dispatcher.take]

theorem errorsOf_onMessage (state : LoopState δ) (event : MessageEvent) :
    errorsOf (loop.onMessage state event).2 =
      errorsOf (loop.dispatcher.takeAll state.desk (state.dispatched (.message event))).2 := by
  cases known : state.identity with
  | none =>
      simp only [onMessage, LoopState.dispatched, known]
      rfl
  | some me =>
      cases accepts : state.phase.acceptsMessages with
      | false =>
          simp only [onMessage, LoopState.dispatched, known, accepts]
          rfl
      | true =>
          cases echo : event.isReplyEcho with
          | true =>
              simp only [onMessage, LoopState.dispatched, known, accepts, echo]
              rfl
          | false =>
              have routed := loop.errorsOf_route me state event
              simpa [onMessage, LoopState.dispatched, known, accepts, echo] using routed

theorem errorsOf_handle_message (state : LoopState δ) (event : MessageEvent) :
    errorsOf (loop.handle state (.message event)).2.1 =
      loop.noted state (.message event) ++
        (callsOf (loop.handle state (.message event)).2.1).filterMap MadeCall.failure? := by
  have errors_eq : errorsOf (loop.handle state (.message event)).2.1 =
      errorsOf (loop.dispatcher.takeAll state.desk (state.dispatched (.message event))).2 :=
    loop.errorsOf_onMessage state event
  rcases loop.handle_dispatched rfl with ⟨nothing, -, silent⟩ | ⟨step, one, -, -, calls_eq⟩
  · rw [errors_eq, silent, noted, nothing]
    rfl
  · rw [errors_eq, calls_eq, noted, one, Dispatcher.takeAll_cons, Dispatcher.takeAll_nil,
      List.append_nil, List.flatMap_cons, List.flatMap_nil, List.append_nil]
    exact loop.dispatcher.errorsOf_take state.desk step

/-- In the course of an event each failure is reported as an error, and nothing else is. -/
theorem errorsOf_handle (state : LoopState δ) (event : Event) :
    errorsOf (loop.handle state event).2.1 =
      (loop.incidents state event).filterMap Incident.failure? := by
  cases event with
  | message event =>
      rw [errorsOf_handle_message, incidents]
      simp [List.filterMap_cons, Incident.failure?, questions, List.filterMap_map,
        Function.comp_def]
  | connected =>
      have silent := (loop.handle_desk state .connected).2
      rw [incidents, silent]
      cases known : state.identity with
      | some me => simp [handle, onConnected, known, questions]; rfl
      | none =>
          cases answer : loop.identities state.identityLookups with
          | ok me => simp [handle, onConnected, known, answer, questions]; rfl
          | error error => simp [handle, onConnected, known, answer, questions]; rfl
  | latencyReport milliseconds => rfl
  | transportError code message => rfl
  | invalidCredentials => rfl
  | termination => rfl

end EventLoop

/-- What a loop has come to between two states: the errors that it has reported are the failures
in a course of incidents.  The events in the course are those that were taken, the calls those
that were made, and the answers to the question who the bot is those that were given in
between; and what is noted in it is an error that a rule of the bot notes. -/
structure EventLoop.Recounts (loop : EventLoop δ) (before after : LoopState δ)
    (events : List Event) (errors : List LogEvent) (calls : List MadeCall)
    (course : List Incident) : Prop where
  errors : errors = course.filterMap Incident.failure?
  took : course.filterMap Incident.took? = events
  asked : (List.range after.identityLookups).map loop.identities =
    (List.range before.identityLookups).map loop.identities ++ course.filterMap Incident.asked?
  made : course.filterMap Incident.made? = calls
  noted : ∀ report, .noted report ∈ course → report.level = .error ∧
    ∃ rule ∈ loop.dispatcher.registry.rules, rule.action.Notes report

namespace EventLoop

variable {loop : EventLoop δ}

namespace Recounts

variable {before between after : LoopState δ} {events others : List Event}
  {errors failures : List LogEvent} {calls more : List MadeCall} {course further : List Incident}

theorem append (first : loop.Recounts before between events errors calls course)
    (second : loop.Recounts between after others failures more further) :
    loop.Recounts before after (events ++ others) (errors ++ failures) (calls ++ more)
      (course ++ further) where
  errors := by rw [List.filterMap_append, ← first.errors, ← second.errors]
  took := by rw [List.filterMap_append, first.took, second.took]
  asked := by rw [second.asked, first.asked, List.filterMap_append, List.append_assoc]
  made := by rw [List.filterMap_append, first.made, second.made]
  noted report member :=
    (List.mem_append.mp member).elim (first.noted report) (second.noted report)

/-- Calls that scheduled actions make are no failures, whatever becomes of them. -/
theorem posts (same : after.identityLookups = before.identityLookups)
    (scheduled : ∀ made ∈ calls, isScheduledSend made) :
    loop.Recounts before after [] [] calls (calls.map .made) where
  errors := by
    rw [List.filterMap_map, eq_comm, List.filterMap_eq_nil_iff]
    intro made member
    match made, scheduled made member with
    | (.schedule, .send channel message result), _ => rfl
  took := by simp [List.filterMap_map, Function.comp_def, Incident.took?]
  asked := by simp [List.filterMap_map, Function.comp_def, Incident.asked?, same]
  made := by simp [List.filterMap_map, Function.comp_def, Incident.made?]
  noted report member := by simp at member

theorem nothing (same : after.identityLookups = before.identityLookups) :
    loop.Recounts before after [] [] [] [] :=
  posts same (by simp)

end Recounts

variable (loop)

theorem recounts_handle (state : LoopState δ) (event : Event) :
    loop.Recounts state (loop.handle state event).1 [event]
      (errorsOf (loop.handle state event).2.1) (callsOf (loop.handle state event).2.1)
      (loop.incidents state event) where
  errors := loop.errorsOf_handle state event
  took := by
    simp [incidents, Incident.took?, List.filterMap_map, Function.comp_def]
  made := by
    simp [incidents, List.filterMap_cons, Incident.made?, List.filterMap_map, Function.comp_def]
  asked := by
    have asked_eq : (loop.incidents state event).filterMap Incident.asked? =
        loop.questions state event := by
      simp [incidents, List.filterMap_cons, Incident.asked?, List.filterMap_map, Function.comp_def]
    rw [asked_eq]
    cases event with
    | connected =>
        cases known : state.identity with
        | some me => simp [handle, onConnected, known, questions]
        | none =>
            cases answer : loop.identities state.identityLookups with
            | ok me => simp [handle, onConnected, known, answer, questions, List.range_succ]
            | error error => simp [handle, onConnected, known, answer, questions, List.range_succ]
    | message event =>
        have same : (loop.handle state (.message event)).1.identityLookups =
            state.identityLookups := (loop.onMessage_apart state event).2
        have none : loop.questions state (.message event) = [] := rfl
        rw [same, none, List.append_nil]
    | _ => exact (List.append_nil _).symm
  noted report member := by
    have inside : report ∈ loop.noted state event := by
      simpa [incidents] using member
    obtain ⟨step, -, found⟩ := List.mem_flatMap.mp inside
    exact Dispatcher.notes_of_mem_noted found

theorem recounts_takeAll (events : List Event) (state : LoopState δ) :
    loop.Recounts state (loop.takeAll state events).1 (Event.taken events)
      (errorsOf (loop.takeAll state events).2.1) (callsOf (loop.takeAll state events).2.1)
      (loop.course state events) := by
  induction events generalizing state with
  | nil => exact .nothing rfl
  | cons event rest ih =>
      have first := loop.recounts_handle state event
      cases ends : event.ending? with
      | some ending =>
          rw [loop.takeAll_cons_of_ends state ends, Event.taken_cons_of_ends ends, course,
            loop.handle_ending, ends, Option.isSome_some, if_pos rfl, List.append_nil]
          exact first
      | none =>
          have taken_eq : Event.taken (event :: rest) = [event] ++ Event.taken rest :=
            Event.taken_append_of_quiet (Event.quiet_cons.mpr ⟨ends, Event.quiet_nil⟩) rest
          rw [loop.takeAll_cons_of_none ((loop.handle_ending state event).trans ends), taken_eq,
            course, loop.handle_ending, ends, Option.isSome_none, if_neg Bool.false_ne_true,
            errorsOf_append, callsOf_append]
          exact first.append (ih _)

end EventLoop

/-! ## The course of a session -/

namespace Moment

def errors (moments : List Moment) : List LogEvent :=
  errorsOf (moments.map (·.entry))

@[simp]
theorem errors_append (first second : List Moment) :
    errors (first ++ second) = errors first ++ errors second := by
  simp [errors]

@[simp]
theorem errors_allAt (time : Nat) (entries : List Entry) :
    errors (allAt time entries) = errorsOf entries := by
  simp [errors, allAt, Function.comp_def]

end Moment

theorem ScheduledAction.errorsOf_postAll (driver : ChatDriver δ)
    (posts : List (String × OutgoingMessage)) (state : δ) :
    errorsOf (postAll driver posts state).2 = [] := by
  induction posts generalizing state with
  | nil => rfl
  | cons post rest ih =>
      obtain ⟨channel, message⟩ := post
      exact ih _

/-- Posts of scheduled actions that fail are not reported. -/
theorem PlannedRun.errors_makeAll (driver : ChatDriver δ) (runs : List PlannedRun) (state : δ) :
    Moment.errors (makeAll driver runs state).2 = [] := by
  induction runs generalizing state with
  | nil => rfl
  | cons run rest ih =>
      have posted := ScheduledAction.errorsOf_postAll driver run.action.posts state
      rw [makeAll, Moment.errors_append, Moment.errors_allAt, ih, List.append_nil]
      exact posted

namespace SessionState

variable (state : SessionState δ)

@[simp]
theorem errors_finish (ending : Ending) : Moment.errors (state.finish ending).2 = [] :=
  rfl

@[simp]
theorem errors_enqueue (count : Nat) : Moment.errors (state.enqueue count).2.1 = [] := by
  unfold enqueue
  split
  · split <;> rfl
  · rfl
  · rfl

@[simp]
theorem errors_arrive : Moment.errors state.arrive.2 = [] := by
  unfold arrive
  split
  · split <;> rfl
  · rfl
  · rfl

@[simp]
theorem errors_stop (ending : Ending) : Moment.errors (state.stop ending).2 = [] := by
  dsimp only [stop]
  split <;> rfl

theorem errors_close : Moment.errors state.close.2 = [] := by
  have stopped := state.errors_stop .sourceClosed
  unfold close
  split
  · rfl
  · rfl
  · simp only
    split
    · rw [Moment.errors_append, errors_finish, List.append_nil]
      exact stopped
    · exact stopped
    · exact stopped

end SessionState

/-- Registering a plugin may draw a warning, but no error. -/
theorem Registry.errors_reports (registry : Registry) (plugin : Plugin) :
    (registry.reports plugin).filter (·.level = .error) = [] := by
  unfold reports
  split <;> rfl

theorem Scheduler.errors_startReports (scheduler : Scheduler)
    (actions : List (Registered ScheduledAction)) :
    ((scheduler.startReports actions).map (·.event)).filter (·.level = .error) = [] := by
  simp [startReports, List.filter_map, Function.comp_def, SchedulerReport.event]

/-- All that the help notes is that a user is not known. -/
theorem Help.harmless_of_notes {botName : String} {infos : List ActionInfo} {report : LogEvent}
    (notes : (command botName infos).Notes report) : report.level ≠ .error := by
  obtain ⟨answer, envelope, answers, inside⟩ := notes
  obtain rfl := Option.some.inj answers
  obtain ⟨found, later⟩ := inside
  cases found with
  | ok user => cases later
  | error error => simp [Inquiry.eq_of_notes_report later]

namespace Session

variable (session : Session δ)

theorem errors_advance (state : SessionState δ) (milliseconds : Nat) :
    Moment.errors (session.advance state milliseconds).2 = [] := by
  rw [advance_eq, Moment.errors_append, PlannedRun.errors_makeAll, SessionState.errors_arrive,
    List.append_nil]

/-- While a session is running, the errors are those that its loop reports. -/
theorem errors_deliver {state : SessionState δ} (running : state.stage = .running)
    (events : List Event) :
    Moment.errors (session.deliver state events).2.1 =
      errorsOf (session.loop.takeAll state.loop events).2.1 := by
  cases last : (session.loop.takeAll state.loop events).2.2 with
  | none => rw [(session.deliver_of_no_ending running last).2, Moment.errors_allAt]
  | some ending =>
      rw [(session.deliver_of_ending running last).2]
      simp

def courseOf (state : SessionState δ) : SessionStep δ → List Incident
  | .events events =>
    match state.stage with
    | .running => session.loop.course state.loop events
    | .stopping _ _ _ | .stopped _ => []
  | .advance milliseconds => (Moment.calls (session.advance state milliseconds).2).map .made
  | .adjust _ => []

/-- What happens in the course of steps. -/
def course (state : SessionState δ) : List (SessionStep δ) → List Incident
  | [] => []
  | step :: rest => session.courseOf state step ++ course (session.take state step).1 rest

theorem recounts_take (state : SessionState δ) (step : SessionStep δ) :
    session.loop.Recounts state.loop (session.take state step).1.loop
      (if state.stage = .running then Event.taken step.sent else [])
      (Moment.errors (session.take state step).2.1) (Moment.calls (session.take state step).2.1)
      (session.courseOf state step) := by
  cases step with
  | adjust change =>
      rw [SessionStep.sent, Event.taken, ite_self]
      exact .nothing rfl
  | advance milliseconds =>
      have posts := PostsOnly.advance session state milliseconds
      have same : (session.advance state milliseconds).1.loop.identityLookups =
          state.loop.identityLookups := by
        obtain ⟨change, loop_eq⟩ := posts.loop
        rw [loop_eq]
        rfl
      rw [SessionStep.sent, Event.taken, ite_self, take, errors_advance]
      exact .posts same posts.scheduled
  | events events =>
      cases stage : state.stage with
      | running =>
          obtain ⟨loop_eq, calls_eq⟩ := session.deliver_loop stage events
          rw [if_pos rfl, take, session.errors_deliver stage, loop_eq, calls_eq, courseOf, stage]
          exact session.loop.recounts_takeAll events state.loop
      | stopped ending =>
          simp only [take, deliver, courseOf, stage, reduceCtorEq, if_false]
          exact .nothing rfl
      | stopping ending stopTime waiting =>
          simp only [take, deliver, courseOf, stage, reduceCtorEq, if_false,
            SessionState.errors_enqueue, SessionState.calls_enqueue, SessionState.loop_enqueue]
          exact .nothing rfl

theorem recounts_takeAll_ended {state : SessionState δ} {ending : Ending}
    (ended : state.Ended ending) (steps : List (SessionStep δ)) :
    session.loop.Recounts state.loop (session.takeAll state steps).1.loop []
      (Moment.errors (session.takeAll state steps).2)
      (Moment.calls (session.takeAll state steps).2) (session.course state steps) := by
  induction steps generalizing state with
  | nil => exact .nothing rfl
  | cons step rest ih =>
      have first := session.recounts_take state step
      rw [if_neg ended.not_running] at first
      rw [takeAll_cons, Moment.errors_append, Moment.calls_append]
      exact first.append (ih (session.take_ended ended step).1)

theorem recounts_takeAll {state : SessionState δ} (running : state.stage = .running)
    (steps : List (SessionStep δ)) :
    session.loop.Recounts state.loop (session.takeAll state steps).1.loop
      (Event.taken (SessionStep.allSent steps)) (Moment.errors (session.takeAll state steps).2)
      (Moment.calls (session.takeAll state steps).2) (session.course state steps) := by
  induction steps generalizing state with
  | nil => exact .nothing rfl
  | cons step rest ih =>
      have first := session.recounts_take state step
      rw [if_pos running] at first
      rw [takeAll_cons, Moment.errors_append, Moment.calls_append, SessionStep.allSent_cons]
      rcases session.take_quiet_or_ends running step with
        ⟨quiet, still⟩ | ⟨early, event, late, ending, sent_eq, quiet, ends, ended⟩
      · rw [Event.taken_of_quiet quiet] at first
        rw [Event.taken_append_of_quiet quiet]
        exact first.append (ih still)
      · -- What comes after the event that ends the loop is not taken, in this step or later.
        have whole := first.append (session.recounts_takeAll_ended ended rest)
        rw [List.append_nil, sent_eq] at whole
        rw [sent_eq, Event.taken_append_of_ends quiet ends]
        exact whole

/-- Starting a session reports no errors. -/
theorem errors_start (bot : Bot) (platform : ChatDriver δ) (users : UserFinder)
    (identities : IdentityFinder) (driver : δ) :
    (Session.start bot platform users identities driver).2.2.filter (·.level = .error) = [] := by
  have registered : (registryOf bot).2.filter (·.level = .error) = [] := by
    unfold registryOf
    split
    · exact Registry.errors_reports _ _
    · rfl
  have scheduled := fun scheduler : Scheduler =>
    scheduler.errors_startReports (registryOf bot).1.scheduledActions
  simp only [start, List.filter_append, registered, scheduled]
  rfl

/-- Only the rules of its plugins note errors in the session of a bot; its help notes none. -/
theorem mem_rules_of_notes (bot : Bot) {report : LogEvent} (severe : report.level = .error)
    {rule : Registered Action} (member : rule ∈ (registryOf bot).1.rules)
    (notes : rule.action.Notes report) : rule ∈ bot.registry.rules := by
  unfold registryOf at member
  split at member
  · rcases Registry.mem_rules_add.mp member with own | ⟨action, helping, rfl⟩
    · exact own
    · obtain rfl := List.mem_singleton.mp helping
      exact absurd severe (Help.harmless_of_notes notes)
  · exact member

/-- A session reports as errors, in the order in which they happen and each once, the failures in
its course, and nothing else: each error of the connection and the refusal of the bot's
credentials, among the events that are taken; each refusal to say who the bot is, among the
answers to the questions that are asked; each call for a source message that fails, among the
calls that are made; and what rules of the plugins themselves note as errors.  Posts of
scheduled actions and calls that do not fail are not among the failures. -/
theorem failures_reported (bot : Bot) (platform : ChatDriver δ) (users : UserFinder)
    (identities : IdentityFinder) (driver : δ) (steps : List (SessionStep δ)) :
    let started := Session.start bot platform users identities driver
    let whole := started.1.run started.2.1 steps
    let course := started.1.course started.2.1 steps
    let events := Event.taken (SessionStep.allSent steps)
    started.2.2.filter (·.level = .error) = [] ∧
      Moment.errors whole.2 = course.filterMap Incident.failure? ∧
      course.filterMap Incident.took? = events ∧
      course.filterMap Incident.asked? =
        (List.range (identities.asked (events.count .connected))).map identities ∧
      course.filterMap Incident.made? = Moment.calls whole.2 ∧
      ∀ report, .noted report ∈ course → report.level = .error ∧
        ∃ rule ∈ bot.registry.rules, rule.action.Notes report := by
  intro started whole course events
  have recounts := started.1.recounts_takeAll (rfl : started.2.1.stage = .running) steps
  have told : started.1.loop.Told (started.1.takeAll started.2.1 steps).1.loop events
      (started.1.traced started.2.1 steps) := by
    have initial : started.1.loop.Told started.2.1.loop [] [] := EventLoop.told_initial _ _ _
    simpa using started.1.loop.keeps_told.session_takeAll steps rfl Event.quiet_nil initial
  have asked := recounts.asked
  rw [told.lookups] at asked
  refine ⟨errors_start bot platform users identities driver, ?_, recounts.took, asked.symm, ?_,
    fun report member => ?_⟩
  · have closed := SessionState.errors_close (started.1.takeAll started.2.1 steps).1
    have whole_eq : Moment.errors whole.2 =
        Moment.errors (started.1.takeAll started.2.1 steps).2 := by
      simp only [whole, run, Moment.errors_append, closed, List.append_nil]
    exact whole_eq.trans recounts.errors
  · rw [(started.1.run_eq started.2.1 steps).2.2]
    exact recounts.made
  · obtain ⟨severe, rule, inside, notes⟩ := recounts.noted report member
    exact ⟨severe, rule, mem_rules_of_notes bot severe inside notes, notes⟩

/-- A bot that repeats what it hears is told who it is when it asks again.  A reply of its own, an
edit, a scheduled post and a deletion are refused to it, and at last its credentials. -/
theorem failures_reported_echo :
    let echo := { Action.new .hear "anything" with
      predicate := some fun _ _ => true
      answer := some fun envelope => .done (some (.ofText envelope.text)) }
    let clock : ScheduledAction := ⟨.every (.ofMilliseconds 1000), "ticks", false,
      [("general", .ofText "tick")], fun _ => 0⟩
    let bot := (Bot.registerAll ⟨.default, .empty, 8, 8⟩ [⟨"echo", [], [echo], [clock]⟩]).1
    let identities : IdentityFinder := fun number =>
      if number = 0 then .error .notConnected else .ok ⟨"bot", "Bot"⟩
    let refused := some (ApiError.other "refused")
    let started := Session.start bot (Scripted.driver [] MemoryPlatform.driver) (.ofTable [])
      identities ⟨[refused, none, refused, refused, refused], .empty⟩
    let posted := fun time => Event.message (.posted ⟨"general", "ann", "one", ⟨time⟩⟩)
    let edited := Event.message (.changed "general" ⟨"3.0"⟩ ⟨"general", "ann", "two", ⟨"2.0"⟩⟩)
    let deleted := Event.message (.deleted "general" ⟨"4.0"⟩ ⟨"2.0"⟩)
    let steps := [.events [.connected, .connected, posted "1.0", posted "2.0", edited],
      .advance 1000, .events [.transportError 5 "reset", deleted, .invalidCredentials, .connected]]
    let errors := Moment.errors (started.1.run started.2.1 steps).2
    errors.map (·.message) = ["Failed to resolve self identity", "Failed to send reply",
        "Failed to update reply", "Error: Code 5 - reset", "Failed to delete reply",
        "Invalid credentials"] ∧
      errors = (started.1.course started.2.1 steps).filterMap Incident.failure? := by
  intro echo clock bot identities refused started posted edited deleted steps errors
  have reported := failures_reported bot (Scripted.driver [] MemoryPlatform.driver) (.ofTable [])
    identities ⟨[refused, none, refused, refused, refused], .empty⟩ steps
  exact ⟨by decide +kernel, reported.2.1⟩

end Session

end ChatBot
