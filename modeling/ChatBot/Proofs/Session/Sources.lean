import ChatBot.Proofs.Session.Correlation
import ChatBot.Proofs.Session.Identity

/-!
# Source messages

Every message event is about one source message, and every call that is made in the
course of an event is made for the source message of that event.  What the dispatcher is
told in the course of a session follows from the events alone, and what it is told about
one source message from the events that concern that message: those about the message
itself and those about the connection.
-/

namespace ChatBot

namespace MessageEvent

/-- The message that an event is about.  An edit that names no channel is one of a message
in the channel of its event. -/
def source (event : MessageEvent) : MessageKey :=
  match event.change with
  | none => ⟨event.channel, event.timestamp⟩
  | some (.changed edited) =>
    ⟨if edited.channel = "" then event.channel else edited.channel, edited.timestamp⟩
  | some (.deleted timestamp) => ⟨event.channel, timestamp⟩

/-- What a dispatcher is told about a message event is about the same message. -/
theorem key_of_step? {event : MessageEvent} {me : Identity} {step : DispatchStep}
    (told : event.step? me = some step) : step.key = event.source := by
  cases change : event.change with
  | none =>
      simp only [step?, change] at told
      split at told
      · cases told
      · obtain rfl := Option.some.inj told
        simp [source, change, DispatchStep.key, Envelope.key, Envelope.of, message]
  | some change' =>
      cases change' with
      | deleted timestamp =>
          simp only [step?, change] at told
          obtain rfl := Option.some.inj told
          simp [source, change]
      | changed edited =>
          simp only [step?, change] at told
          split at told
          · cases told
          · obtain rfl := Option.some.inj told
            simp only [source, change, DispatchStep.key, Envelope.key, Envelope.of,
              EventLoop.editedMessage]
            split <;> rfl

end MessageEvent

namespace Event

/-- The message that an event is about, if it is about one. -/
def source? : Event → Option MessageKey
  | message event => some event.source
  | _ => none

/-- The messages that events are about. -/
def sources (events : List Event) : List MessageKey :=
  events.filterMap source?

/-- Whether an event is about a message, or one about the connection that decides what
becomes of messages. -/
def concerns (key : MessageKey) : Event → Bool
  | message event => event.source = key
  | connected | invalidCredentials | termination => true
  | latencyReport _ | transportError _ _ => false

theorem sources_concat (events : List Event) (event : Event) :
    sources (events ++ [event]) = sources events ++ event.source?.toList := by
  cases about : event.source? <;> simp [sources, about]

theorem concerns_of_ends {event : Event} {ending : Ending} (ends : event.ending? = some ending)
    (key : MessageKey) : event.concerns key = true := by
  cases event <;> simp_all [ending?, concerns]

theorem concerns_of_source? {event : Event} {source : MessageKey}
    (about : event.source? = some source) (key : MessageKey) :
    event.concerns key = decide (source = key) := by
  cases event with
  | message event =>
      obtain rfl := Option.some.inj about
      rfl
  | _ => cases about

/-- The loop takes the same of the events that concern a message as it does among all. -/
theorem taken_filter (key : MessageKey) (events : List Event) :
    taken (events.filter (·.concerns key)) = (taken events).filter (·.concerns key) := by
  induction events with
  | nil => rfl
  | cons event rest ih =>
      cases ends : event.ending? with
      | some ending =>
          have concerned := concerns_of_ends ends key
          rw [taken_cons_of_ends ends, List.filter_cons_of_pos concerned,
            taken_cons_of_ends ends, List.filter_cons_of_pos concerned, List.filter_nil]
      | none =>
          cases concerned : event.concerns key with
          | true => simp [taken, ends, concerned, ih]
          | false => simp [taken, ends, concerned, ih]

end Event

namespace IdentityFinder

variable (identities : IdentityFinder)

/-- What the dispatcher is told in the course of an event, after so many connections. -/
def dispatched (connections : Nat) : Event → List DispatchStep
  | .message event =>
    match identities.resolved connections with
    | none => []
    | some me => if event.isReplyEcho then [] else (event.step? me).toList
  | _ => []

/-- What the dispatcher is told in the course of events. -/
def steps (connections : Nat) : List Event → List DispatchStep
  | [] => []
  | event :: rest =>
    identities.dispatched connections event ++
      steps (connections + [event].count .connected) rest

variable {identities}

theorem mem_dispatched {connections : Nat} {event : Event} {step : DispatchStep}
    (told : step ∈ identities.dispatched connections event) :
    ∃ message me, event = .message message ∧ identities.resolved connections = some me ∧
      message.step? me = some step := by
  cases event with
  | message message =>
      simp only [dispatched] at told
      split at told
      · cases told
      · next me known =>
          split at told
          · cases told
          · exact ⟨message, me, rfl, known, Option.mem_toList.mp told⟩
  | _ => cases told

theorem key_of_mem_dispatched {connections : Nat} {event : Event} {step : DispatchStep}
    (told : step ∈ identities.dispatched connections event) : event.source? = some step.key := by
  obtain ⟨message, me, rfl, -, step_eq⟩ := mem_dispatched told
  rw [Event.source?, MessageEvent.key_of_step? step_eq]

variable (identities)

theorem steps_append (connections : Nat) (first second : List Event) :
    identities.steps connections (first ++ second) =
      identities.steps connections first ++
        identities.steps (connections + first.count .connected) second := by
  induction first generalizing connections with
  | nil => rfl
  | cons event rest ih =>
      have count_eq : connections + (event :: rest).count Event.connected =
          connections + [event].count Event.connected + rest.count Event.connected := by
        rw [List.count_cons, List.count_singleton]
        omega
      rw [List.cons_append, steps, steps, ih, count_eq, List.append_assoc]

theorem steps_concat (events : List Event) (event : Event) :
    identities.steps 0 (events ++ [event]) =
      identities.steps 0 events ++ identities.dispatched (events.count .connected) event := by
  rw [steps_append, Nat.zero_add, steps, steps, List.append_nil]

/-- What the dispatcher is told about a message comes from the events that concern it. -/
theorem steps_filter (key : MessageKey) (connections : Nat) (events : List Event) :
    identities.steps connections (events.filter (·.concerns key)) =
      (identities.steps connections events).filter (·.key = key) := by
  induction events generalizing connections with
  | nil => rfl
  | cons event rest ih =>
      rw [steps, List.filter_append]
      have kept : ∀ step ∈ identities.dispatched connections event,
          decide (step.key = key) = event.concerns key := fun step told =>
        (Event.concerns_of_source? (key_of_mem_dispatched told) key).symm
      cases concerned : event.concerns key with
      | true =>
          have own : (identities.dispatched connections event).filter (·.key = key) =
              identities.dispatched connections event :=
            List.filter_eq_self.mpr fun step told => (kept step told).trans concerned
          rw [List.filter_cons_of_pos concerned, steps, ih, own]
      | false =>
          have other : (identities.dispatched connections event).filter (·.key = key) = [] :=
            List.filter_eq_nil_iff.mpr fun step told =>
              Bool.eq_false_iff.mp ((kept step told).trans concerned)
          have still : [event].count .connected = 0 := by
            rw [List.count_singleton]
            cases event <;> simp_all [Event.concerns]
          rw [List.filter_cons_of_neg (by simp [concerned]), ih, other, List.nil_append, still,
            Nat.add_zero]

end IdentityFinder

namespace EventLoop

variable {δ : Type} {loop : EventLoop δ}

theorem Told.dispatched_eq {state : LoopState δ} {events : List Event}
    {calls : List TracedCall} (told : loop.Told state events calls)
    (quiet : Event.Quiet events) (event : Event) :
    state.dispatched event = loop.identities.dispatched (events.count .connected) event := by
  cases event with
  | message event =>
      have identity := told.identity
      cases known : loop.identities.resolved (events.count .connected) with
      | none =>
          rw [known] at identity
          simp [LoopState.dispatched, IdentityFinder.dispatched, identity, known]
      | some me =>
          rw [known] at identity
          have accepts := (told.phase quiet).acceptsMessages known
          cases echo : event.isReplyEcho <;>
            simp [LoopState.dispatched, IdentityFinder.dispatched, identity, known, accepts, echo]
  | _ => rfl

/-- In the course of an event the dispatcher is told nothing, or one thing about the message
that the event is about. -/
theorem handle_dispatched (loop : EventLoop δ) {state : LoopState δ} {event : Event}
    {steps : List DispatchStep} (told : state.dispatched event = steps) :
    steps = [] ∧ (loop.handle state event).1.desk = state.desk ∧
        callsOf (loop.handle state event).2.1 = [] ∨
      ∃ step, steps = [step] ∧ event.source? = some step.key ∧
        (loop.handle state event).1.desk = (loop.dispatcher.take state.desk step).1 ∧
        callsOf (loop.handle state event).2.1 =
          callsOf (loop.dispatcher.take state.desk step).2 := by
  obtain ⟨desk_eq, calls_eq⟩ := loop.handle_desk state event
  rw [told] at desk_eq calls_eq
  cases event with
  | message event =>
      have one : steps = [] ∨ ∃ step me, event.step? me = some step ∧ steps = [step] := by
        rw [← told, LoopState.dispatched]
        split
        · exact Or.inl rfl
        · split
          · next me _ _ =>
              cases step_eq : event.step? me with
              | none => exact Or.inl rfl
              | some step => exact Or.inr ⟨step, me, step_eq, rfl⟩
          · exact Or.inl rfl
      rcases one with rfl | ⟨step, me, step_eq, rfl⟩
      · exact Or.inl ⟨rfl, desk_eq, calls_eq⟩
      · right
        refine ⟨step, rfl, congrArg some (MessageEvent.key_of_step? step_eq).symm, desk_eq, ?_⟩
        rw [calls_eq, Dispatcher.takeAll_cons, Dispatcher.takeAll_nil, List.append_nil]
  | _ =>
      obtain rfl : [] = steps := told
      exact Or.inl ⟨rfl, desk_eq, calls_eq⟩

end EventLoop

/-! ## Calls about a message -/

namespace TracedCall

/-- The calls that were made in the course of events about a message. -/
def about (key : MessageKey) (calls : List TracedCall) : List MadeCall :=
  (calls.filter fun traced => traced.1.bind Event.source? = some key).map Prod.snd

theorem about_append (key : MessageKey) (first second : List TracedCall) :
    about key (first ++ second) = about key first ++ about key second := by
  simp [about]

theorem about_ofSchedule (key : MessageKey) (calls : List MadeCall) :
    about key (ofSchedule calls) = [] := by
  rw [about, ofSchedule, List.filter_map, List.map_map]
  simp [Function.comp_def]

theorem about_ofEntries (key : MessageKey) (event : Event) (entries : List Entry) :
    about key (ofEntries event entries) =
      if event.source? = some key then callsOf entries else [] := by
  rw [about, ofEntries, List.filter_map, List.map_map]
  by_cases own : event.source? = some key
  · simp [own, Function.comp_def]
  · simp [own, Function.comp_def]

/-- A call was made by a scheduled action, or for the message that its event is about. -/
def Rooted (events : List Event) (traced : TracedCall) : Prop :=
  traced.1 = none ∧ isScheduledSend traced.2 ∨
    ∃ event source, traced.1 = some event ∧ event ∈ events ∧ event.source? = some source ∧
      traced.2.1 = .source source

theorem Rooted.append {events : List Event} {traced : TracedCall} (rooted : traced.Rooted events)
    (more : List Event) : traced.Rooted (events ++ more) := by
  rcases rooted with scheduled | ⟨event, source, caused, member, about, origin⟩
  · exact Or.inl scheduled
  · exact Or.inr ⟨event, source, caused, List.mem_append_left more member, about, origin⟩

/-- Where all events about messages are about one, all calls that scheduled actions did not
make are about it. -/
theorem sourceCalls_eq_about {key : MessageKey} {events : List Event} {calls : List TracedCall}
    (rooted : ∀ traced ∈ calls, traced.Rooted events)
    (alone : ∀ event ∈ events, ∀ source, event.source? = some source → source = key) :
    sourceCalls (calls.map Prod.snd) = about key calls := by
  rw [sourceCalls, List.filter_map, about]
  congr 1
  apply List.filter_congr
  intro traced member
  rcases rooted traced member with
    ⟨caused, scheduled⟩ | ⟨event, source, caused, inside, about, origin⟩
  · simp [caused, scheduled]
  · have own := alone event inside source about
    have unscheduled : isScheduledSend traced.2 = false := by
      obtain ⟨cause, made_for, call⟩ := traced
      obtain rfl : made_for = .source source := origin
      rfl
    simp [caused, about, own, unscheduled]

end TracedCall

namespace EventLoop

variable {δ : Type} (loop : EventLoop δ)

theorem keeps_rooted :
    loop.Keeps fun state events calls =>
      state.desk.replies.Tidy ∧ ∀ traced ∈ calls, traced.Rooted events where
  handle {state events calls} _ before event := by
    obtain ⟨tidy, rooted⟩ := before
    have earlier : ∀ traced ∈ calls, traced.Rooted (events ++ [event]) := fun traced member =>
      (rooted traced member).append [event]
    rcases loop.handle_dispatched rfl with
      ⟨-, desk_eq, nothing⟩ | ⟨step, -, about, desk_eq, calls_eq⟩
    · rw [desk_eq, TracedCall.ofEntries, nothing]
      exact ⟨tidy, by simpa using earlier⟩
    · obtain ⟨replies, -, reconciled⟩ := loop.dispatcher.take_reconciled tidy.toWellFormed step
      rw [desk_eq]
      refine ⟨loop.dispatcher.tidy_take tidy step, fun traced member => ?_⟩
      rcases List.mem_append.mp member with old | new
      · exact earlier traced old
      · rw [TracedCall.ofEntries, calls_eq] at new
        obtain ⟨made, inside, rfl⟩ := List.mem_map.mp new
        exact Or.inr ⟨event, step.key, rfl, by simp, about, reconciled.origin_eq made inside⟩
  aside {state events calls} before change scheduled sends := by
    obtain ⟨tidy, rooted⟩ := before
    refine ⟨tidy, fun traced member => ?_⟩
    rcases List.mem_append.mp member with old | new
    · exact rooted traced old
    · obtain ⟨made, inside, rfl⟩ := List.mem_map.mp new
      exact Or.inl ⟨rfl, sends made inside⟩

end EventLoop

end ChatBot
