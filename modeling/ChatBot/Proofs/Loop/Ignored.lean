import ChatBot.Platform.Memory
import ChatBot.Proofs.Loop.Dispatched

/-!
# Events that make no difference

Reports about the connection, messages that come before the bot knows who it is, its
own messages and edits, the echoes of its replies, and further connections: a loop
that takes one of these reports it and goes on as before.  Two runs, of which one
lacks any of these events, make the same calls and end in the same state, but for the
number of connections.
-/

namespace ChatBot

variable {δ : Type}

/-- Events that make no difference to a loop in a state. -/
inductive Ignored (state : LoopState δ) : Event → Prop where
  | ownMessage (me : Identity) (event : MessageEvent) (known : state.identity = some me)
      (new : event.change = none) (own : event.user = me.id) : Ignored state (.message event)
  | ownEdit (me : Identity) (event : MessageEvent) (edited : Message)
      (known : state.identity = some me) (changed : event.change = some (.changed edited))
      (own : edited.user = me.id) : Ignored state (.message event)
  | echo (event : MessageEvent) (reply : event.replyTo ≠ 0) : Ignored state (.message event)
  | early (event : MessageEvent) (unknown : state.identity = none) :
      Ignored state (.message event)
  | latency (milliseconds : UInt64) : Ignored state (.latencyReport milliseconds)
  | transportError (code : Int32) (message : String) :
      Ignored state (.transportError code message)
  | reconnected (known : state.identity ≠ none) : Ignored state .connected

/-- Events with some of those left out that make no difference when they arrive. -/
inductive Thinned (loop : EventLoop δ) : LoopState δ → List Event → List Event → Prop where
  | nil (state : LoopState δ) : Thinned loop state [] []
  | keep (state : LoopState δ) (event : Event) {rest kept : List Event}
      (later : Thinned loop (loop.handle state event).1 rest kept) :
      Thinned loop state (event :: rest) (event :: kept)
  | drop (state : LoopState δ) (event : Event) {rest kept : List Event}
      (ignored : Ignored state event)
      (later : Thinned loop (loop.handle state event).1 rest kept) :
      Thinned loop state (event :: rest) kept

/-- Two states that differ in the number of connections at most. -/
structure LoopState.Agrees (first second : LoopState δ) : Prop where
  phase : first.phase = second.phase
  identity : first.identity = second.identity
  identityLookups : first.identityLookups = second.identityLookups
  desk : first.desk = second.desk

namespace LoopState.Agrees

variable {first second third : LoopState δ}

theorem refl (state : LoopState δ) : state.Agrees state :=
  ⟨rfl, rfl, rfl, rfl⟩

theorem symm (agrees : first.Agrees second) : second.Agrees first :=
  ⟨agrees.phase.symm, agrees.identity.symm, agrees.identityLookups.symm, agrees.desk.symm⟩

theorem trans (start : first.Agrees second) (rest : second.Agrees third) :
    first.Agrees third where
  phase := start.phase.trans rest.phase
  identity := start.identity.trans rest.identity
  identityLookups := start.identityLookups.trans rest.identityLookups
  desk := start.desk.trans rest.desk

end LoopState.Agrees

namespace EventLoop

variable (loop : EventLoop δ)

theorem route_agrees {first second : LoopState δ} (agrees : first.Agrees second)
    (me : Identity) (event : MessageEvent) :
    (loop.route me first event).1.Agrees (loop.route me second event).1 ∧
      (loop.route me first event).2 = (loop.route me second event).2 := by
  obtain ⟨phase, identity, connections, lookups, desk⟩ := first
  obtain ⟨phase', identity', connections', lookups', desk'⟩ := second
  obtain ⟨rfl, rfl, rfl, rfl⟩ := agrees
  cases change : event.change with
  | none =>
      by_cases own : event.user = me.id
      · simp only [route, change, own, if_true]
        exact ⟨⟨rfl, rfl, rfl, rfl⟩, trivial⟩
      · simp only [route, change, own, if_false]
        exact ⟨⟨rfl, rfl, rfl, rfl⟩, trivial⟩
  | some change' =>
      cases change' with
      | deleted timestamp =>
          simp only [route, change]
          exact ⟨⟨rfl, rfl, rfl, rfl⟩, trivial⟩
      | changed edited =>
          by_cases own : edited.user = me.id
          · simp only [route, change, own, if_true]
            exact ⟨⟨rfl, rfl, rfl, rfl⟩, trivial⟩
          · simp only [route, change, own, if_false]
            exact ⟨⟨rfl, rfl, rfl, rfl⟩, trivial⟩

theorem onMessage_agrees {first second : LoopState δ} (agrees : first.Agrees second)
    (event : MessageEvent) :
    (loop.onMessage first event).1.Agrees (loop.onMessage second event).1 ∧
      (loop.onMessage first event).2 = (loop.onMessage second event).2 := by
  have phases := agrees.phase
  have identities := agrees.identity
  cases known : second.identity with
  | none =>
      rw [known] at identities
      simp only [onMessage, known, identities]
      exact ⟨agrees, trivial⟩
  | some me =>
      rw [known] at identities
      simp only [onMessage, known, identities, phases]
      split
      · exact ⟨agrees, rfl⟩
      · split
        · exact ⟨agrees, rfl⟩
        · exact loop.route_agrees agrees me event

theorem onConnected_agrees {first second : LoopState δ} (agrees : first.Agrees second) :
    (loop.onConnected first).1.Agrees (loop.onConnected second).1 := by
  obtain ⟨phase, identity, connections, lookups, desk⟩ := first
  obtain ⟨phase', identity', connections', lookups', desk'⟩ := second
  obtain ⟨rfl, rfl, rfl, rfl⟩ := agrees
  cases identity with
  | some me => exact ⟨rfl, rfl, rfl, rfl⟩
  | none =>
      simp only [onConnected]
      cases loop.identities lookups with
      | ok me => exact ⟨rfl, rfl, rfl, rfl⟩
      | error error => exact ⟨rfl, rfl, rfl, rfl⟩

/-- An event does the same in two states that differ in the number of connections. -/
theorem handle_agrees {first second : LoopState δ} (agrees : first.Agrees second)
    (event : Event) :
    (loop.handle first event).1.Agrees (loop.handle second event).1 ∧
      callsOf (loop.handle first event).2.1 = callsOf (loop.handle second event).2.1 ∧
      (loop.handle first event).2.2 = (loop.handle second event).2.2 := by
  cases event with
  | connected =>
      refine ⟨loop.onConnected_agrees agrees, ?_, rfl⟩
      have quiet := (loop.onConnected_desk first).2
      have quiet' := (loop.onConnected_desk second).2
      simp [handle, LoopReport.entry, quiet, quiet']
  | message event =>
      obtain ⟨after, entries_eq⟩ := loop.onMessage_agrees agrees event
      refine ⟨after, ?_, rfl⟩
      simp [handle, LoopReport.entry, entries_eq]
  | latencyReport milliseconds => exact ⟨agrees, rfl, rfl⟩
  | transportError code message => exact ⟨agrees, rfl, rfl⟩
  | invalidCredentials =>
      exact ⟨⟨rfl, agrees.identity, agrees.identityLookups, agrees.desk⟩, rfl, rfl⟩
  | termination =>
      exact ⟨⟨rfl, agrees.identity, agrees.identityLookups, agrees.desk⟩, rfl, rfl⟩

theorem onMessage_ignored {state : LoopState δ} {event : MessageEvent}
    (ignored : Ignored state (.message event)) :
    (loop.onMessage state event).1 = state ∧ callsOf (loop.onMessage state event).2 = [] := by
  cases known : state.identity with
  | none => simp [onMessage, known, LoopReport.entry]
  | some me =>
      cases accepts : state.phase.acceptsMessages with
      | false => simp [onMessage, known, accepts, LoopReport.entry]
      | true =>
          by_cases reply : event.isReplyEcho
          · simp [onMessage, known, accepts, reply, LoopReport.entry]
          · have routed : loop.onMessage state event = loop.route me state event := by
              simp [onMessage, known, accepts, reply]
            rw [routed]
            cases ignored with
            | early _ unknown => simp [known] at unknown
            | echo _ nonzero => simp [MessageEvent.isReplyEcho, nonzero] at reply
            | ownMessage me' _ known' new own =>
                obtain rfl := Option.some.inj (known.symm.trans known')
                simp [route, new, own, LoopReport.entry]
            | ownEdit me' _ edited known' changed own =>
                obtain rfl := Option.some.inj (known.symm.trans known')
                simp [route, changed, own, LoopReport.entry]

theorem handle_ignored {state : LoopState δ} {event : Event} (ignored : Ignored state event) :
    state.Agrees (loop.handle state event).1 ∧
      callsOf (loop.handle state event).2.1 = [] ∧ (loop.handle state event).2.2 = none := by
  cases event with
  | latencyReport milliseconds => exact ⟨.refl state, rfl, rfl⟩
  | transportError code message => exact ⟨.refl state, rfl, rfl⟩
  | message event =>
      obtain ⟨state_eq, calls_eq⟩ := loop.onMessage_ignored ignored
      refine ⟨?_, ?_, rfl⟩
      · simp only [handle, state_eq]
        exact .refl state
      · simp [handle, LoopReport.entry, calls_eq]
  | connected =>
      cases ignored with
      | reconnected known =>
          obtain ⟨me, known⟩ := Option.ne_none_iff_exists'.mp known
          simp only [handle, onConnected, known]
          exact ⟨⟨rfl, known, rfl, rfl⟩, rfl, trivial⟩
  | invalidCredentials => cases ignored
  | termination => cases ignored

/-- Two runs over the events of a source, of which one lacks events that make no
difference, agree as long as they start in agreement. -/
theorem takeAll_thinned {state : LoopState δ} {events kept : List Event}
    (thinned : Thinned loop state events kept) {other : LoopState δ}
    (agrees : state.Agrees other) :
    (loop.takeAll state events).1.Agrees (loop.takeAll other kept).1 ∧
      callsOf (loop.takeAll state events).2.1 = callsOf (loop.takeAll other kept).2.1 ∧
      (loop.takeAll state events).2.2 = (loop.takeAll other kept).2.2 := by
  induction thinned generalizing other with
  | nil state => exact ⟨agrees, rfl, rfl⟩
  | keep state event later ih =>
      obtain ⟨after, calls_eq, ending_eq⟩ := loop.handle_agrees agrees event
      cases ends : (loop.handle state event).2.2 with
      | some ending =>
          rw [ends] at ending_eq
          rw [loop.takeAll_cons_of_some ends, loop.takeAll_cons_of_some ending_eq.symm]
          exact ⟨after, calls_eq, ends.trans ending_eq⟩
      | none =>
          rw [ends] at ending_eq
          obtain ⟨atEnd, rest_eq, last_eq⟩ := ih after
          rw [loop.takeAll_cons_of_none ends, loop.takeAll_cons_of_none ending_eq.symm]
          refine ⟨atEnd, ?_, last_eq⟩
          rw [callsOf_append, callsOf_append, calls_eq, rest_eq]
  | drop state event ignored later ih =>
      obtain ⟨same, nothing, goesOn⟩ := loop.handle_ignored ignored
      obtain ⟨atEnd, rest_eq, last_eq⟩ := ih (same.symm.trans agrees)
      rw [loop.takeAll_cons_of_none goesOn]
      refine ⟨atEnd, ?_, last_eq⟩
      rw [callsOf_append, nothing, List.nil_append]
      exact rest_eq

theorem run_of_some {state : LoopState δ} {events : List Event} {ending : Ending}
    (ends : (loop.takeAll state events).2.2 = some ending) :
    loop.run state events =
      ((loop.takeAll state events).1, (loop.takeAll state events).2.1, ending) := by
  cases taken : loop.takeAll state events with
  | mk next made =>
      obtain ⟨entries, last⟩ := made
      rw [taken] at ends
      subst ends
      simp [run, taken]

theorem run_of_none {state : LoopState δ} {events : List Event}
    (goesOn : (loop.takeAll state events).2.2 = none) :
    loop.run state events =
      ((loop.takeAll state events).1,
        (loop.takeAll state events).2.1 ++ [LoopReport.entry .sourceClosed],
        .sourceClosed) := by
  cases taken : loop.takeAll state events with
  | mk next made =>
      obtain ⟨entries, last⟩ := made
      rw [taken] at goesOn
      subst goesOn
      simp [run, taken]

/-- Leaving out events that make no difference when they arrive changes neither the calls
of a run nor how it ends, and the last state in no more than the number of connections. -/
theorem run_thinned (state : LoopState δ) {events kept : List Event}
    (thinned : Thinned loop state events kept) :
    callsOf (loop.run state kept).2.1 = callsOf (loop.run state events).2.1 ∧
      (loop.run state kept).1.desk = (loop.run state events).1.desk ∧
      (loop.run state kept).1.phase = (loop.run state events).1.phase ∧
      (loop.run state kept).1.identity = (loop.run state events).1.identity ∧
      (loop.run state kept).2.2 = (loop.run state events).2.2 := by
  obtain ⟨agrees, calls_eq, ending_eq⟩ := loop.takeAll_thinned thinned (.refl state)
  cases ends : (loop.takeAll state events).2.2 with
  | some ending =>
      rw [ends] at ending_eq
      rw [loop.run_of_some ends, loop.run_of_some ending_eq.symm]
      exact ⟨calls_eq.symm, agrees.desk.symm, agrees.phase.symm, agrees.identity.symm, rfl⟩
  | none =>
      rw [ends] at ending_eq
      rw [loop.run_of_none ends, loop.run_of_none ending_eq.symm]
      refine ⟨?_, agrees.desk.symm, agrees.phase.symm, agrees.identity.symm, rfl⟩
      rw [callsOf_append, callsOf_append, calls_eq]

theorem run_thinned_echo :
    let loop := echo MemoryPlatform.driver
    let start := LoopState.initial 8 8 MemoryPlatform.empty
    let posted := Event.message (.posted ⟨"general", "ann", "one", ⟨"1.0"⟩⟩)
    let own := Event.message (.posted ⟨"general", "bot", "one", ⟨"2.0"⟩⟩)
    (callsOf (loop.run start [.connected, posted]).2.1).length = 1 ∧
      callsOf (loop.run start [.connected, posted]).2.1 =
        callsOf (loop.run start
          [.latencyReport 5, posted, .connected, own, posted, .connected]).2.1 := by
  refine ⟨by decide, ?_⟩
  refine (run_thinned (echo MemoryPlatform.driver) _ ?_).1
  refine .drop _ _ (.latency 5) ?_
  refine .drop _ _ (.early _ rfl) ?_
  refine .keep _ _ ?_
  refine .drop _ _ (.ownMessage ⟨"bot", "Echo"⟩ _ rfl rfl rfl) ?_
  refine .keep _ _ ?_
  refine .drop _ _ (.reconnected (by decide)) ?_
  exact .nil _

end EventLoop

end ChatBot
