import ChatBot.Proofs.Dispatch.Steps
import ChatBot.Session

/-!
# What reaches the dispatcher

Of all that happens to a session, only some message events reach the dispatcher,
each as one step, and only scheduled actions post on their own.  So whatever the
steps of a dispatcher and the posts of scheduled actions preserve is preserved by
every session.
-/

namespace ChatBot

variable {δ : Type}

namespace MessageEvent

/-- What a dispatcher is told about a message event, unless the message is the
bot's own. -/
def step? (event : MessageEvent) (me : Identity) : Option DispatchStep :=
  match event.change with
  | none => if event.user = me.id then none else some (.posted (Envelope.of event.message me))
  | some (.changed edited) =>
    if edited.user = me.id then none
    else some (.edited (Envelope.of (EventLoop.editedMessage event edited) me))
  | some (.deleted timestamp) => some (.deleted ⟨event.channel, timestamp⟩)

end MessageEvent

namespace LoopState

/-- What the dispatcher is told when the loop takes an event: one thing or
nothing. -/
def dispatched (state : LoopState δ) : Event → List DispatchStep
  | .message event =>
    match state.identity with
    | none => []
    | some me =>
      if state.phase.acceptsMessages && !event.isReplyEcho then (event.step? me).toList else []
  | _ => []

end LoopState

namespace EventLoop

variable (loop : EventLoop δ)

theorem route_desk (me : Identity) (state : LoopState δ) (event : MessageEvent) :
    (loop.route me state event).1.desk =
        (loop.dispatcher.takeAll state.desk (event.step? me).toList).1 ∧
      callsOf (loop.route me state event).2 =
        callsOf (loop.dispatcher.takeAll state.desk (event.step? me).toList).2 := by
  cases change : event.change with
  | none =>
      by_cases own : event.user = me.id
      · simp [route, MessageEvent.step?, change, own, LoopReport.entry]
      · simp [route, MessageEvent.step?, change, own, Dispatcher.takeAll_cons, Dispatcher.take]
  | some change' =>
      cases change' with
      | deleted timestamp =>
          simp [route, MessageEvent.step?, change, Dispatcher.takeAll_cons, Dispatcher.take]
      | changed edited =>
          by_cases own : edited.user = me.id
          · simp [route, MessageEvent.step?, change, own, LoopReport.entry]
          · simp [route, MessageEvent.step?, change, own, Dispatcher.takeAll_cons,
              Dispatcher.take]

theorem onConnected_desk (state : LoopState δ) :
    (loop.onConnected state).1.desk = state.desk ∧ callsOf (loop.onConnected state).2 = [] := by
  cases known : state.identity with
  | some me => simp [onConnected, known, LoopReport.entry]
  | none =>
      cases answer : loop.identities state.identityLookups with
      | ok me => simp [onConnected, known, answer, LoopReport.entry]
      | error error => simp [onConnected, known, answer, LoopReport.entry]

/-- Taking an event does to the desk what the dispatcher is told to do. -/
theorem handle_desk (state : LoopState δ) (event : Event) :
    (loop.handle state event).1.desk =
        (loop.dispatcher.takeAll state.desk (state.dispatched event)).1 ∧
      callsOf (loop.handle state event).2.1 =
        callsOf (loop.dispatcher.takeAll state.desk (state.dispatched event)).2 := by
  cases event with
  | connected => exact loop.onConnected_desk state
  | message event =>
      cases known : state.identity with
      | none => simp [handle, onMessage, LoopState.dispatched, known, LoopReport.entry]
      | some me =>
          cases accepts : state.phase.acceptsMessages with
          | false =>
              simp [handle, onMessage, LoopState.dispatched, known, accepts, LoopReport.entry]
          | true =>
              cases echo : event.isReplyEcho with
              | true =>
                  simp [handle, onMessage, LoopState.dispatched, known, accepts, echo,
                    LoopReport.entry]
              | false =>
                  have routed := loop.route_desk me state event
                  simpa [handle, onMessage, LoopState.dispatched, known, accepts, echo,
                    LoopReport.entry] using routed
  | latencyReport milliseconds => exact ⟨rfl, rfl⟩
  | transportError code message => exact ⟨rfl, rfl⟩
  | invalidCredentials => exact ⟨rfl, rfl⟩
  | termination => exact ⟨rfl, rfl⟩

theorem takeAll_cons_of_some {state : LoopState δ} {event : Event} {ending : Ending}
    (ends : (loop.handle state event).2.2 = some ending) (rest : List Event) :
    loop.takeAll state (event :: rest) = loop.handle state event := by
  cases taken : loop.handle state event with
  | mk next made =>
      obtain ⟨entries, last⟩ := made
      rw [taken] at ends
      subst ends
      simp [takeAll, taken]

theorem takeAll_cons_of_none {state : LoopState δ} {event : Event}
    (goesOn : (loop.handle state event).2.2 = none) (rest : List Event) :
    loop.takeAll state (event :: rest) =
      ((loop.takeAll (loop.handle state event).1 rest).1,
        (loop.handle state event).2.1 ++ (loop.takeAll (loop.handle state event).1 rest).2.1,
        (loop.takeAll (loop.handle state event).1 rest).2.2) := by
  cases taken : loop.handle state event with
  | mk next made =>
      obtain ⟨entries, last⟩ := made
      rw [taken] at goesOn
      subst goesOn
      simp [takeAll, taken]

/-- A loop for a bot that answers every message with its text. -/
def echo (driver : ChatDriver δ) : EventLoop δ :=
  ⟨.echo driver, fun _ => .ok ⟨"bot", "Echo"⟩⟩

end EventLoop

/-- What the steps of a dispatcher and the posts of scheduled actions keep true of the
tracked replies and the calls so far. -/
structure Dispatcher.Maintains (dispatcher : Dispatcher δ)
    (holds : ReplyCache → List MadeCall → Prop) : Prop where
  take : ∀ desk step history, holds desk.replies history →
    holds (dispatcher.take desk step).1.replies
      (history ++ callsOf (dispatcher.take desk step).2)
  post : ∀ cache history channel message result, holds cache history →
    holds cache (history ++ [(.schedule, .send channel message result)])

namespace Dispatcher.Maintains

variable {dispatcher : Dispatcher δ} {holds : ReplyCache → List MadeCall → Prop}

theorem takeAll (maintains : dispatcher.Maintains holds) (steps : List DispatchStep)
    {desk : Desk δ} {history : List MadeCall} (before : holds desk.replies history) :
    holds (dispatcher.takeAll desk steps).1.replies
      (history ++ callsOf (dispatcher.takeAll desk steps).2) := by
  induction steps generalizing desk history with
  | nil => simpa using before
  | cons step rest ih =>
      have later := ih (maintains.take desk step history before)
      simpa [Dispatcher.takeAll_cons] using later

theorem loop_takeAll {loop : EventLoop δ} (maintains : loop.dispatcher.Maintains holds)
    (events : List Event) {state : LoopState δ} {history : List MadeCall}
    (before : holds state.desk.replies history) :
    holds (loop.takeAll state events).1.desk.replies
      (history ++ callsOf (loop.takeAll state events).2.1) := by
  induction events generalizing state history with
  | nil => simpa [EventLoop.takeAll] using before
  | cons event rest ih =>
      obtain ⟨desk_eq, calls_eq⟩ := loop.handle_desk state event
      have after := maintains.takeAll (state.dispatched event) before
      rw [← desk_eq, ← calls_eq] at after
      cases ends : (loop.handle state event).2.2 with
      | some ending =>
          rw [loop.takeAll_cons_of_some ends]
          exact after
      | none =>
          rw [loop.takeAll_cons_of_none ends, callsOf_append, ← List.append_assoc]
          exact ih after

end Dispatcher.Maintains

end ChatBot
