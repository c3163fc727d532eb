import ChatBot.Proofs.Dispatch.Requests
import ChatBot.Proofs.Session.Stages

/-!
# The state of the chat driver

Nothing happens to the state of the chat driver but calls.  Whatever the dispatcher, the loop or a
scheduled action makes of it, the calls that are reported are those of the driver, one after the
other from the state before to the state after.  So what the state has come to can be told from
the calls, by induction on them.
-/

namespace ChatBot

variable {δ : Type}

/-- The calls are those of the driver when it carries out their requests one after the other from
the state before, and they lead to the state after. -/
def ChatDriver.Performs (driver : ChatDriver δ) (before after : δ) (calls : List MadeCall) : Prop :=
  driver.performAll before (calls.map fun made => made.2.request) = (calls.map Prod.snd, after)

namespace ChatDriver

variable {driver : ChatDriver δ} {first second third : δ} {calls others : List MadeCall}

theorem performs_nil : driver.Performs first second [] ↔ first = second := by
  simp [Performs]

theorem performs_cons {made : MadeCall} :
    driver.Performs first second (made :: calls) ↔
      (driver.perform first made.2.request).1 = made.2 ∧
        driver.Performs (driver.perform first made.2.request).2 second calls := by
  simp [Performs, performAll_cons, Prod.ext_iff, and_assoc]

theorem Performs.refl (state : δ) : driver.Performs state state [] :=
  performs_nil.mpr rfl

theorem Performs.trans (start : driver.Performs first second calls)
    (finish : driver.Performs second third others) :
    driver.Performs first third (calls ++ others) := by
  unfold Performs at *
  rw [List.map_append, performAll_append, start, List.map_append, finish]

end ChatDriver

namespace Dispatcher

variable (dispatcher : Dispatcher δ) {desk : Desk δ}

theorem performs_take (tidy : desk.replies.Tidy) (step : DispatchStep) :
    dispatcher.driver.Performs desk.driver (dispatcher.take desk step).1.driver
      (callsOf (dispatcher.take desk step).2) := by
  have performed : ∀ {requests replies}, dispatcher.Makes desk step requests replies →
      dispatcher.driver.Performs desk.driver (dispatcher.take desk step).1.driver
        (callsOf (dispatcher.take desk step).2) := by
    intro requests replies makes
    simpa [ChatDriver.Performs, Function.comp_def] using makes.performed.2.2.2
  by_cases same : (step.previous desk.replies).length = (dispatcher.wanted desk step).length
  · exact performed (makes_changes tidy.toWellFormed same)
  · exact performed (makes_replacements tidy.toWellFormed same)

theorem performs_takeAll (tidy : desk.replies.Tidy) (steps : List DispatchStep) :
    dispatcher.driver.Performs desk.driver (dispatcher.takeAll desk steps).1.driver
      (callsOf (dispatcher.takeAll desk steps).2) := by
  induction steps generalizing desk with
  | nil => exact .refl desk.driver
  | cons step rest ih =>
      rw [takeAll_cons, callsOf_append]
      exact (dispatcher.performs_take tidy step).trans (ih (dispatcher.tidy_take tidy step))

end Dispatcher

namespace EventLoop

variable (loop : EventLoop δ) {state : LoopState δ}

theorem performs_handle (tidy : state.desk.replies.Tidy) (event : Event) :
    loop.dispatcher.driver.Performs state.desk.driver (loop.handle state event).1.desk.driver
      (callsOf (loop.handle state event).2.1) := by
  obtain ⟨desk_eq, calls_eq⟩ := loop.handle_desk state event
  rw [desk_eq, calls_eq]
  exact loop.dispatcher.performs_takeAll tidy _

theorem tidy_handle (tidy : state.desk.replies.Tidy) (event : Event) :
    (loop.handle state event).1.desk.replies.Tidy := by
  rw [(loop.handle_desk state event).1]
  exact loop.dispatcher.tidy_takeAll tidy _

theorem performs_loop_takeAll (tidy : state.desk.replies.Tidy) (events : List Event) :
    loop.dispatcher.driver.Performs state.desk.driver (loop.takeAll state events).1.desk.driver
      (callsOf (loop.takeAll state events).2.1) := by
  induction events generalizing state with
  | nil => exact .refl state.desk.driver
  | cons event rest ih =>
      have first := loop.performs_handle tidy event
      cases ends : (loop.handle state event).2.2 with
      | some ending =>
          rw [loop.takeAll_cons_of_some ends]
          exact first
      | none =>
          rw [loop.takeAll_cons_of_none ends, callsOf_append]
          exact first.trans (ih (loop.tidy_handle tidy event))

end EventLoop

theorem ScheduledAction.performs_postAll (driver : ChatDriver δ)
    (posts : List (String × OutgoingMessage)) (state : δ) :
    driver.Performs state (postAll driver posts state).1
      (callsOf (postAll driver posts state).2) := by
  induction posts generalizing state with
  | nil => exact .refl state
  | cons post rest ih =>
      obtain ⟨channel, message⟩ := post
      exact ChatDriver.performs_cons.mpr ⟨rfl, ih (driver.send state channel message).2⟩

theorem PlannedRun.performs_makeAll (driver : ChatDriver δ) (runs : List PlannedRun) (state : δ) :
    driver.Performs state (makeAll driver runs state).1
      (Moment.calls (makeAll driver runs state).2) := by
  induction runs generalizing state with
  | nil => exact .refl state
  | cons run rest ih =>
      have first := ScheduledAction.performs_postAll driver run.action.posts state
      rw [makeAll, Moment.calls_append, Moment.calls_allAt]
      exact first.trans (ih _)

namespace SessionState

theorem arrive_aside (state : SessionState δ) :
    state.arrive.1.loop = state.loop ∧ Moment.calls state.arrive.2 = [] := by
  unfold arrive
  split
  · split
    · exact ⟨rfl, rfl⟩
    · exact ⟨rfl, rfl⟩
  · exact ⟨rfl, rfl⟩
  · exact ⟨rfl, rfl⟩

end SessionState

namespace Session

variable (session : Session δ) {state : SessionState δ}

/-- The calls that are made when events are delivered lead from the one state of the chat driver to
the other. -/
theorem performs_deliver (tidy : state.loop.desk.replies.Tidy) (events : List Event) :
    session.platform.Performs state.loop.desk.driver
      (session.deliver state events).1.loop.desk.driver
      (Moment.calls (session.deliver state events).2.1) := by
  cases stage : state.stage with
  | running =>
      obtain ⟨loop_eq, calls_eq⟩ := session.deliver_loop stage events
      rw [loop_eq, calls_eq]
      exact session.loop.performs_loop_takeAll tidy events
  | stopping ending stopTime waiting =>
      simp only [deliver, stage, SessionState.loop_enqueue, SessionState.calls_enqueue]
      exact .refl _
  | stopped ending =>
      simp only [deliver, stage]
      exact .refl _

theorem performs_advance (state : SessionState δ) (milliseconds : Nat) :
    session.platform.Performs state.loop.desk.driver
      (session.advance state milliseconds).1.loop.desk.driver
      (Moment.calls (session.advance state milliseconds).2) := by
  rw [session.advance_eq state milliseconds]
  simp only [Moment.calls_append, (SessionState.arrive_aside _).1, (SessionState.arrive_aside _).2,
    List.append_nil]
  exact PlannedRun.performs_makeAll session.platform _ _

end Session

end ChatBot
