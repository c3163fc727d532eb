import ChatBot.Proofs.Loop.Dispatched

/-!
# What a session keeps true

The event loop hands messages over to the dispatcher, and all that happens in a
session besides are posts of scheduled actions.  Those leave the tracked replies
alone, whether they are made while time passes or while the session stops.  So what
a dispatcher maintains holds after every step of a session.
-/

namespace ChatBot

/-- Whether a call is a post of a scheduled action. -/
def isScheduledSend : MadeCall → Bool
  | (.schedule, .send _ _ _) => true
  | _ => false

variable {δ : Type}

namespace Moment

/-- The calls among moments. -/
def calls (moments : List Moment) : List MadeCall :=
  callsOf (moments.map (·.entry))

@[simp]
theorem calls_nil : calls [] = [] :=
  rfl

@[simp]
theorem calls_append (first second : List Moment) :
    calls (first ++ second) = calls first ++ calls second := by
  simp [calls]

@[simp]
theorem calls_allAt (time : Nat) (entries : List Entry) :
    calls (allAt time entries) = callsOf entries := by
  simp [calls, allAt, Function.comp_def]

end Moment

theorem ScheduledAction.isScheduledSend_postAll (driver : ChatDriver δ)
    (posts : List (String × OutgoingMessage)) (state : δ) :
    ∀ made ∈ callsOf (postAll driver posts state).2, isScheduledSend made := by
  induction posts generalizing state with
  | nil => simp [postAll]
  | cons post rest ih =>
      obtain ⟨channel, message⟩ := post
      intro made member
      rcases List.mem_cons.mp member with rfl | later
      · rfl
      · exact ih _ made later

theorem PlannedRun.isScheduledSend_makeAll (driver : ChatDriver δ) (runs : List PlannedRun)
    (state : δ) : ∀ made ∈ Moment.calls (makeAll driver runs state).2, isScheduledSend made := by
  induction runs generalizing state with
  | nil => simp [makeAll]
  | cons run rest ih =>
      intro made member
      rw [makeAll, Moment.calls_append, Moment.calls_allAt, List.mem_append] at member
      rcases member with first | later
      · exact ScheduledAction.isScheduledSend_postAll driver run.action.posts state made first
      · exact ih _ made later

/-- The state of a session before its first step. -/
def SessionState.initial (responses users : Nat) (driver : δ) (scheduler : Scheduler) :
    SessionState δ :=
  ⟨.initial responses users driver, scheduler, .running⟩

/-- A session got from one state to another without touching its loop, but for the state
of the chat driver, and made no calls but posts of scheduled actions. -/
structure PostsOnly (before after : SessionState δ) (moments : List Moment) : Prop where
  loop : ∃ change : δ → δ, after.loop = before.loop.mapDriver change
  scheduled : ∀ made ∈ Moment.calls moments, isScheduledSend made

namespace PostsOnly

theorem replies {before after : SessionState δ} {moments : List Moment}
    (posts : PostsOnly before after moments) :
    after.loop.desk.replies = before.loop.desk.replies := by
  obtain ⟨change, loop_eq⟩ := posts.loop
  rw [loop_eq]
  rfl

theorem users {before after : SessionState δ} {moments : List Moment}
    (posts : PostsOnly before after moments) :
    after.loop.desk.users = before.loop.desk.users := by
  obtain ⟨change, loop_eq⟩ := posts.loop
  rw [loop_eq]
  rfl

theorem refl (state : SessionState δ) : PostsOnly state state [] where
  loop := ⟨id, rfl⟩
  scheduled := by simp

theorem trans {first second third : SessionState δ} {moments others : List Moment}
    (start : PostsOnly first second moments) (finish : PostsOnly second third others) :
    PostsOnly first third (moments ++ others) where
  loop := by
    obtain ⟨change, loop_eq⟩ := start.loop
    obtain ⟨change', loop_eq'⟩ := finish.loop
    exact ⟨change' ∘ change, by rw [loop_eq', loop_eq]; rfl⟩
  scheduled made member := by
    rw [Moment.calls_append, List.mem_append] at member
    exact member.elim (start.scheduled made) (finish.scheduled made)

theorem finish (state : SessionState δ) (ending : Ending) :
    PostsOnly state (state.finish ending).1 (state.finish ending).2 where
  loop := ⟨id, rfl⟩
  scheduled := by simp [SessionState.finish, Moment.calls, LoopReport.entry]

theorem enqueue (state : SessionState δ) (count : Nat) :
    PostsOnly state (state.enqueue count).1 (state.enqueue count).2.1 := by
  cases stage : state.stage with
  | running => simpa [SessionState.enqueue, stage] using refl state
  | stopped ending => simpa [SessionState.enqueue, stage] using refl state
  | stopping ending stopTime waiting =>
      by_cases room : waiting + count ≤ channelCapacity
      · simp only [SessionState.enqueue, stage, room, if_true]
        exact ⟨⟨id, rfl⟩, by simp⟩
      · simp only [SessionState.enqueue, stage, room, if_false]
        exact ⟨⟨id, rfl⟩, (finish (state.atTime stopTime) ending).scheduled⟩

theorem stop (state : SessionState δ) (ending : Ending) :
    PostsOnly state (state.stop ending).1 (state.stop ending).2 := by
  dsimp only [SessionState.stop]
  split
  · exact ⟨⟨id, rfl⟩, (finish _ ending).scheduled⟩
  · exact ⟨⟨id, rfl⟩, by simp⟩

theorem advance (session : Session δ) (state : SessionState δ) (milliseconds : Nat) :
    PostsOnly state (session.advance state milliseconds).1
      (session.advance state milliseconds).2 := by
  have made := PlannedRun.isScheduledSend_makeAll session.platform
    (state.scheduler.runsUpTo (state.now + milliseconds)) state.loop.desk.driver
  unfold Session.advance
  dsimp only [Scheduler.advance]
  split
  · exact ⟨⟨fun _ => _, rfl⟩, made⟩
  · exact ⟨⟨fun _ => _, rfl⟩, made⟩
  · split
    · refine ⟨⟨fun _ => _, rfl⟩, ?_⟩
      intro call member
      rw [Moment.calls_append, List.mem_append] at member
      exact member.elim (made call) ((finish _ _).scheduled call)
    · exact ⟨⟨fun _ => _, rfl⟩, made⟩

end PostsOnly

namespace Dispatcher.Maintains

variable {dispatcher : Dispatcher δ} {holds : ReplyCache → List MadeCall → Prop}

theorem postAll (maintains : dispatcher.Maintains holds) {cache : ReplyCache}
    {calls : List MadeCall} (scheduled : ∀ made ∈ calls, isScheduledSend made)
    {history : List MadeCall} (before : holds cache history) :
    holds cache (history ++ calls) := by
  induction calls generalizing history with
  | nil => simpa using before
  | cons made rest ih =>
      rw [List.append_cons]
      apply ih fun later member => scheduled later (List.mem_cons_of_mem made member)
      match made, scheduled made (List.mem_cons_self ..) with
      | (.schedule, .send channel message result), _ =>
        exact maintains.post cache history channel message result before

theorem postsOnly (maintains : dispatcher.Maintains holds) {state next : SessionState δ}
    {moments : List Moment} (posts : PostsOnly state next moments) {history : List MadeCall}
    (before : holds state.loop.desk.replies history) :
    holds next.loop.desk.replies (history ++ Moment.calls moments) := by
  rw [posts.replies]
  exact maintains.postAll posts.scheduled before

variable {session : Session δ}

theorem deliver (maintains : session.loop.dispatcher.Maintains holds) (events : List Event)
    {state : SessionState δ} {history : List MadeCall}
    (before : holds state.loop.desk.replies history) :
    holds (session.deliver state events).1.loop.desk.replies
      (history ++ Moment.calls (session.deliver state events).2.1) := by
  cases stage : state.stage with
  | stopped ending => simpa [Session.deliver, stage] using before
  | stopping ending stopTime waiting =>
      have after := maintains.postsOnly (PostsOnly.enqueue state events.length) before
      simpa [Session.deliver, stage] using after
  | running =>
      have looped := maintains.loop_takeAll events before
      cases taken : session.loop.takeAll state.loop events with
      | mk loop made =>
          obtain ⟨entries, ending⟩ := made
          rw [taken] at looped
          cases ending with
          | none => simpa [Session.deliver, stage, taken] using looped
          | some ending =>
              -- The loop has ended: from here on only scheduled actions post.
              have stopped := PostsOnly.stop { state with loop } ending
              simp only [Session.deliver, stage, taken]
              split
              · have after := maintains.postsOnly stopped looped
                simpa [stage] using after
              · have queued := PostsOnly.enqueue (SessionState.stop { state with loop } ending).1
                  (Event.afterEnding events)
                have after := maintains.postsOnly (stopped.trans queued) looped
                simpa [stage] using after

theorem session_take (maintains : session.loop.dispatcher.Maintains holds)
    (step : SessionStep δ) {state : SessionState δ} {history : List MadeCall}
    (before : holds state.loop.desk.replies history) :
    holds (session.take state step).1.loop.desk.replies
      (history ++ Moment.calls (session.take state step).2.1) := by
  cases step with
  | events events => exact maintains.deliver events before
  | advance milliseconds =>
      exact maintains.postsOnly (PostsOnly.advance session state milliseconds) before
  | adjust change =>
      rw [← List.append_nil history] at before
      exact before

/-- What a dispatcher maintains holds after every session. -/
theorem session_takeAll (maintains : session.loop.dispatcher.Maintains holds)
    (steps : List (SessionStep δ)) {state : SessionState δ} {history : List MadeCall}
    (before : holds state.loop.desk.replies history) :
    holds (session.takeAll state steps).1.loop.desk.replies
      (history ++ Moment.calls (session.takeAll state steps).2) := by
  induction steps generalizing state history with
  | nil => simpa [Session.takeAll] using before
  | cons step rest ih =>
      have later := ih (maintains.session_take step before)
      simpa [Session.takeAll] using later

end Dispatcher.Maintains

end ChatBot
