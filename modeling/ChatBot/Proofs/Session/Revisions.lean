import ChatBot.Proofs.Session.Ending
import ChatBot.Proofs.Session.Metadata

/-!
# Edits and deletions without a cache

A bot that keeps track of no replies has nothing to change and nothing to delete.  It takes
note of an edit or a deletion and does nothing about it: it does not answer again, asks for no
user and calls nobody.  So its calls are those of a session in which nobody edits or deletes a
message.  All that an edit or a deletion leaves behind is that the loop is processing, and
this makes no difference to it.
-/

namespace ChatBot

variable {δ : Type}

/-! ## Nothing is tracked -/

namespace ReplyCache

@[simp]
theorem store_without_room (key : MessageKey) (replies : List ReplyRecord) :
    store (.empty 0) key replies = .empty 0 := by
  unfold store
  split <;> rfl

end ReplyCache

theorem DispatchStep.previous_without_room (step : DispatchStep) :
    step.previous (.empty 0) = [] := by
  cases step <;> rfl

/-- Without tracked replies no call is aimed at a message that is already there. -/
theorem Reconciled.target?_eq_none {settings : ReplySettings} {source : MessageKey}
    {answers : List Answer} {calls : List MadeCall} {replies : List ReplyRecord}
    (reconciled : Reconciled settings source [] answers calls replies) :
    ∀ made ∈ calls, made.2.target? = none := by
  intro made member
  cases reconciled with
  | changed attempts same changes =>
      obtain rfl : attempts = [] := List.map_eq_nil_iff.mp changes
      simp at member
  | replaced deletions posts differ deleted posted =>
      obtain rfl : deletions = [] := List.map_eq_nil_iff.mp deleted
      obtain ⟨attempt, -, rfl⟩ := List.mem_map.mp member
      rfl

namespace Dispatcher

variable (dispatcher : Dispatcher δ)

/-- Nothing is tracked, and no call was aimed at a message that was already there. -/
def TracksNothing (cache : ReplyCache) (calls : List MadeCall) : Prop :=
  cache = .empty 0 ∧ ∀ made ∈ calls, made.2.target? = none

theorem maintains_tracksNothing : dispatcher.Maintains TracksNothing where
  take desk step history before := by
    obtain ⟨untracked, aimless⟩ := before
    have wellFormed : desk.replies.WellFormed := untracked ▸ Lru.wellFormed_empty 0
    obtain ⟨replies, stored, reconciled⟩ := dispatcher.take_reconciled wellFormed step
    rw [untracked, ReplyCache.store_without_room] at stored
    rw [untracked, step.previous_without_room] at reconciled
    refine ⟨stored, fun made member => ?_⟩
    exact (List.mem_append.mp member).elim (aimless made) (reconciled.target?_eq_none made)
  post cache history channel message result before := by
    obtain ⟨untracked, aimless⟩ := before
    refine ⟨untracked, fun made member => ?_⟩
    rcases List.mem_append.mp member with earlier | posted
    · exact aimless made earlier
    · rw [List.mem_singleton.mp posted]
      rfl

theorem handleEdited_untracked {desk : Desk δ} (untracked : desk.replies = .empty 0)
    (envelope : Envelope) :
    dispatcher.handleEdited desk envelope = (desk, [DispatchReport.entry .editIgnored]) := by
  simp [handleEdited, untracked, Lru.isEnabled, Lru.empty]

theorem handleDeleted_untracked {desk : Desk δ} (untracked : desk.replies = .empty 0)
    (key : MessageKey) :
    dispatcher.handleDeleted desk key = (desk, [DispatchReport.entry .nothingTracked]) := by
  obtain ⟨replies, users, driver⟩ := desk
  obtain rfl : replies = .empty 0 := untracked
  rfl

/-- The dispatcher with other actions, and others who know about users. -/
def withRules (registry : Registry) (users : UserFinder) : Dispatcher δ :=
  { dispatcher with registry, users }

end Dispatcher

/-! ## Edits and deletions make no difference -/

namespace Event

/-- Whether an event reports that a message was edited or deleted. -/
def isRevision : Event → Bool
  | message event => event.change.isSome
  | _ => false

def unrevised (events : List Event) : List Event :=
  events.filter (!·.isRevision)

theorem ending?_of_isRevision {event : Event} (revision : event.isRevision = true) :
    event.ending? = none := by
  cases event with
  | message event => rfl
  | _ => simp [isRevision] at revision

theorem mem_unrevised_of_ends {events : List Event} {event : Event} {ending : Ending}
    (member : event ∈ events) (ends : event.ending? = some ending) : event ∈ unrevised events := by
  refine List.mem_filter.mpr ⟨member, ?_⟩
  cases event <;> simp_all [isRevision, ending?]

theorem quiet_unrevised {events : List Event} (quiet : Quiet events) : Quiet (unrevised events) :=
  fun event member => quiet event (List.mem_of_mem_filter member)

theorem unrevised_cons_of_isRevision {event : Event} (revision : event.isRevision = true)
    (rest : List Event) : unrevised (event :: rest) = unrevised rest := by
  simp [unrevised, revision]

theorem unrevised_cons {event : Event} (plain : event.isRevision = false) (rest : List Event) :
    unrevised (event :: rest) = event :: unrevised rest := by
  simp [unrevised, plain]

end Event

namespace Phase

theorem process_process (phase : Phase) : phase.process.process = phase.process := by
  cases phase <;> rfl

theorem process_connect_process (phase : Phase) :
    phase.process.connect.process = phase.connect.process := by
  cases phase <;> rfl

@[simp]
theorem acceptsMessages_process (phase : Phase) :
    phase.process.acceptsMessages = phase.acceptsMessages := by
  cases phase <;> rfl

end Phase

/-- The state as it is once a message was taken up. -/
def LoopState.engaged (state : LoopState δ) : LoopState δ :=
  { state with phase := state.phase.process }

namespace LoopState

theorem engaged_engaged (state : LoopState δ) : state.engaged.engaged = state.engaged := by
  simp [engaged, Phase.process_process]

theorem desk_eq_of_engaged {first second : LoopState δ} (same : first.engaged = second.engaged) :
    first.desk = second.desk :=
  (LoopState.mk.inj same).2.2.2.2

end LoopState

namespace EventLoop

variable (loop : EventLoop δ)

/-- Two runs of the loop come to the same, but for whether a message was taken up yet. -/
def SameCourse (first second : LoopState δ × List Entry) : Prop :=
  first.1.engaged = second.1.engaged ∧ callsOf first.2 = callsOf second.2

theorem onConnected_engaged (state : LoopState δ) :
    SameCourse (loop.onConnected state.engaged) (loop.onConnected state) := by
  cases known : state.identity with
  | some me => simp [SameCourse, onConnected, LoopState.engaged, known, Phase.process_process]
  | none =>
      cases answer : loop.identities state.identityLookups with
      | ok me =>
          simp [SameCourse, onConnected, LoopState.engaged, known, answer, LoopReport.entry,
            Phase.process_connect_process]
      | error error =>
          simp [SameCourse, onConnected, LoopState.engaged, known, answer, Phase.process_process]

theorem route_engaged (me : Identity) (state : LoopState δ) (event : MessageEvent) :
    SameCourse (loop.route me state.engaged event) (loop.route me state event) := by
  simp only [SameCourse, route, LoopState.engaged]
  split
  · split <;> simp [Phase.process_process]
  · split <;> simp [Phase.process_process]
  · simp [Phase.process_process]

theorem onMessage_engaged (state : LoopState δ) (event : MessageEvent) :
    SameCourse (loop.onMessage state.engaged event) (loop.onMessage state event) := by
  have identity_eq : state.engaged.identity = state.identity := rfl
  have accepts_eq : state.engaged.phase.acceptsMessages = state.phase.acceptsMessages :=
    state.phase.acceptsMessages_process
  simp only [onMessage, identity_eq, accepts_eq]
  split
  · exact ⟨state.engaged_engaged, rfl⟩
  · split
    · exact ⟨state.engaged_engaged, rfl⟩
    · split
      · exact ⟨state.engaged_engaged, rfl⟩
      · exact loop.route_engaged _ state event

/-- Whether a message was taken up before makes no difference to what becomes of an event. -/
theorem handle_engaged (state : LoopState δ) (event : Event) :
    (loop.handle state.engaged event).1.engaged = (loop.handle state event).1.engaged ∧
      callsOf (loop.handle state.engaged event).2.1 = callsOf (loop.handle state event).2.1 := by
  cases event with
  | connected => exact loop.onConnected_engaged state
  | message event => exact loop.onMessage_engaged state event
  | latencyReport milliseconds => exact ⟨state.engaged_engaged, rfl⟩
  | transportError code message => exact ⟨state.engaged_engaged, rfl⟩
  | invalidCredentials => exact ⟨rfl, rfl⟩
  | termination => exact ⟨rfl, rfl⟩

theorem handle_of_engaged {first second : LoopState δ} (same : first.engaged = second.engaged)
    (event : Event) :
    (loop.handle first event).1.engaged = (loop.handle second event).1.engaged ∧
      callsOf (loop.handle first event).2.1 = callsOf (loop.handle second event).2.1 := by
  obtain ⟨state_eq, calls_eq⟩ := loop.handle_engaged first event
  obtain ⟨state_eq', calls_eq'⟩ := loop.handle_engaged second event
  rw [same] at state_eq calls_eq
  exact ⟨state_eq.symm.trans state_eq', calls_eq.symm.trans calls_eq'⟩

/-- An edit or a deletion leaves the loop as it was once a message was taken up, and makes no
call. -/
theorem handle_revision {state : LoopState δ} (untracked : state.desk.replies = .empty 0)
    {event : Event} (revision : event.isRevision = true) :
    (loop.handle state event).1.engaged = state.engaged ∧
      callsOf (loop.handle state event).2.1 = [] := by
  cases event with
  | message event =>
      obtain ⟨change, change_eq⟩ := Option.isSome_iff_exists.mp revision
      simp only [handle, onMessage]
      split
      · exact ⟨rfl, rfl⟩
      · split
        · exact ⟨rfl, rfl⟩
        · split
          · exact ⟨rfl, rfl⟩
          · cases change with
            | changed edited =>
                simp only [route, change_eq]
                split
                · exact ⟨rfl, rfl⟩
                · rw [loop.dispatcher.handleEdited_untracked untracked]
                  exact ⟨state.engaged_engaged, rfl⟩
            | deleted timestamp =>
                simp only [route, change_eq, loop.dispatcher.handleDeleted_untracked untracked]
                exact ⟨state.engaged_engaged, rfl⟩
  | _ => simp [Event.isRevision] at revision

/-- What becomes of an edit or a deletion does not depend on the actions of the bot, nor on what
is known about users. -/
theorem handle_revision_withRules {state : LoopState δ}
    (untracked : state.desk.replies = .empty 0) {event : Event}
    (revision : event.isRevision = true) (registry : Registry) (users : UserFinder) :
    EventLoop.handle ⟨loop.dispatcher.withRules registry users, loop.identities⟩ state event =
      loop.handle state event := by
  cases event with
  | message event =>
      obtain ⟨change, change_eq⟩ := Option.isSome_iff_exists.mp revision
      cases change <;>
        simp only [handle, onMessage, route, change_eq,
          Dispatcher.handleEdited_untracked _ untracked,
          Dispatcher.handleDeleted_untracked _ untracked]
  | _ => simp [Event.isRevision] at revision

theorem untracked_handle {state : LoopState δ} (untracked : state.desk.replies = .empty 0)
    (event : Event) : (loop.handle state event).1.desk.replies = .empty 0 := by
  have before : Dispatcher.TracksNothing state.desk.replies [] := ⟨untracked, by simp⟩
  have after := loop.dispatcher.maintains_tracksNothing.loop_takeAll [event] before
  rw [takeAll_singleton] at after
  exact after.1

/-- The loop comes to the same without the edits and the deletions among events. -/
theorem takeAll_unrevised (events : List Event) {first second : LoopState δ}
    (untracked : first.desk.replies = .empty 0) (same : first.engaged = second.engaged) :
    (loop.takeAll first events).1.engaged =
        (loop.takeAll second (Event.unrevised events)).1.engaged ∧
      callsOf (loop.takeAll first events).2.1 =
        callsOf (loop.takeAll second (Event.unrevised events)).2.1 := by
  induction events generalizing first second with
  | nil => exact ⟨same, rfl⟩
  | cons event rest ih =>
      have still := loop.untracked_handle untracked event
      cases revision : event.isRevision with
      | true =>
          -- Only the first of the two loops takes the event, and it stays where the second is.
          obtain ⟨left, silent⟩ := loop.handle_revision untracked revision
          have goesOn := Event.ending?_of_isRevision revision
          rw [loop.takeAll_cons_of_none ((loop.handle_ending first event).trans goesOn),
            callsOf_append, silent, List.nil_append, Event.unrevised_cons_of_isRevision revision]
          exact ih still (left.trans same)
      | false =>
          obtain ⟨after, calls⟩ := loop.handle_of_engaged same event
          rw [Event.unrevised_cons revision]
          cases ends : event.ending? with
          | some ending =>
              rw [loop.takeAll_cons_of_ends first ends, loop.takeAll_cons_of_ends second ends]
              exact ⟨after, calls⟩
          | none =>
              obtain ⟨last, others⟩ := ih still after
              rw [loop.takeAll_cons_of_none ((loop.handle_ending first event).trans ends),
                loop.takeAll_cons_of_none ((loop.handle_ending second event).trans ends),
                callsOf_append, callsOf_append, calls, others]
              exact ⟨last, rfl⟩

end EventLoop

/-! ## Sessions without edits and deletions -/

/-- The step without the edits and the deletions among the events that it sends. -/
def SessionStep.unrevised : SessionStep δ → SessionStep δ
  | events sent => events (Event.unrevised sent)
  | advance milliseconds => advance milliseconds
  | adjust change => adjust change

/-- The state as it is once a message was taken up. -/
def SessionState.engaged (state : SessionState δ) : SessionState δ :=
  { state with loop := state.loop.engaged }

namespace Session

variable (session : Session δ) {state state' : SessionState δ}

theorem advance_engaged (running : state.stage = .running) (milliseconds : Nat) :
    (session.advance state.engaged milliseconds).1 =
        (session.advance state milliseconds).1.engaged ∧
      (session.advance state.engaged milliseconds).2 = (session.advance state milliseconds).2 := by
  have running' : state.engaged.stage = .running := running
  rw [session.advance_running running, session.advance_running running']
  exact ⟨rfl, rfl⟩

/-- A step comes to the same without edits and deletions, as long as nothing is tracked. -/
theorem take_unrevised (running : state.stage = .running)
    (untracked : state.loop.desk.replies = .empty 0) (same : state.engaged = state'.engaged)
    (step : SessionStep δ) :
    (Event.Quiet step.sent →
        (session.take state step).1.engaged = (session.take state' step.unrevised).1.engaged) ∧
      (session.take state step).1.loop.desk = (session.take state' step.unrevised).1.loop.desk ∧
      Moment.calls (session.take state step).2.1 =
        Moment.calls (session.take state' step.unrevised).2.1 := by
  obtain ⟨loops, scheduler_eq, stage_eq⟩ := SessionState.mk.inj same
  have running' : state'.stage = .running := stage_eq.symm.trans running
  cases step with
  | events sent =>
      obtain ⟨after, calls⟩ := session.loop.takeAll_unrevised sent untracked loops
      obtain ⟨loop_eq, calls_eq⟩ := session.deliver_loop running sent
      obtain ⟨loop_eq', calls_eq'⟩ := session.deliver_loop running' (Event.unrevised sent)
      refine ⟨fun quiet => ?_, ?_, ?_⟩
      · have goesOn : Event.Quiet sent := quiet
        simp only [take, SessionStep.unrevised, session.deliver_quiet running goesOn,
          session.deliver_quiet running' (Event.quiet_unrevised goesOn), SessionState.engaged,
          after, scheduler_eq, stage_eq]
      · simp only [take, SessionStep.unrevised, loop_eq, loop_eq']
        exact LoopState.desk_eq_of_engaged after
      · simp only [take, SessionStep.unrevised, calls_eq, calls_eq', calls]
  | advance milliseconds =>
      obtain ⟨after, moments⟩ := session.advance_engaged running milliseconds
      obtain ⟨after', moments'⟩ := session.advance_engaged running' milliseconds
      rw [same] at after moments
      have states : (session.advance state milliseconds).1.engaged =
          (session.advance state' milliseconds).1.engaged := after.symm.trans after'
      refine ⟨fun _ => states, ?_, ?_⟩
      · exact LoopState.desk_eq_of_engaged (SessionState.mk.inj states).1
      · simp only [take, SessionStep.unrevised, ← moments, ← moments']
  | adjust change =>
      have states := congrArg (SessionState.mapDriver change) same
      exact ⟨fun _ => states, congrArg (·.loop.desk) states, rfl⟩

/-- A session makes the same calls and looks up the same users without edits and deletions, as
long as nothing is tracked. -/
theorem takeAll_unrevised (steps : List (SessionStep δ)) (running : state.stage = .running)
    (untracked : state.loop.desk.replies = .empty 0) (same : state.engaged = state'.engaged) :
    (session.takeAll state steps).1.loop.desk.users =
        (session.takeAll state' (steps.map SessionStep.unrevised)).1.loop.desk.users ∧
      Moment.calls (session.takeAll state steps).2 =
        Moment.calls (session.takeAll state' (steps.map SessionStep.unrevised)).2 := by
  induction steps generalizing state state' with
  | nil =>
      have desks := LoopState.desk_eq_of_engaged (SessionState.mk.inj same).1
      exact ⟨congrArg Desk.users desks, rfl⟩
  | cons step rest ih =>
      have running' : state'.stage = .running := (SessionState.mk.inj same).2.2.symm.trans running
      obtain ⟨onwards, desks, calls⟩ := session.take_unrevised running untracked same step
      rw [List.map_cons, takeAll_cons, takeAll_cons, Moment.calls_append, Moment.calls_append,
        calls]
      rcases session.take_quiet_or_ends running step with
        ⟨quiet, still⟩ | ⟨early, event, late, ending, sent_eq, -, ends, ended⟩
      · have before : Dispatcher.TracksNothing state.loop.desk.replies [] := ⟨untracked, by simp⟩
        have after := session.loop.dispatcher.maintains_tracksNothing.session_take step before
        obtain ⟨users, others⟩ := ih still after.1 (onwards quiet)
        exact ⟨users, congrArg _ others⟩
      · -- What ends one of the loops is no edit and no deletion, so it ends the other as well.
        rcases session.take_quiet_or_ends running' step.unrevised with
          ⟨quiet, -⟩ | ⟨-, -, -, ending', -, -, -, ended'⟩
        · have inside : event ∈ step.unrevised.sent := by
            cases step with
            | events sent =>
                exact Event.mem_unrevised_of_ends (by simp [show sent = _ from sent_eq]) ends
            | advance milliseconds => simp [SessionStep.sent] at sent_eq
            | adjust change => simp [SessionStep.sent] at sent_eq
          have goesOn := quiet event inside
          rw [ends] at goesOn
          cases goesOn
        · obtain ⟨-, aside, nothing⟩ := session.takeAll_ended ended rest
          obtain ⟨-, aside', nothing'⟩ :=
            session.takeAll_ended ended' (rest.map SessionStep.unrevised)
          exact ⟨aside.users.trans ((congrArg Desk.users desks).trans aside'.users.symm),
            by rw [nothing, nothing']⟩

/-- A bot is set up without room for replies, and given any plugins.  Whatever happens in its
sessions and whatever fails, it changes and deletes no message and keeps track of no replies;
it makes the same calls, and looks up the same users, as in the session without the edits and
the deletions.  An edit or a deletion leaves its desk alone and would be met in the same way
with other actions and with other users: no action is asked about it, and no user is looked
up. -/
theorem revisions_ignored (platform : ChatDriver δ) (users : UserFinder)
    (identities : IdentityFinder) {config : Config} {bot : Bot}
    (valid : Bot.ofConfig config = .ok bot) (off : config.responseCacheSize = 0)
    (plugins : List Plugin) (driver : δ) (steps : List (SessionStep δ)) :
    let started := Session.start (bot.registerAll plugins).1 platform users identities driver
    let session := started.1
    let begun := started.2.1
    let whole := session.run begun steps
    let plain := session.run begun (steps.map SessionStep.unrevised)
    let reached := (session.takeAll begun steps).1.loop
    (∀ made ∈ Moment.calls whole.2, made.2.target? = none) ∧
      whole.1.loop.desk.replies = .empty 0 ∧
      Moment.calls whole.2 = Moment.calls plain.2 ∧
      whole.1.loop.desk.users = plain.1.loop.desk.users ∧
      ∀ event, event.isRevision = true →
        (session.loop.handle reached event).1.desk = reached.desk ∧
          callsOf (session.loop.handle reached event).2.1 = [] ∧
          ∀ registry users', EventLoop.handle
              ⟨session.loop.dispatcher.withRules registry users', session.loop.identities⟩
              reached event =
            session.loop.handle reached event := by
  intro started session begun whole plain reached
  have capacity : (bot.registerAll plugins).1.responseCapacity = 0 := by
    obtain ⟨-, -, valid'⟩ := Bot.of_ofConfig valid
    rw [Config.responseCapacity, off] at valid'
    rw [(bot.registerAll_actions plugins).2.2.2.2]
    exact (Except.ok.inj valid').symm
  have untracked : begun.loop.desk.replies = .empty 0 := congrArg Lru.empty capacity
  obtain ⟨-, whole_loop, whole_calls⟩ := session.run_eq begun steps
  obtain ⟨-, plain_loop, plain_calls⟩ :=
    session.run_eq begun (steps.map SessionStep.unrevised)
  obtain ⟨users_eq, calls_eq⟩ := session.takeAll_unrevised steps rfl untracked rfl
  have before : Dispatcher.TracksNothing begun.loop.desk.replies [] := ⟨untracked, by simp⟩
  obtain ⟨still, aimless⟩ :=
    session.loop.dispatcher.maintains_tracksNothing.session_takeAll steps before
  refine ⟨?_, ?_, ?_, ?_, fun event revision => ?_⟩
  · rw [whole_calls]
    exact aimless
  · rw [whole_loop]
    exact still
  · rw [whole_calls, plain_calls]
    exact calls_eq
  · rw [whole_loop, plain_loop]
    exact users_eq
  · obtain ⟨left, silent⟩ := session.loop.handle_revision still revision
    exact ⟨LoopState.desk_eq_of_engaged left, silent,
      session.loop.handle_revision_withRules still revision⟩

/-- A bot without room for replies that repeats what it hears: a post that the platform refuses,
one that it accepts, an edit and a deletion of either, and another post. -/
theorem revisions_ignored_echo :
    let echo := { Action.new .hear "anything" with
      predicate := some fun _ _ => true
      answer := some fun envelope => .done (some (.ofText envelope.text)) }
    let config : Config := { Config.default with responseCacheSize := 0 }
    let bot := (Bot.registerAll ⟨config, .empty, 0, 1000⟩ [⟨"echo", [], [echo], []⟩]).1
    let driver := Scripted.driver [] MemoryPlatform.driver
    let started := Session.start bot driver (.ofTable []) (fun _ => .ok ⟨"bot", "Bot"⟩)
      ⟨[some .notConnected], .empty⟩
    let posted := fun time => Event.message (.posted ⟨"general", "ann", "one", ⟨time⟩⟩)
    let edited := fun time =>
      Event.message (.changed "general" ⟨"4.0"⟩ ⟨"general", "ann", "two", ⟨time⟩⟩)
    let deleted := fun time => Event.message (.deleted "general" ⟨"5.0"⟩ ⟨time⟩)
    let steps := [.events [.connected, posted "1.0", edited "1.0", posted "2.0", edited "2.0"],
      .events [deleted "1.0", deleted "2.0", posted "3.0"]]
    let plain := [.events [.connected, posted "1.0", posted "2.0"], .events [posted "3.0"]]
    (Moment.calls (started.1.run started.2.1 steps).2).length = 3 ∧
      Moment.calls (started.1.run started.2.1 steps).2 =
        Moment.calls (started.1.run started.2.1 plain).2 := by
  intro echo config bot driver started posted edited deleted steps plain
  obtain ⟨-, -, calls, -⟩ := revisions_ignored driver (.ofTable [])
    (fun _ => .ok ⟨"bot", "Bot"⟩) (rfl : Bot.ofConfig config = .ok _) rfl
    [⟨"echo", [], [echo], []⟩] ⟨[some .notConnected], .empty⟩ steps
  exact ⟨by decide +kernel, calls⟩

end Session

end ChatBot
