import ChatBot.Platform.Memory
import ChatBot.Proofs.Session.Course

/-!
# Who the bot is, and how far its loop has come

A bot that connects asks who it is until it is told, and keeps to the first answer that
tells it.  So what it knows of itself follows from the number of its connections, and the
phase of its loop from the events that the loop has taken: the loop is disconnected as long
as the bot does not know itself, connected until the first message is handed over to the
dispatcher, and processing from then on.
-/

namespace ChatBot

namespace IdentityFinder

/-- Who a bot knows itself to be after so many connections: what the first answer says that
was not an error. -/
def resolved (identities : IdentityFinder) (connections : Nat) : Option Identity :=
  (List.range connections).findSome? fun number => (identities number).toOption

/-- How often a bot has asked after so many connections: at each before which it did not
know the answer. -/
def asked (identities : IdentityFinder) (connections : Nat) : Nat :=
  (List.range connections).countP fun earlier => (identities.resolved earlier).isNone

variable (identities : IdentityFinder)

theorem resolved_succ (connections : Nat) :
    identities.resolved (connections + 1) =
      (identities.resolved connections).or (identities connections).toOption := by
  simp [resolved, List.range_succ, List.findSome?_append]

theorem asked_succ (connections : Nat) :
    identities.asked (connections + 1) =
      identities.asked connections + if (identities.resolved connections).isNone then 1 else 0 := by
  simp [asked, List.range_succ, List.countP_append, List.countP_singleton]

variable {identities}

/-- A bot that does not know itself has asked at every connection. -/
theorem asked_of_unresolved {connections : Nat}
    (unknown : identities.resolved connections = none) : identities.asked connections = connections := by
  induction connections with
  | zero => rfl
  | succ connections ih =>
      have earlier : identities.resolved connections = none := by
        rw [resolved_succ, Option.or_eq_none_iff] at unknown
        exact unknown.1
      rw [asked_succ, ih earlier, earlier]
      rfl

end IdentityFinder

namespace MessageEvent

/-- Whether a message event is for the bot to take up: a message or an edit of somebody
else, or a deletion, and no echo of a reply. -/
def isFor (me : Identity) (event : MessageEvent) : Bool :=
  event.replyTo = 0 &&
    match event.change with
    | none => event.user ≠ me.id
    | some (.changed edited) => edited.user ≠ me.id
    | some (.deleted _) => true

end MessageEvent

/-- A message was handed over to the dispatcher: it came when the bot knew itself, and was
for the bot to take up. -/
def Routed (identities : IdentityFinder) (events : List Event) : Prop :=
  ∃ before event after me, events = before ++ .message event :: after ∧
    identities.resolved (before.count .connected) = some me ∧ event.isFor me

theorem not_routed_nil (identities : IdentityFinder) : ¬ Routed identities [] := by
  rintro ⟨before, event, after, me, split, -⟩
  simp at split

theorem routed_concat {identities : IdentityFinder} {events : List Event} {event : Event} :
    Routed identities (events ++ [event]) ↔
      Routed identities events ∨ ∃ message me, event = .message message ∧
        identities.resolved (events.count .connected) = some me ∧ message.isFor me := by
  constructor
  · rintro ⟨before, message, after, me, split, known, mine⟩
    rcases List.eq_nil_or_concat after with rfl | ⟨after, last, rfl⟩
    · obtain ⟨rfl, last⟩ := List.append_inj' split rfl
      exact Or.inr ⟨message, me, (List.cons.inj last).1, known, mine⟩
    · rw [List.concat_eq_append, ← List.cons_append, ← List.append_assoc] at split
      exact Or.inl ⟨before, message, after, me, (List.append_inj' split rfl).1, known, mine⟩
  · rintro (⟨before, message, after, me, rfl, known, mine⟩ | ⟨message, me, rfl, known, mine⟩)
    · exact ⟨before, message, after ++ [event], me, by simp, known, mine⟩
    · exact ⟨events, message, [], me, rfl, known, mine⟩

/-! ## The phase of a loop -/

namespace Phase

/-- The place of a phase in the order in which a loop passes through them. -/
def rank : Phase → Nat
  | disconnected => 0
  | connected => 1
  | processing => 2
  | terminated => 3

theorem rank_le_connect (phase : Phase) : phase.rank ≤ phase.connect.rank := by
  cases phase <;> decide

theorem rank_le_process (phase : Phase) : phase.rank ≤ phase.process.rank := by
  cases phase <;> decide

theorem rank_le_terminated (phase : Phase) : phase.rank ≤ terminated.rank := by
  cases phase <;> decide

theorem eq_disconnected_of_rank_le {first second : Phase} (le : first.rank ≤ second.rank)
    (disconnected : second = .disconnected) : first = .disconnected := by
  subst disconnected
  cases first <;> simp_all [rank]

end Phase

/-- The phase of a loop that has taken events of which none ends it. -/
inductive PhaseAfter (identities : IdentityFinder) (events : List Event) : Phase → Prop where
  | disconnected (unknown : identities.resolved (events.count .connected) = none)
      (idle : ¬ Routed identities events) : PhaseAfter identities events .disconnected
  | connected (me : Identity) (known : identities.resolved (events.count .connected) = some me)
      (idle : ¬ Routed identities events) : PhaseAfter identities events .connected
  | processing (me : Identity) (known : identities.resolved (events.count .connected) = some me)
      (routed : Routed identities events) : PhaseAfter identities events .processing

namespace PhaseAfter

variable {identities : IdentityFinder} {events : List Event} {phase : Phase}

theorem disconnected_iff (after : PhaseAfter identities events phase) :
    phase = .disconnected ↔ identities.resolved (events.count .connected) = none := by
  cases after with
  | disconnected unknown idle => simp [unknown]
  | connected me known idle => simp [known]
  | processing me known routed => simp [known]

theorem connected_iff (after : PhaseAfter identities events phase) :
    phase = .connected ↔
      identities.resolved (events.count .connected) ≠ none ∧ ¬ Routed identities events := by
  cases after with
  | disconnected unknown idle => simp [unknown]
  | connected me known idle => simp [known, idle]
  | processing me known routed => simp [routed]

theorem processing_iff (after : PhaseAfter identities events phase) :
    phase = .processing ↔ Routed identities events := by
  cases after with
  | disconnected unknown idle => simp [idle]
  | connected me known idle => simp [idle]
  | processing me known routed => simp [routed]

theorem acceptsMessages (after : PhaseAfter identities events phase) {me : Identity}
    (known : identities.resolved (events.count .connected) = some me) :
    phase.acceptsMessages = true := by
  cases after with
  | disconnected unknown idle => simp [unknown] at known
  | connected me known idle => rfl
  | processing me known routed => rfl

/-- An event by which the bot learns nothing and which is not handed over leaves the phase
alone. -/
theorem concat {event : Event} (after : PhaseAfter identities events phase)
    (same : identities.resolved ((events ++ [event]).count .connected) =
      identities.resolved (events.count .connected))
    (idle : Routed identities (events ++ [event]) → Routed identities events) :
    PhaseAfter identities (events ++ [event]) phase := by
  cases after with
  | disconnected unknown idle' => exact .disconnected (same.trans unknown) (idle' ∘ idle)
  | connected me known idle' => exact .connected me (same.trans known) (idle' ∘ idle)
  | processing me known routed =>
      exact .processing me (same.trans known) (routed_concat.mpr (Or.inl routed))

theorem concat_routed {message : MessageEvent} {me : Identity}
    (after : PhaseAfter identities events phase)
    (known : identities.resolved (events.count .connected) = some me) (mine : message.isFor me) :
    PhaseAfter identities (events ++ [.message message]) phase.process := by
  have routed : Routed identities (events ++ [.message message]) :=
    routed_concat.mpr (Or.inr ⟨message, me, rfl, known, mine⟩)
  have still : identities.resolved ((events ++ [Event.message message]).count .connected) =
      some me := by
    simpa using known
  cases after with
  | disconnected unknown idle => simp [unknown] at known
  | connected _ _ idle => exact .processing me still routed
  | processing _ _ earlier => exact .processing me still routed

end PhaseAfter

namespace EventLoop

variable {δ : Type} (loop : EventLoop δ)

theorem onMessage_apart (state : LoopState δ) (event : MessageEvent) :
    (loop.onMessage state event).1.identity = state.identity ∧
      (loop.onMessage state event).1.identityLookups = state.identityLookups := by
  cases known : state.identity with
  | none => simp [onMessage, known]
  | some me =>
      simp only [onMessage, known]
      split
      · exact ⟨known, rfl⟩
      · split
        · exact ⟨known, rfl⟩
        · unfold route
          split
          · split <;> exact ⟨known, rfl⟩
          · split <;> exact ⟨known, rfl⟩
          · exact ⟨known, rfl⟩

theorem route_phase (me : Identity) (state : LoopState δ) {event : MessageEvent}
    (reply : event.isReplyEcho = false) :
    (loop.route me state event).1.phase =
      if event.isFor me then state.phase.process else state.phase := by
  have noEcho : event.replyTo = 0 := by
    simpa [MessageEvent.isReplyEcho] using reply
  cases change : event.change with
  | none => by_cases own : event.user = me.id <;>
      simp [route, MessageEvent.isFor, change, noEcho, own]
  | some change' =>
      cases change' with
      | deleted timestamp => simp [route, MessageEvent.isFor, change, noEcho]
      | changed edited => by_cases own : edited.user = me.id <;>
          simp [route, MessageEvent.isFor, change, noEcho, own]

theorem onMessage_phase (state : LoopState δ) (event : MessageEvent) {me : Identity}
    (known : state.identity = some me) (accepts : state.phase.acceptsMessages = true) :
    (loop.onMessage state event).1.phase =
      if event.isFor me then state.phase.process else state.phase := by
  cases reply : event.isReplyEcho with
  | false => simp [onMessage, known, accepts, reply, loop.route_phase me state reply]
  | true =>
      have echo : event.replyTo ≠ 0 := by
        simpa [MessageEvent.isReplyEcho] using reply
      simp [onMessage, known, accepts, reply, MessageEvent.isFor, echo]

theorem rank_le_handle (state : LoopState δ) (event : Event) :
    state.phase.rank ≤ (loop.handle state event).1.phase.rank := by
  cases event with
  | latencyReport milliseconds => exact Nat.le_refl _
  | transportError code message => exact Nat.le_refl _
  | invalidCredentials => exact state.phase.rank_le_terminated
  | termination => exact state.phase.rank_le_terminated
  | connected =>
      simp only [handle, onConnected]
      split
      · exact Nat.le_refl _
      · split
        · exact state.phase.rank_le_connect
        · exact Nat.le_refl _
  | message event =>
      simp only [handle]
      cases known : state.identity with
      | none => simp [onMessage, known]
      | some me =>
          cases accepts : state.phase.acceptsMessages with
          | false => simp [onMessage, known, accepts]
          | true =>
              rw [loop.onMessage_phase state event known accepts]
              split
              · exact state.phase.rank_le_process
              · exact Nat.le_refl _

theorem handle_identity {state : LoopState δ} {me : Identity} (known : state.identity = some me)
    (event : Event) : (loop.handle state event).1.identity = some me := by
  cases event with
  | connected => simp [handle, onConnected, known]
  | message event => exact (loop.onMessage_apart state event).1.trans known
  | latencyReport milliseconds => exact known
  | transportError code message => exact known
  | invalidCredentials => exact known
  | termination => exact known

theorem callsOf_handle_disconnected {state : LoopState δ} (early : state.phase = .disconnected)
    (event : Event) : callsOf (loop.handle state event).2.1 = [] := by
  have nothing : state.dispatched event = [] := by
    cases event with
    | message event => cases known : state.identity <;>
        simp [LoopState.dispatched, known, early, Phase.acceptsMessages]
    | _ => rfl
  rw [(loop.handle_desk state event).2, nothing]
  rfl

/-- What the events that a loop has taken tell of its state and of the calls so far. -/
structure Told (state : LoopState δ) (events : List Event) (calls : List TracedCall) : Prop where
  identity : state.identity = loop.identities.resolved (events.count .connected)
  lookups : state.identityLookups = loop.identities.asked (events.count .connected)
  phase : Event.Quiet events → PhaseAfter loop.identities events state.phase
  terminated : ¬ Event.Quiet events → state.phase = .terminated
  calls : state.phase = .disconnected → ∀ traced ∈ calls, isScheduledSend traced.2

variable {loop}

theorem told_initial (responses users : Nat) (driver : δ) :
    loop.Told (.initial responses users driver) [] [] where
  identity := rfl
  lookups := rfl
  phase _ := .disconnected rfl (not_routed_nil _)
  terminated loud := absurd Event.quiet_nil loud
  calls := by simp

namespace Told

variable {state : LoopState δ} {events : List Event} {calls : List TracedCall}

/-- At a connection a bot that does not know itself asks, and one that does goes on as
before. -/
theorem onConnected (told : loop.Told state events calls) (quiet : Event.Quiet events) :
    (loop.onConnected state).1.identity =
        loop.identities.resolved (events.count .connected + 1) ∧
      (loop.onConnected state).1.identityLookups =
        loop.identities.asked (events.count .connected + 1) ∧
      PhaseAfter loop.identities (events ++ [.connected]) (loop.onConnected state).1.phase := by
  have phase := told.phase quiet
  have idle : Routed loop.identities (events ++ [.connected]) → Routed loop.identities events := by
    simp [routed_concat]
  have count_eq : (events ++ [Event.connected]).count .connected =
      events.count .connected + 1 := by
    simp
  have next := loop.identities.resolved_succ (events.count .connected)
  have nextAsked := loop.identities.asked_succ (events.count .connected)
  cases known : loop.identities.resolved (events.count .connected) with
  | some me =>
      have identity := told.identity.trans known
      rw [known] at next nextAsked
      simp only [EventLoop.onConnected, identity]
      refine ⟨next.symm, told.lookups.trans nextAsked.symm, phase.concat ?_ idle⟩
      rw [count_eq, next, known, Option.some_or]
  | none =>
      have identity := told.identity.trans known
      have lookups := told.lookups.trans (IdentityFinder.asked_of_unresolved known)
      have disconnected := phase.disconnected_iff.mpr known
      have unrouted : ¬ Routed loop.identities events := fun routed => by
        simp [phase.processing_iff.mpr routed] at disconnected
      rw [known, Option.none_or] at next
      rw [IdentityFinder.asked_of_unresolved known, known] at nextAsked
      cases answer : loop.identities (events.count .connected) with
      | ok me =>
          rw [answer] at next
          simp only [EventLoop.onConnected, identity, lookups, answer, disconnected]
          refine ⟨next.symm, nextAsked.symm, .connected me ?_ (unrouted ∘ idle)⟩
          rw [count_eq, next]
          rfl
      | error error =>
          rw [answer] at next
          simp only [EventLoop.onConnected, identity, lookups, answer, disconnected]
          refine ⟨next.symm, nextAsked.symm, .disconnected ?_ (unrouted ∘ idle)⟩
          rw [count_eq, next]
          rfl

theorem onMessage_phase (told : loop.Told state events calls) (quiet : Event.Quiet events)
    (event : MessageEvent) :
    PhaseAfter loop.identities (events ++ [.message event])
      (loop.onMessage state event).1.phase := by
  have phase := told.phase quiet
  have same : loop.identities.resolved ((events ++ [Event.message event]).count .connected) =
      loop.identities.resolved (events.count .connected) := by
    simp
  cases known : loop.identities.resolved (events.count .connected) with
  | none =>
      have identity := told.identity.trans known
      simp only [EventLoop.onMessage, identity]
      refine phase.concat same fun routed => ?_
      simpa [routed_concat, known] using routed
  | some me =>
      rw [loop.onMessage_phase state event (told.identity.trans known)
        (phase.acceptsMessages known)]
      split
      · exact phase.concat_routed known ‹_›
      · refine phase.concat same fun routed => ?_
        rcases routed_concat.mp routed with earlier | ⟨message, other, event_eq, known', mine⟩
        · exact earlier
        · obtain rfl := Event.message.inj event_eq
          obtain rfl := Option.some.inj (known.symm.trans known')
          contradiction

theorem handle_identity (told : loop.Told state events calls) (quiet : Event.Quiet events)
    (event : Event) :
    (loop.handle state event).1.identity =
        loop.identities.resolved ((events ++ [event]).count .connected) ∧
      (loop.handle state event).1.identityLookups =
        loop.identities.asked ((events ++ [event]).count .connected) := by
  rw [List.count_append, List.count_singleton]
  cases event with
  | connected =>
      obtain ⟨identity, lookups, -⟩ := told.onConnected quiet
      exact ⟨identity, lookups⟩
  | message event =>
      obtain ⟨identity, lookups⟩ := loop.onMessage_apart state event
      exact ⟨identity.trans told.identity, lookups.trans told.lookups⟩
  | latencyReport milliseconds => exact ⟨told.identity, told.lookups⟩
  | transportError code message => exact ⟨told.identity, told.lookups⟩
  | invalidCredentials => exact ⟨told.identity, told.lookups⟩
  | termination => exact ⟨told.identity, told.lookups⟩

theorem handle_phase (told : loop.Told state events calls) (quiet : Event.Quiet events)
    {event : Event} (goesOn : event.ending? = none) :
    PhaseAfter loop.identities (events ++ [event]) (loop.handle state event).1.phase := by
  have phase := told.phase quiet
  cases event with
  | connected => exact (told.onConnected quiet).2.2
  | message event => exact told.onMessage_phase quiet event
  | latencyReport milliseconds => exact phase.concat (by simp) (by simp [routed_concat])
  | transportError code message => exact phase.concat (by simp) (by simp [routed_concat])
  | invalidCredentials => simp [Event.ending?] at goesOn
  | termination => simp [Event.ending?] at goesOn

/-- What the events tell stays true when one more is taken. -/
theorem handle (told : loop.Told state events calls) (quiet : Event.Quiet events)
    (event : Event) :
    loop.Told (loop.handle state event).1 (events ++ [event])
      (calls ++ TracedCall.ofEntries event (loop.handle state event).2.1) := by
  obtain ⟨identity, lookups⟩ := told.handle_identity quiet event
  have quiet_iff : Event.Quiet (events ++ [event]) ↔ event.ending? = none := by
    simp [Event.quiet_append, Event.quiet_cons, Event.quiet_nil, quiet]
  refine ⟨identity, lookups, fun still => told.handle_phase quiet (quiet_iff.mp still), ?_, ?_⟩
  · intro loud
    obtain ⟨ending, ends⟩ := Option.ne_none_iff_exists'.mp (mt quiet_iff.mpr loud)
    exact loop.handle_terminated state ends
  · intro disconnected
    have before := Phase.eq_disconnected_of_rank_le (loop.rank_le_handle state event) disconnected
    rw [TracedCall.ofEntries, loop.callsOf_handle_disconnected before, List.map_nil,
      List.append_nil]
    exact told.calls before

end Told

variable (loop)

theorem keeps_told : loop.Keeps loop.Told where
  handle quiet told event := told.handle quiet event
  aside told change scheduled sends := by
    refine ⟨told.identity, told.lookups, told.phase, told.terminated, ?_⟩
    intro disconnected traced member
    rcases List.mem_append.mp member with earlier | later
    · exact told.calls disconnected traced earlier
    · obtain ⟨made, inside, rfl⟩ := List.mem_map.mp later
      exact sends made inside

/-- A later state of a loop: the phase has not moved backwards, and the bot still knows who
it is. -/
structure Advanced (earlier later : LoopState δ) : Prop where
  phase : earlier.phase.rank ≤ later.phase.rank
  identity : ∀ me, earlier.identity = some me → later.identity = some me

theorem keeps_advanced (earlier : LoopState δ) :
    loop.Keeps fun state _ _ => Advanced earlier state where
  handle _ advanced event :=
    ⟨Nat.le_trans advanced.phase (loop.rank_le_handle _ event), fun me known =>
      loop.handle_identity (advanced.identity me known) event⟩
  aside advanced _ _ _ := ⟨advanced.phase, advanced.identity⟩

end EventLoop

namespace Session

variable {δ : Type}

/-- Over a session the phase never moves backwards, and the bot never forgets who it is. -/
theorem advanced_takeAll (session : Session δ) {start : SessionState δ}
    (running : start.stage = .running) (steps more : List (SessionStep δ)) :
    EventLoop.Advanced (session.takeAll start steps).1.loop
      (session.takeAll start (steps ++ more)).1.loop := by
  have keeps := session.loop.keeps_advanced (session.takeAll start steps).1.loop
  obtain ⟨-, -, advanced⟩ := keeps.session_onwards running steps more
    ⟨Nat.le_refl _, fun _ known => known⟩
  exact advanced

/-- A session asks who the bot is at each connection until it is told, and never again, and
keeps to what it was told first.  Before an event ends the loop, it is disconnected just as
long as it does not know the bot, connected as long as it does and no message was handed
over, and processing from then on; at no time does it move back.  As long as it is
disconnected it makes no calls, but for posts of scheduled actions. -/
theorem identity_and_phase (session : Session δ) (responses users : Nat) (driver : δ)
    (scheduler : Scheduler) (steps : List (SessionStep δ)) :
    let identities := session.loop.identities
    let start : SessionState δ := .initial responses users driver scheduler
    let state := (session.takeAll start steps).1.loop
    let events := Event.taken (SessionStep.allSent steps)
    state.identity = identities.resolved (events.count .connected) ∧
      state.identityLookups = identities.asked (events.count .connected) ∧
      (Event.Quiet events →
        (state.phase = .disconnected ↔ state.identity = none) ∧
        (state.phase = .connected ↔ state.identity ≠ none ∧ ¬ Routed identities events) ∧
        (state.phase = .processing ↔ Routed identities events)) ∧
      (¬ Event.Quiet events → state.phase = .terminated) ∧
      (∀ more, EventLoop.Advanced state (session.takeAll start (steps ++ more)).1.loop) ∧
      (state.phase = .disconnected →
        (∀ made ∈ Moment.calls (session.takeAll start steps).2, isScheduledSend made) ∧
        ∀ event, callsOf (session.loop.handle state event).2.1 = []) := by
  intro identities start state events
  have told : session.loop.Told state events (session.traced start steps) := by
    have initial : session.loop.Told start.loop [] [] :=
      EventLoop.told_initial responses users driver
    simpa using session.loop.keeps_told.session_takeAll steps rfl Event.quiet_nil initial
  refine ⟨told.identity, told.lookups, fun quiet => ?_, told.terminated,
    fun more => session.advanced_takeAll rfl steps more, fun disconnected => ⟨?_, ?_⟩⟩
  · have phase := told.phase quiet
    rw [told.identity]
    exact ⟨phase.disconnected_iff, phase.connected_iff, phase.processing_iff⟩
  · intro made member
    rw [← session.map_snd_traced] at member
    obtain ⟨traced, inside, rfl⟩ := List.mem_map.mp member
    exact told.calls disconnected traced inside
  · exact session.loop.callsOf_handle_disconnected disconnected

/-- A bot that is told at its second connection who it is: the message before is dropped, and
its own is not handed over. -/
theorem identity_and_phase_echo :
    let session : Session MemoryPlatform :=
      ⟨⟨.echo MemoryPlatform.driver, fun number =>
        if number = 0 then .error .notConnected else .ok ⟨"bot", "Echo"⟩⟩⟩
    let start : SessionState MemoryPlatform :=
      .initial 8 8 .empty (Scheduler.start 0 [])
    let posted := fun user => Event.message (.posted ⟨"general", user, "one", ⟨"1.0"⟩⟩)
    let steps := [.events [.connected, posted "ann", .connected, posted "bot", .connected]]
    let state := (session.takeAll start steps).1.loop
    state.identityLookups = 2 ∧ state.identity = some ⟨"bot", "Echo"⟩ ∧
      state.phase = .connected ∧ ¬ Routed session.loop.identities (SessionStep.allSent steps) := by
  intro session start posted steps state
  obtain ⟨identity, lookups, phase, -⟩ :=
    session.identity_and_phase 8 8 MemoryPlatform.empty (Scheduler.start 0 []) steps
  have connected : state.phase = .connected := by decide
  have idle := ((phase (by decide)).2.1.mp connected).2
  exact ⟨lookups.trans (by decide), identity.trans (by decide), connected, idle⟩

end Session

end ChatBot
