import ChatBot.Platform.Memory
import ChatBot.Proofs.Dispatch.Attendance
import ChatBot.Proofs.Session.Sources

/-!
# Source messages do not interfere

On a platform that accepts every call, and with no cache or one with room for every source
message, a session does about one source message what it would do if nothing were sent to
it but the events that concern that message.  Only the timestamps that the replies are
given differ.
-/

namespace ChatBot

/-- The cache of replies is off, or has room for every message that events are about. -/
def HasRoom (responses : Nat) (events : List Event) : Prop :=
  responses = 0 ∨ (Event.sources events).dedup.length ≤ responses

theorem HasRoom.of_subset {responses : Nat} {events others : List Event}
    (room : HasRoom responses others) (among : Event.sources events ⊆ Event.sources others) :
    HasRoom responses events :=
  room.imp_right (Nat.le_trans (Lru.length_dedup_le among))

variable {δ : Type}

/-- What holds of a source message in the course of a session: its calls and its replies on
record come from attending to what the dispatcher was told about it. -/
structure EventLoop.Attends (loop : EventLoop δ) (responses : Nat) (key : MessageKey)
    (state : LoopState δ) (events : List Event) (calls : List TracedCall) : Prop where
  told : loop.Told state events calls
  tidy : state.desk.replies.Tidy
  capacity : state.desk.replies.capacity = responses
  known : state.desk.replies.keys ⊆ Event.sources events
  users : state.desk.users.Faithful loop.dispatcher.users
  attended : HasRoom responses events →
    Attended loop.dispatcher.settings key (loop.dispatcher.due (responses ≠ 0)) (responses ≠ 0) []
      ((loop.identities.steps 0 events).filter (·.key = key)) (TracedCall.about key calls)
      (state.desk.replies.repliesTo key)

namespace EventLoop.Attends

variable {loop : EventLoop δ} {responses : Nat} {key : MessageKey} {state : LoopState δ}
  {events : List Event} {calls : List TracedCall}

theorem initial (loop : EventLoop δ) (responses users : Nat) (driver : δ) (key : MessageKey) :
    loop.Attends responses key (.initial responses users driver) [] [] where
  told := told_initial responses users driver
  tidy := ReplyCache.tidy_empty responses
  capacity := rfl
  known := List.Subset.refl _
  users := UserCache.faithful_empty _ users
  attended _ := .done []

/-- What an event without a step leaves alone. -/
theorem handle_idle (attends : loop.Attends responses key state events calls)
    (quiet : Event.Quiet events) {event : Event}
    (nothing : loop.identities.dispatched (events.count .connected) event = [])
    (desk_eq : (loop.handle state event).1.desk = state.desk)
    (silent : callsOf (loop.handle state event).2.1 = []) :
    loop.Attends responses key (loop.handle state event).1 (events ++ [event])
      (calls ++ TracedCall.ofEntries event (loop.handle state event).2.1) := by
  have among : Event.sources events ⊆ Event.sources (events ++ [event]) := by
    rw [Event.sources_concat]
    exact List.subset_append_left _ _
  have told := attends.told.handle quiet event
  rw [TracedCall.ofEntries, silent, List.map_nil, List.append_nil] at told ⊢
  refine ⟨told, ?_, ?_, ?_, ?_, fun room => ?_⟩
  · rw [desk_eq]
    exact attends.tidy
  · rw [desk_eq]
    exact attends.capacity
  · rw [desk_eq]
    exact List.Subset.trans attends.known among
  · rw [desk_eq]
    exact attends.users
  · rw [desk_eq, IdentityFinder.steps_concat, nothing, List.append_nil]
    exact attends.attended (room.of_subset among)

/-- A step about the message is attended to; one about another leaves it alone. -/
theorem handle_step (attends : loop.Attends responses key state events calls)
    (fixed : loop.dispatcher.users.Fixed) (quiet : Event.Quiet events) {event : Event}
    {step : DispatchStep}
    (told : loop.identities.dispatched (events.count .connected) event = [step])
    (about : event.source? = some step.key)
    (desk_eq : (loop.handle state event).1.desk = (loop.dispatcher.take state.desk step).1)
    (calls_eq : callsOf (loop.handle state event).2.1 =
      callsOf (loop.dispatcher.take state.desk step).2) :
    loop.Attends responses key (loop.handle state event).1 (events ++ [event])
      (calls ++ TracedCall.ofEntries event (loop.handle state event).2.1) := by
  obtain ⟨replies, replies_eq, reconciled⟩ :=
    loop.dispatcher.take_reconciled attends.tidy.toWellFormed step
  have sources_eq : Event.sources (events ++ [event]) = Event.sources events ++ [step.key] := by
    rw [Event.sources_concat, about, Option.toList_some]
  have among : Event.sources events ⊆ Event.sources (events ++ [event]) := by
    rw [sources_eq]
    exact List.subset_append_left _ _
  have enabled : state.desk.replies.isEnabled = decide (responses ≠ 0) := by
    rw [Lru.isEnabled, attends.capacity]
  refine ⟨attends.told.handle quiet event, ?_, ?_, ?_, ?_, fun room => ?_⟩
  · rw [desk_eq]
    exact loop.dispatcher.tidy_take attends.tidy step
  · rw [desk_eq, loop.dispatcher.capacity_take attends.tidy.toWellFormed]
    exact attends.capacity
  · rw [desk_eq, replies_eq, sources_eq]
    exact ReplyCache.keys_store_subset attends.known step.key replies
  · rw [desk_eq]
    exact Dispatcher.faithful_take fixed attends.users step
  · have before := attends.attended (room.of_subset among)
    have fits : state.desk.replies.capacity = 0 ∨
        (Event.sources (events ++ [event])).dedup.length ≤ state.desk.replies.capacity := by
      rw [attends.capacity]
      exact room
    obtain ⟨own_eq, others_eq⟩ := attends.tidy.repliesTo_store_of_room
      (List.Subset.trans attends.known among) (by simp [sources_eq] : step.key ∈ _) fits replies
    rw [desk_eq, replies_eq, IdentityFinder.steps_concat, told, List.filter_append,
      TracedCall.about_append, TracedCall.about_ofEntries, about, calls_eq]
    by_cases own : step.key = key
    · subst own
      rw [step.previous_eq_finds, Dispatcher.wanted_eq_due fixed attends.users, enabled]
        at reconciled
      have mine : [step].filter (·.key = step.key) = [step] := by
        rw [List.filter_singleton, decide_eq_true rfl, cond_true]
      rw [own_eq, enabled, if_pos rfl, mine]
      exact before.concat reconciled
    · have other : [step].filter (·.key = key) = [] := by
        rw [List.filter_singleton, decide_eq_false own, cond_false]
      rw [others_eq key (Ne.symm own), if_neg (mt Option.some.inj own), other, List.append_nil,
        List.append_nil]
      exact before

theorem keeps (fixed : loop.dispatcher.users.Fixed) (responses : Nat) (key : MessageKey) :
    loop.Keeps (loop.Attends responses key) where
  handle quiet attends event := by
    have told := attends.told.dispatched_eq quiet event
    rcases loop.handle_dispatched told with
      ⟨nothing, desk_eq, silent⟩ | ⟨step, one, about, desk_eq, calls_eq⟩
    · exact attends.handle_idle quiet nothing desk_eq silent
    · exact attends.handle_step fixed quiet one about desk_eq calls_eq
  aside attends change scheduled sends := by
    refine ⟨loop.keeps_told.aside attends.told change scheduled sends, attends.tidy,
      attends.capacity, attends.known, attends.users, fun room => ?_⟩
    rw [TracedCall.about_append, TracedCall.about_ofSchedule, List.append_nil]
    exact attends.attended room

end EventLoop.Attends

namespace Session

theorem attends_takeAll (session : Session δ) (fixed : session.loop.dispatcher.users.Fixed)
    (responses users : Nat) (driver : δ) (scheduler : Scheduler) (key : MessageKey)
    (steps : List (SessionStep δ)) :
    let start : SessionState δ := .initial responses users driver scheduler
    session.loop.Attends responses key (session.takeAll start steps).1.loop
      (Event.taken (SessionStep.allSent steps)) (session.traced start steps) := by
  intro start
  have initial : session.loop.Attends responses key start.loop [] [] :=
    .initial session.loop responses users driver key
  simpa using (EventLoop.Attends.keeps fixed responses key).session_takeAll steps rfl
    Event.quiet_nil initial

theorem rooted_takeAll (session : Session δ) (responses users : Nat) (driver : δ)
    (scheduler : Scheduler) (steps : List (SessionStep δ)) :
    ∀ traced ∈ session.traced (.initial responses users driver scheduler) steps,
      traced.Rooted (Event.taken (SessionStep.allSent steps)) := by
  have kept := session.loop.keeps_rooted.session_takeAll steps
    (rfl : (SessionState.initial responses users driver scheduler).stage = .running)
    Event.quiet_nil ⟨ReplyCache.tidy_empty responses, List.forall_mem_nil _⟩
  simpa using kept.2

/-- On a platform that files the messages of a channel in one place and says the same of a
user whenever it is asked, with no cache or one with room for every source message: the
calls in the course of events about a message, if none fails, are all the calls that its
own events alone come to, but for the timestamps that its replies are given.  Each call in
the course of an event is made for the message that the event is about, where an edit that
names no channel is about a message in the channel of its event. -/
theorem independent (session : Session δ) (responses users : Nat) (driver : δ)
    (scheduler : Scheduler) (steps alone : List (SessionStep δ)) (key : MessageKey)
    (home : String → String) (fixed : session.loop.dispatcher.users.Fixed)
    (room : HasRoom responses (Event.taken (SessionStep.allSent steps)))
    (alone_eq : SessionStep.allSent alone =
      (SessionStep.allSent steps).filter (·.concerns key)) :
    let start : SessionState δ := .initial responses users driver scheduler
    let whole := TracedCall.about key (session.traced start steps)
    let part := TracedCall.about key (session.traced start alone)
    (∀ made ∈ whole, made.2.kept home) → (∀ made ∈ part, made.2.kept home) →
      List.Forall₂ (MadeCall.Renamed (renamingOf whole part)) whole part ∧
        sourceCalls (Moment.calls (session.takeAll start alone).2) = part ∧
        (∀ traced ∈ session.traced start steps,
          traced.Rooted (Event.taken (SessionStep.allSent steps))) ∧
        ∀ event edited, event.change = some (.changed edited) → edited.channel = "" →
          (Event.message event).source? = some ⟨event.channel, edited.timestamp⟩ := by
  intro start whole part kept keptAlone
  have taken_eq : Event.taken (SessionStep.allSent alone) =
      (Event.taken (SessionStep.allSent steps)).filter (·.concerns key) := by
    rw [alone_eq, Event.taken_filter]
  have roomAlone : HasRoom responses (Event.taken (SessionStep.allSent alone)) := by
    apply room.of_subset
    rw [taken_eq]
    exact (List.filter_sublist.filterMap _).subset
  have attended := (session.attends_takeAll fixed responses users driver scheduler key
    steps).attended room
  have attendedAlone := (session.attends_takeAll fixed responses users driver scheduler key
    alone).attended roomAlone
  have same : (session.loop.identities.steps 0
      (Event.taken (SessionStep.allSent alone))).filter (·.key = key) =
      (session.loop.identities.steps 0
        (Event.taken (SessionStep.allSent steps))).filter (·.key = key) := by
    rw [taken_eq, IdentityFinder.steps_filter, List.filter_filter]
    simp only [Bool.and_self]
  rw [same] at attendedAlone
  have sameCalls : SameCalls [] whole part :=
    attended.sameCalls attendedAlone .nil kept keptAlone
  refine ⟨sameCalls.calls, ?_, session.rooted_takeAll responses users driver scheduler steps, ?_⟩
  · have rooted := session.rooted_takeAll responses users driver scheduler alone
    rw [← session.map_snd_traced]
    apply TracedCall.sourceCalls_eq_about rooted
    intro event member source about
    rw [taken_eq] at member
    have concerned := (List.mem_filter.mp member).2
    rw [Event.concerns_of_source? about] at concerned
    exact of_decide_eq_true concerned
  · intro event edited changed unnamed
    simp [Event.source?, MessageEvent.source, changed, unnamed]

/-- Two messages with their edits and deletions in turns: the reply to the second bears the
timestamp that the reply to the first would bear, were it alone. -/
theorem independent_echo :
    let session : Session MemoryPlatform := ⟨.echo MemoryPlatform.driver⟩
    let start : SessionState MemoryPlatform := .initial 2 0 .empty (Scheduler.start 0 [])
    let first := Event.message (.posted ⟨"general", "ann", "one", ⟨"1.0"⟩⟩)
    let second := Event.message (.posted ⟨"random", "bob", "eins", ⟨"1.0"⟩⟩)
    let edit := Event.message
      ⟨"random", "", "", ⟨"2.0"⟩, 0, some (.changed ⟨"", "bob", "zwei", ⟨"1.0"⟩⟩)⟩
    let gone := Event.message (.deleted "general" ⟨"3.0"⟩ ⟨"1.0"⟩)
    let steps := [.events [.connected, first, second, gone], .advance 5, .events [edit]]
    let alone := [.events [.connected, second, edit]]
    let whole := TracedCall.about ⟨"random", ⟨"1.0"⟩⟩ (session.traced start steps)
    let part := TracedCall.about ⟨"random", ⟨"1.0"⟩⟩ (session.traced start alone)
    whole.length = 2 ∧
      renamingOf whole part = [(⟨"1547785966.000000"⟩, ⟨"1547785956.000000"⟩)] ∧
      List.Forall₂ (MadeCall.Renamed (renamingOf whole part)) whole part := by
  intro session start first second edit gone steps alone whole part
  have fixed : session.loop.dispatcher.users.Fixed := fun _ _ => rfl
  have room : HasRoom 2 (Event.taken (SessionStep.allSent steps)) := Or.inr (by decide)
  have renamed := session.independent 2 0 .empty (Scheduler.start 0 []) steps alone
    ⟨"random", ⟨"1.0"⟩⟩ id fixed room (by decide) (by decide +kernel) (by decide +kernel)
  exact ⟨by decide +kernel, by decide +kernel, renamed.1⟩

end Session

end ChatBot
