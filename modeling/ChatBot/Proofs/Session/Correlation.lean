import ChatBot.Platform.Memory
import ChatBot.Proofs.Dispatch.Ledger
import ChatBot.Proofs.Session.Maintained
import Mathlib.Data.List.Induction

/-!
# Replies are touched by their own source messages only

Scheduled actions post at any time, also between two calls of the dispatcher.  As
long as the platform gives each timestamp once only, that does not matter: the calls
that are left when their posts are taken out keep a ledger with the tracked replies,
and what the ledger says of those calls it says of the whole history.
-/

namespace ChatBot

/-- The calls of a history that scheduled actions did not make. -/
def sourceCalls (history : List MadeCall) : List MadeCall :=
  history.filter (!isScheduledSend ·)

/-- The timestamps of the messages whose deletion was tried, once for each try. -/
def deletedTimestamps (history : List MadeCall) : List Timestamp :=
  history.filterMap fun made => made.2.deletedTimestamp?

/-- The timestamps of all tracked replies, entry by entry. -/
def ReplyCache.timestamps (cache : ReplyCache) : List Timestamp :=
  cache.entries.flatMap fun entry => entry.2.map (·.timestamp)

section History

variable {history : List MadeCall}

theorem sourceCalls_append (first second : List MadeCall) :
    sourceCalls (first ++ second) = sourceCalls first ++ sourceCalls second :=
  List.filter_append first second

theorem sourceCalls_scheduled (channel : String) (message : OutgoingMessage)
    (result : Except ApiError Receipt) :
    sourceCalls [(.schedule, .send channel message result)] = [] :=
  rfl

theorem sourceCalls_eq_self {source : MessageKey}
    (made_for : ∀ made ∈ history, made.1 = .source source) : sourceCalls history = history := by
  apply List.filter_eq_self.mpr
  rintro ⟨origin, call⟩ member
  obtain rfl := made_for _ member
  rfl

theorem sourceCalls_sublist (history : List MadeCall) : (sourceCalls history).Sublist history :=
  List.filter_sublist

theorem postedTimestamps_sourceCalls (history : List MadeCall) :
    (postedTimestamps (sourceCalls history)).Sublist (postedTimestamps history) :=
  (sourceCalls_sublist history).filterMap _

theorem deletedTimestamps_append (first second : List MadeCall) :
    deletedTimestamps (first ++ second) = deletedTimestamps first ++ deletedTimestamps second :=
  List.filterMap_append

theorem retracted_iff_mem {timestamp : Timestamp} :
    Retracted history timestamp ↔ timestamp ∈ deletedTimestamps history := by
  constructor
  · rintro ⟨origin, channel, result, member⟩
    exact List.mem_filterMap.mpr ⟨_, member, rfl⟩
  · intro member
    obtain ⟨⟨origin, made⟩, inside, gone⟩ := List.mem_filterMap.mp member
    cases made with
    | send channel message result => simp [Call.deletedTimestamp?] at gone
    | update channel place message result => simp [Call.deletedTimestamp?] at gone
    | delete channel place result =>
        obtain rfl := Option.some.inj gone
        exact ⟨origin, channel, result, inside⟩

theorem deletedTimestamps_nodup_concat {made : MadeCall}
    (earlier : (deletedTimestamps history).Nodup) (rightful : Rightful history made) :
    (deletedTimestamps (history ++ [made])).Nodup := by
  obtain ⟨origin, call⟩ := made
  cases call with
  | send channel message result =>
      rw [deletedTimestamps_append]
      simpa [deletedTimestamps, Call.deletedTimestamp?] using earlier
  | update channel timestamp message result =>
      rw [deletedTimestamps_append]
      simpa [deletedTimestamps, Call.deletedTimestamp?] using earlier
  | delete channel timestamp result =>
      obtain ⟨-, -, -, kept⟩ := rightful ⟨channel, timestamp⟩ rfl
      rw [retracted_iff_mem] at kept
      rw [deletedTimestamps_append]
      refine List.nodup_append.mpr ⟨earlier, List.nodup_singleton timestamp, ?_⟩
      rintro before gone after now rfl
      obtain rfl := List.mem_singleton.mp now
      exact kept gone

/-- In a correlated history no message is deleted twice. -/
theorem Correlated.deletedTimestamps_nodup (correlated : Correlated history) :
    (deletedTimestamps history).Nodup := by
  induction history using List.reverseRecOn with
  | nil => exact List.nodup_nil
  | append_singleton front made ih =>
      obtain ⟨earlier, rightful⟩ := correlated_concat.mp correlated
      exact deletedTimestamps_nodup_concat (ih earlier) rightful

/-- In a correlated history nothing is aimed at what a scheduled action posted. -/
theorem Correlated.target_ne_of_scheduled (correlated : Correlated history)
    (fresh : (postedTimestamps history).Nodup) {made aimed : MadeCall}
    {timestamp : Timestamp} {place : MessageKey} (member : made ∈ history)
    (scheduled : isScheduledSend made) (given : made.2.postedTimestamp? = some timestamp)
    (other : aimed ∈ history) (target : aimed.2.target? = some place) :
    place.timestamp ≠ timestamp := by
  rintro rfl
  obtain ⟨before, after, rfl⟩ := List.append_of_mem other
  obtain ⟨source, -, ⟨message, receipt, posted, rfl⟩, -⟩ :=
    correlated before aimed after rfl place target
  have same := made_unique fresh member (List.mem_append_left _ posted) given rfl
  rw [same] at scheduled
  exact absurd scheduled (by simp [isScheduledSend])

/-- Posts of scheduled actions make no difference to what is correlated. -/
theorem Correlated.of_sourceCalls (correlated : Correlated (sourceCalls history)) :
    Correlated history := by
  rintro before made after rfl place aimed
  have kept : (!isScheduledSend made) = true := by
    obtain ⟨origin, call⟩ := made
    cases call with
    | send channel message result => simp [Call.target?] at aimed
    | update channel timestamp message result => cases origin <;> rfl
    | delete channel timestamp result => cases origin <;> rfl
  have split : sourceCalls (before ++ made :: after) =
      sourceCalls before ++ made :: sourceCalls after := by
    rw [sourceCalls_append]
    simp [sourceCalls, kept]
  obtain ⟨source, origin_eq, posted, notRetracted⟩ :=
    correlated (sourceCalls before) made (sourceCalls after) split place aimed
  refine ⟨source, origin_eq, ?_, ?_⟩
  · obtain ⟨message, receipt, member, place_eq⟩ := posted
    exact ⟨message, receipt, (sourceCalls_sublist before).mem member, place_eq⟩
  · rintro ⟨origin, channel, result, member⟩
    apply notRetracted
    exact ⟨origin, channel, result, List.mem_filter.mpr ⟨member, by cases origin <;> rfl⟩⟩

theorem Ledger.timestamps_nodup {cache : ReplyCache} (ledger : Ledger cache history)
    (tidy : cache.Tidy) (fresh : (postedTimestamps history).Nodup) : cache.timestamps.Nodup := by
  refine List.nodup_flatMap.mpr ⟨ledger.distinct, ?_⟩
  have distinct := tidy.distinct
  rw [Lru.keys, List.Nodup, List.pairwise_map] at distinct
  refine distinct.imp_of_mem ?_
  rintro first second member other apart timestamp inFirst inSecond
  obtain ⟨reply, tracked, rfl⟩ := List.mem_map.mp inFirst
  obtain ⟨reply', tracked', same⟩ := List.mem_map.mp inSecond
  have posted := ledger.posted first member reply tracked
  have posted' := ledger.posted second other reply' tracked'
  exact apart (posted.unique fresh posted' same.symm).1

end History

variable {δ : Type}

/-- A dispatcher keeps its ledger in order, whatever scheduled actions post. -/
theorem Dispatcher.maintains_ledger (dispatcher : Dispatcher δ) :
    dispatcher.Maintains fun cache history =>
      cache.Tidy ∧ ((postedTimestamps (sourceCalls history)).Nodup →
        Ledger cache (sourceCalls history)) where
  take desk step history before := by
    obtain ⟨tidy, ledger⟩ := before
    obtain ⟨replies, replies_eq, reconciled⟩ :=
      dispatcher.take_reconciled tidy.toWellFormed step
    refine ⟨dispatcher.tidy_take tidy step, ?_⟩
    intro fresh
    have all := sourceCalls_eq_self reconciled.origin_eq
    rw [sourceCalls_append, all] at fresh ⊢
    have earlier : (postedTimestamps (sourceCalls history)).Nodup := by
      rw [postedTimestamps_append, List.nodup_append] at fresh
      exact fresh.1
    rw [replies_eq]
    exact (ledger earlier).reconciled fresh (step.previous_eq_nil_or_mem desk.replies) reconciled
  post cache history channel message result before := by
    rwa [sourceCalls_append, sourceCalls_scheduled, List.append_nil]

/-- Whatever happens to a session, and wherever scheduled actions post in between: as
long as timestamps are given once only, every update and every deletion is aimed at a
message that was posted before for the same source message and that nobody has tried
to delete since.  No message is deleted twice, nothing is aimed at what a scheduled
action posted, and no two entries share a reply. -/
theorem Session.replies_correlated (session : Session δ) (responses users : Nat) (driver : δ)
    (scheduler : Scheduler) (steps : List (SessionStep δ)) (history : List MadeCall)
    (interleaved : sourceCalls history = sourceCalls (Moment.calls
      (session.takeAll (.initial responses users driver scheduler) steps).2))
    (fresh : (postedTimestamps history).Nodup) :
    Correlated history ∧ (deletedTimestamps history).Nodup ∧
      (∀ made ∈ history, isScheduledSend made → ∀ timestamp,
        made.2.postedTimestamp? = some timestamp → ∀ aimed ∈ history, ∀ place,
          aimed.2.target? = some place → place.timestamp ≠ timestamp) ∧
      (session.takeAll (.initial responses users driver scheduler)
        steps).1.loop.desk.replies.timestamps.Nodup := by
  let start : SessionState δ := .initial responses users driver scheduler
  have before : start.loop.desk.replies.Tidy ∧
      ((postedTimestamps (sourceCalls [])).Nodup →
        Ledger start.loop.desk.replies (sourceCalls [])) :=
    ⟨ReplyCache.tidy_empty responses, fun _ => Ledger.empty responses⟩
  obtain ⟨tidy, ledger⟩ :=
    session.loop.dispatcher.maintains_ledger.session_takeAll steps before
  rw [List.nil_append, ← interleaved] at ledger
  have freshSource := (postedTimestamps_sourceCalls history).nodup fresh
  have kept := ledger freshSource
  have correlated := kept.correlated.of_sourceCalls
  refine ⟨correlated, correlated.deletedTimestamps_nodup, ?_,
    kept.timestamps_nodup tidy freshSource⟩
  intro made member scheduled timestamp given aimed other place target
  exact correlated.target_ne_of_scheduled fresh member scheduled given other target

/-- The calls for a message that is posted, edited and deleted, with a post of a
scheduled action in between. -/
def echoedHistory : List MadeCall :=
  let message : Message := ⟨"general", "ann", "one", ⟨"1.0"⟩⟩
  let calls := Moment.calls (Session.takeAll ⟨.echo MemoryPlatform.driver⟩
    (.initial 8 8 .empty (Scheduler.start 0 []))
    [.events [.connected, .message (.posted message)],
      .events [.message (.changed "general" ⟨"2.0"⟩ { message with text := "two" }),
        .message (.deleted "general" ⟨"3.0"⟩ ⟨"1.0"⟩)]]).2
  calls.take 1 ++
    (.schedule, .send "general" (.ofText "tick") (.ok ⟨"general", ⟨"1.5"⟩, "tick"⟩)) ::
      calls.drop 1

theorem echoedHistory_correlated :
    echoedHistory.length = 4 ∧ deletedTimestamps echoedHistory = [⟨"1547785956.000000"⟩] ∧
      Correlated echoedHistory := by
  refine ⟨by decide, by decide, ?_⟩
  exact (Session.replies_correlated ⟨.echo MemoryPlatform.driver⟩ 8 8 .empty (Scheduler.start 0 [])
    [.events [.connected, .message (.posted ⟨"general", "ann", "one", ⟨"1.0"⟩⟩)],
      .events [.message (.changed "general" ⟨"2.0"⟩ ⟨"general", "ann", "two", ⟨"1.0"⟩⟩),
        .message (.deleted "general" ⟨"3.0"⟩ ⟨"1.0"⟩)]]
    echoedHistory rfl (by decide)).1

end ChatBot
