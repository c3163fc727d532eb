import ChatBot.Proofs.Dispatch.Steps

/-!
# The ledger of replies

A history is the list of all calls so far.  It is correlated when every update
and every deletion in it is aimed at a message that was posted before for the same
source message, and that nobody has tried to delete since.  The tracked replies
are the ledger by which a dispatcher keeps its history correlated: each was
posted for the message under which it is kept, and none was ever retracted.  All
of this rests on timestamps that are given to one message only.
-/

namespace ChatBot

/-- A message was posted for a source message, and its receipt names the place. -/
def Posted (history : List MadeCall) (source place : MessageKey) : Prop :=
  ∃ message receipt,
    (Origin.source source, Call.send source.channel message (.ok receipt)) ∈ history ∧
      receipt.place = place

/-- The place of the message that a call has posted for a source message. -/
def postedFor? (source : MessageKey) : MadeCall → Option MessageKey
  | (.source key, .send channel _ (.ok receipt)) =>
    if key = source ∧ channel = source.channel then some receipt.place else none
  | _ => none

/-- The places of all messages that were posted for a source message, in order. -/
def postedPlaces (history : List MadeCall) (source : MessageKey) : List MessageKey :=
  history.filterMap (postedFor? source)

/-- The deletion of a message was tried, whether it succeeded or failed. -/
def Retracted (history : List MadeCall) (timestamp : Timestamp) : Prop :=
  ∃ origin channel result, (origin, Call.delete channel timestamp result) ∈ history

/-- The timestamps that the messages of a history were given. -/
def postedTimestamps (history : List MadeCall) : List Timestamp :=
  history.filterMap fun made => made.2.postedTimestamp?

/-- A call that is aimed at a message is made for the source message for which that
message was posted, and before any deletion of it was tried. -/
def Rightful (history : List MadeCall) (made : MadeCall) : Prop :=
  ∀ place, made.2.target? = some place →
    ∃ source, made.1 = .source source ∧ Posted history source place ∧
      ¬ Retracted history place.timestamp

/-- Every call of a history is rightful after the calls before it. -/
def Correlated (history : List MadeCall) : Prop :=
  ∀ before made after, history = before ++ made :: after → Rightful before made

section History

variable {history calls : List MadeCall}

theorem Posted.append_left {source place : MessageKey} (posted : Posted history source place)
    (calls : List MadeCall) : Posted (history ++ calls) source place := by
  obtain ⟨message, receipt, member, place_eq⟩ := posted
  exact ⟨message, receipt, List.mem_append_left calls member, place_eq⟩

theorem Posted.append_right {source place : MessageKey} (posted : Posted calls source place)
    (history : List MadeCall) : Posted (history ++ calls) source place := by
  obtain ⟨message, receipt, member, place_eq⟩ := posted
  exact ⟨message, receipt, List.mem_append_right history member, place_eq⟩

theorem retracted_append {timestamp : Timestamp} :
    Retracted (history ++ calls) timestamp ↔
      Retracted history timestamp ∨ Retracted calls timestamp := by
  simp [Retracted, exists_or]

theorem postedTimestamps_append (first second : List MadeCall) :
    postedTimestamps (first ++ second) = postedTimestamps first ++ postedTimestamps second :=
  List.filterMap_append

theorem mem_postedTimestamps {made : MadeCall} {timestamp : Timestamp} (member : made ∈ history)
    (given : made.2.postedTimestamp? = some timestamp) : timestamp ∈ postedTimestamps history :=
  List.mem_filterMap.mpr ⟨made, member, given⟩

theorem Posted.mem_postedTimestamps {source place : MessageKey}
    (posted : Posted history source place) : place.timestamp ∈ postedTimestamps history := by
  obtain ⟨message, receipt, member, rfl⟩ := posted
  exact ChatBot.mem_postedTimestamps member rfl

theorem postedFor?_eq_some {source place : MessageKey} {made : MadeCall} :
    postedFor? source made = some place ↔
      ∃ message receipt, made = (.source source, .send source.channel message (.ok receipt)) ∧
        receipt.place = place := by
  constructor
  · intro posted
    match made, posted with
    | (.source key, .send channel message (.ok receipt)), posted =>
      simp only [postedFor?, Option.ite_none_right_eq_some, Option.some.injEq] at posted
      obtain ⟨⟨rfl, rfl⟩, place_eq⟩ := posted
      exact ⟨message, receipt, rfl, place_eq⟩
  · rintro ⟨message, receipt, rfl, rfl⟩
    simp [postedFor?]

theorem mem_postedPlaces {source place : MessageKey} :
    place ∈ postedPlaces history source ↔ Posted history source place := by
  unfold postedPlaces Posted
  rw [List.mem_filterMap]
  constructor
  · rintro ⟨made, member, posted⟩
    obtain ⟨message, receipt, rfl, place_eq⟩ := postedFor?_eq_some.mp posted
    exact ⟨message, receipt, member, place_eq⟩
  · rintro ⟨message, receipt, member, place_eq⟩
    exact ⟨_, member, postedFor?_eq_some.mpr ⟨message, receipt, rfl, place_eq⟩⟩

theorem postedPlaces_append (first second : List MadeCall) (source : MessageKey) :
    postedPlaces (first ++ second) source =
      postedPlaces first source ++ postedPlaces second source :=
  List.filterMap_append

/-- Where timestamps are given once only, a timestamp tells which call it was given
to. -/
theorem made_unique (fresh : (postedTimestamps history).Nodup) {first second : MadeCall}
    {timestamp : Timestamp} (member : first ∈ history) (other : second ∈ history)
    (given : first.2.postedTimestamp? = some timestamp)
    (again : second.2.postedTimestamp? = some timestamp) : first = second := by
  induction history with
  | nil => simp at member
  | cons head rest ih =>
      have split := postedTimestamps_append [head] rest
      rw [List.singleton_append] at split
      rw [split, List.nodup_append] at fresh
      obtain ⟨-, later, apart⟩ := fresh
      rcases List.mem_cons.mp member with rfl | inside <;>
        rcases List.mem_cons.mp other with rfl | inside'
      · rfl
      · have early := mem_postedTimestamps (List.mem_singleton_self first) given
        exact absurd rfl (apart _ early _ (mem_postedTimestamps inside' again))
      · have early := mem_postedTimestamps (List.mem_singleton_self second) again
        exact absurd rfl (apart _ early _ (mem_postedTimestamps inside given))
      · exact ih later inside inside'

/-- Where timestamps are given once only, a timestamp tells for which source message
a message was posted, and at which place. -/
theorem Posted.unique (fresh : (postedTimestamps history).Nodup)
    {first second firstPlace secondPlace : MessageKey} (posted : Posted history first firstPlace)
    (other : Posted history second secondPlace)
    (same : firstPlace.timestamp = secondPlace.timestamp) :
    first = second ∧ firstPlace = secondPlace := by
  obtain ⟨message, receipt, member, rfl⟩ := posted
  obtain ⟨message', receipt', member', rfl⟩ := other
  have calls_eq := made_unique fresh member member' rfl (congrArg some same.symm)
  simp only [Prod.mk.injEq, Origin.source.injEq, Call.send.injEq, Except.ok.injEq] at calls_eq
  obtain ⟨source_eq, -, -, receipt_eq⟩ := calls_eq
  exact ⟨source_eq, congrArg Receipt.place receipt_eq⟩

theorem correlated_nil : Correlated [] := by
  intro before made after split
  simp at split

theorem correlated_concat {made : MadeCall} :
    Correlated (history ++ [made]) ↔ Correlated history ∧ Rightful history made := by
  constructor
  · intro correlated
    constructor
    · rintro before earlier after rfl
      exact correlated before earlier (after ++ [made]) (by simp)
    · exact correlated history made [] rfl
  · rintro ⟨correlated, rightful⟩ before later after split
    rcases List.eq_nil_or_concat after with rfl | ⟨front, last, rfl⟩
    · obtain ⟨rfl, rest⟩ := List.append_inj' split rfl
      obtain rfl := List.head_eq_of_cons_eq rest
      exact rightful
    · rw [List.concat_eq_append, ← List.cons_append, ← List.append_assoc] at split
      obtain ⟨rfl, -⟩ := List.append_inj' split rfl
      exact correlated before later front rfl

theorem Correlated.append_untargeted (correlated : Correlated history)
    (untargeted : ∀ made ∈ calls, made.2.target? = none) : Correlated (history ++ calls) := by
  induction calls generalizing history with
  | nil => simpa using correlated
  | cons made rest ih =>
      rw [List.append_cons]
      apply ih
      · refine correlated_concat.mpr ⟨correlated, ?_⟩
        intro place aimed
        simp [untargeted made (by simp)] at aimed
      · intro later member
        exact untargeted later (List.mem_cons_of_mem made member)

theorem Correlated.posted_of_retracted (correlated : Correlated history) {timestamp : Timestamp}
    (retracted : Retracted history timestamp) : timestamp ∈ postedTimestamps history := by
  obtain ⟨origin, channel, result, member⟩ := retracted
  obtain ⟨before, after, rfl⟩ := List.append_of_mem member
  obtain ⟨source, -, posted, -⟩ := correlated before _ after rfl ⟨channel, timestamp⟩ rfl
  rw [postedTimestamps_append]
  exact List.mem_append_left _ posted.mem_postedTimestamps

end History

/-! ## Attempts -/

section Attempts

variable {history : List MadeCall} {source : MessageKey}

theorem correlated_changes (attempts : List ChangeAttempt) (correlated : Correlated history)
    (tracked : ∀ attempt ∈ attempts, Posted history source attempt.1.1.place ∧
      ¬ Retracted history attempt.1.1.timestamp) :
    Correlated (history ++ attempts.map (ChangeAttempt.call source)) := by
  induction attempts generalizing history with
  | nil => simpa using correlated
  | cons attempt rest ih =>
      rw [List.map_cons, List.append_cons]
      apply ih
      · refine correlated_concat.mpr ⟨correlated, ?_⟩
        rintro place aimed
        obtain rfl := Option.some.inj aimed
        exact ⟨source, rfl, tracked attempt (by simp)⟩
      · intro later member
        obtain ⟨posted, kept⟩ := tracked later (List.mem_cons_of_mem attempt member)
        refine ⟨posted.append_left _, ?_⟩
        rw [retracted_append]
        simpa [Retracted, ChangeAttempt.call] using kept

theorem correlated_deletions (attempts : List DeleteAttempt) (correlated : Correlated history)
    (tracked : ∀ attempt ∈ attempts, Posted history source attempt.1.place ∧
      ¬ Retracted history attempt.1.timestamp)
    (distinct : (attempts.map fun attempt => attempt.1.timestamp).Nodup) :
    Correlated (history ++ attempts.map (DeleteAttempt.call source)) := by
  induction attempts generalizing history with
  | nil => simpa using correlated
  | cons attempt rest ih =>
      rw [List.map_cons, List.nodup_cons] at distinct
      rw [List.map_cons, List.append_cons]
      apply ih _ _ distinct.2
      · refine correlated_concat.mpr ⟨correlated, ?_⟩
        rintro place aimed
        obtain rfl := Option.some.inj aimed
        exact ⟨source, rfl, tracked attempt (by simp)⟩
      · intro later member
        obtain ⟨posted, kept⟩ := tracked later (List.mem_cons_of_mem attempt member)
        refine ⟨posted.append_left _, ?_⟩
        rw [retracted_append]
        rintro (retracted | ⟨origin, channel, result, made⟩)
        · exact kept retracted
        · simp only [DeleteAttempt.call, List.mem_singleton, Prod.mk.injEq, Call.delete.injEq] at made
          apply distinct.1
          rw [← made.2.2.1]
          exact List.mem_map_of_mem (f := fun attempt : DeleteAttempt => attempt.1.timestamp) member

theorem retracted_changes (attempts : List ChangeAttempt) (timestamp : Timestamp) :
    ¬ Retracted (attempts.map (ChangeAttempt.call source)) timestamp := by
  simp [Retracted, ChangeAttempt.call]

theorem retracted_posts (settings : ReplySettings) (attempts : List PostAttempt)
    (timestamp : Timestamp) :
    ¬ Retracted (attempts.map (PostAttempt.call settings source)) timestamp := by
  simp [Retracted, PostAttempt.call]

theorem retracted_deletions {attempts : List DeleteAttempt} {timestamp : Timestamp}
    (retracted : Retracted (attempts.map (DeleteAttempt.call source)) timestamp) :
    ∃ reply ∈ attempts.map Prod.fst, reply.timestamp = timestamp := by
  obtain ⟨origin, channel, result, member⟩ := retracted
  obtain ⟨attempt, inside, made⟩ := List.mem_map.mp member
  simp only [DeleteAttempt.call, Prod.mk.injEq, Call.delete.injEq] at made
  exact ⟨attempt.1, List.mem_map_of_mem inside, made.2.2.1⟩

theorem posted_of_mem_posts (settings : ReplySettings) {attempts : List PostAttempt}
    {reply : ReplyRecord} (member : reply ∈ attempts.filterMap PostAttempt.reply?) :
    Posted (attempts.map (PostAttempt.call settings source)) source reply.place := by
  obtain ⟨⟨answer, result⟩, inside, accepted⟩ := List.mem_filterMap.mp member
  cases result with
  | error error => simp at accepted
  | ok receipt =>
      obtain rfl := Option.some.inj accepted
      exact ⟨settings.outgoing source.timestamp answer, receipt,
        List.mem_map.mpr ⟨_, inside, rfl⟩, rfl⟩

/-- The replies that are remembered after attempts to post have the timestamps that
were given. -/
theorem postedTimestamps_posts (settings : ReplySettings) (attempts : List PostAttempt) :
    postedTimestamps (attempts.map (PostAttempt.call settings source)) =
      (attempts.filterMap PostAttempt.reply?).map (·.timestamp) := by
  induction attempts with
  | nil => rfl
  | cons attempt rest ih =>
      obtain ⟨answer, result⟩ := attempt
      unfold postedTimestamps at ih ⊢
      cases result with
      | ok receipt =>
          simp only [List.map_cons, List.filterMap_cons, PostAttempt.reply?_ok, ← ih]
          rfl
      | error error =>
          simp only [List.map_cons, List.filterMap_cons, PostAttempt.reply?_error, ← ih]
          rfl

end Attempts

/-! ## The ledger -/

/-- The tracked replies agree with the calls that were made: the history is
correlated, and each reply was posted for the message under which it is kept, has a
timestamp of its own there, and was never retracted. -/
structure Ledger (cache : ReplyCache) (history : List MadeCall) : Prop where
  correlated : Correlated history
  posted : ∀ entry ∈ cache.entries, ∀ reply ∈ entry.2, Posted history entry.1 reply.place
  kept : ∀ entry ∈ cache.entries, ∀ reply ∈ entry.2, ¬ Retracted history reply.timestamp
  distinct : ∀ entry ∈ cache.entries, (entry.2.map (·.timestamp)).Nodup

namespace Ledger

variable {cache : ReplyCache} {history calls : List MadeCall} {settings : ReplySettings}
  {source : MessageKey} {previous replies : List ReplyRecord} {answers : List Answer}

theorem empty (capacity : Nat) : Ledger (Lru.empty capacity) [] where
  correlated := correlated_nil
  posted := by simp [Lru.empty]
  kept := by simp [Lru.empty]
  distinct := by simp [Lru.empty]

theorem tracked_previous (ledger : Ledger cache history)
    (found : previous = [] ∨ (source, previous) ∈ cache.entries) :
    (∀ reply ∈ previous, Posted history source reply.place ∧
      ¬ Retracted history reply.timestamp) ∧ (previous.map (·.timestamp)).Nodup := by
  rcases found with rfl | member
  · simp
  · refine ⟨?_, ledger.distinct _ member⟩
    intro reply tracked
    exact ⟨ledger.posted _ member reply tracked, ledger.kept _ member reply tracked⟩

/-- Calls that retract nothing but the replies that were found leave all other
entries in order. -/
theorem store (ledger : Ledger cache history) (fresh : (postedTimestamps history).Nodup)
    (found : previous = [] ∨ (source, previous) ∈ cache.entries)
    (correlated : Correlated (history ++ calls))
    (posted : ∀ reply ∈ replies, Posted (history ++ calls) source reply.place)
    (kept : ∀ reply ∈ replies, ¬ Retracted (history ++ calls) reply.timestamp)
    (distinct : (replies.map (·.timestamp)).Nodup)
    (retracts : ∀ timestamp, Retracted calls timestamp →
      ∃ reply ∈ previous, reply.timestamp = timestamp) :
    Ledger (ReplyCache.store cache source replies) (history ++ calls) where
  correlated := correlated
  posted entry member reply tracked := by
    rcases ReplyCache.mem_store member with ⟨rfl, -⟩ | ⟨old, -⟩
    · exact posted reply tracked
    · exact (ledger.posted entry old reply tracked).append_left calls
  kept entry member reply tracked := by
    rcases ReplyCache.mem_store member with ⟨rfl, -⟩ | ⟨old, other⟩
    · exact kept reply tracked
    · rw [retracted_append]
      rintro (retracted | retracted)
      · exact ledger.kept entry old reply tracked retracted
      · -- The retracted reply was posted for the source of this step, and this one was not.
        obtain ⟨gone, wasTracked, same⟩ := retracts _ retracted
        have wasPosted := ((ledger.tracked_previous found).1 gone wasTracked).1
        have isPosted := ledger.posted entry old reply tracked
        exact other (isPosted.unique fresh wasPosted same.symm).1
  distinct entry member := by
    rcases ReplyCache.mem_store member with ⟨rfl, -⟩ | ⟨old, -⟩
    · exact distinct
    · exact ledger.distinct entry old

private theorem changed (ledger : Ledger cache history)
    (fresh : (postedTimestamps history).Nodup)
    (found : previous = [] ∨ (source, previous) ∈ cache.entries) (attempts : List ChangeAttempt)
    (same : previous.length = answers.length)
    (changes : attempts.map Prod.fst = previous.zip answers) :
    Ledger (ReplyCache.store cache source (attempts.map ChangeAttempt.reply))
      (history ++ attempts.map (ChangeAttempt.call source)) := by
  obtain ⟨tracked, nodup⟩ := ledger.tracked_previous found
  have olds := ChangeAttempt.map_old same changes
  have attempted : ∀ attempt ∈ attempts, attempt.1.1 ∈ previous := by
    intro attempt member
    rw [← olds]
    exact List.mem_map_of_mem (f := fun attempt : ChangeAttempt => attempt.1.1) member
  apply ledger.store fresh found
  · apply correlated_changes attempts ledger.correlated
    intro attempt member
    exact tracked attempt.1.1 (attempted attempt member)
  · intro reply member
    obtain ⟨attempt, inside, rfl⟩ := List.mem_map.mp member
    rw [ChangeAttempt.reply_place]
    exact (tracked _ (attempted attempt inside)).1.append_left _
  · intro reply member
    obtain ⟨attempt, inside, rfl⟩ := List.mem_map.mp member
    rw [ChangeAttempt.reply_timestamp, retracted_append]
    rintro (retracted | retracted)
    · exact (tracked _ (attempted attempt inside)).2 retracted
    · exact retracted_changes attempts _ retracted
  · have stamps := congrArg (List.map MessageKey.timestamp)
      (ChangeAttempt.map_reply_place same changes)
    simp only [List.map_map] at stamps ⊢
    exact (congrArg List.Nodup stamps).mpr nodup
  · intro timestamp retracted
    exact absurd retracted (retracted_changes attempts timestamp)

private theorem replaced (ledger : Ledger cache history)
    (found : previous = [] ∨ (source, previous) ∈ cache.entries)
    (deletions : List DeleteAttempt) (posts : List PostAttempt)
    (deleted : deletions.map Prod.fst = previous)
    (fresh : (postedTimestamps (history ++ (deletions.map (DeleteAttempt.call source) ++
      posts.map (PostAttempt.call settings source)))).Nodup) :
    Ledger (ReplyCache.store cache source (posts.filterMap PostAttempt.reply?))
      (history ++ (deletions.map (DeleteAttempt.call source) ++
        posts.map (PostAttempt.call settings source))) := by
  obtain ⟨tracked, nodup⟩ := ledger.tracked_previous found
  rw [postedTimestamps_append, postedTimestamps_append, List.nodup_append,
    List.nodup_append] at fresh
  obtain ⟨freshHistory, ⟨-, freshPosts, -⟩, apart⟩ := fresh
  have attempted : ∀ attempt ∈ deletions, attempt.1 ∈ previous := by
    intro attempt member
    rw [← deleted]
    exact List.mem_map_of_mem member
  have afterDeletions := correlated_deletions deletions ledger.correlated
    (fun attempt member => tracked attempt.1 (attempted attempt member))
    (by rw [← deleted, List.map_map] at nodup; exact nodup)
  have retracts : ∀ timestamp, Retracted (deletions.map (DeleteAttempt.call source) ++
      posts.map (PostAttempt.call settings source)) timestamp →
      ∃ reply ∈ previous, reply.timestamp = timestamp := by
    intro timestamp retracted
    rw [retracted_append] at retracted
    rcases retracted with retracted | retracted
    · rw [← deleted]
      exact retracted_deletions retracted
    · exact absurd retracted (retracted_posts settings posts timestamp)
  apply ledger.store freshHistory found _ _ _ _ retracts
  · rw [← List.append_assoc]
    apply afterDeletions.append_untargeted
    intro made member
    obtain ⟨attempt, -, rfl⟩ := List.mem_map.mp member
    rfl
  · intro reply member
    exact ((posted_of_mem_posts settings member).append_right _).append_right _
  · -- A timestamp that is given now was not given before, so nothing with it is retracted.
    intro reply member retracted
    have posted : Posted (posts.map (PostAttempt.call settings source)) source reply.place :=
      posted_of_mem_posts settings member
    have given := posted.mem_postedTimestamps
    have before : reply.timestamp ∈ postedTimestamps history := by
      rw [retracted_append] at retracted
      rcases retracted with retracted | retracted
      · exact ledger.correlated.posted_of_retracted retracted
      · obtain ⟨gone, wasTracked, same⟩ := retracts _ retracted
        rw [← same]
        exact (tracked gone wasTracked).1.mem_postedTimestamps
    exact apart _ before _ (List.mem_append_right _ given) rfl
  · rw [postedTimestamps_posts] at freshPosts
    exact freshPosts

/-- Bringing the replies to a message in step with its answers keeps the ledger in
order. -/
theorem reconciled (ledger : Ledger cache history)
    (fresh : (postedTimestamps (history ++ calls)).Nodup)
    (found : previous = [] ∨ (source, previous) ∈ cache.entries)
    (reconciled : Reconciled settings source previous answers calls replies) :
    Ledger (ReplyCache.store cache source replies) (history ++ calls) := by
  have freshHistory : (postedTimestamps history).Nodup := by
    rw [postedTimestamps_append, List.nodup_append] at fresh
    exact fresh.1
  cases reconciled with
  | changed attempts same changes =>
      exact ledger.changed freshHistory found attempts same changes
  | replaced deletions posts differ deleted posted =>
      exact ledger.replaced found deletions posts deleted fresh

end Ledger

end ChatBot
