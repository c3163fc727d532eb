import ChatBot.Proofs.Cache.KnownUsers
import ChatBot.Proofs.Dispatch.Ledger
import Mathlib.Data.List.Forall2

/-!
# Attending to one message

What a dispatcher does about one source message follows from what it is told about that
message and from the replies that it has on record for it.  Two dispatchers that are told
the same about a message, and whose calls are all accepted, therefore make the same calls
about it, but for the timestamps that their replies were given.
-/

namespace ChatBot

namespace DispatchStep

/-- The replies that a step finds, of those on record for its message. -/
def finds (record : List ReplyRecord) : DispatchStep → List ReplyRecord
  | posted _ => []
  | edited _ | deleted _ => record

theorem previous_eq_finds (cache : ReplyCache) (step : DispatchStep) :
    step.previous cache = step.finds (cache.repliesTo step.key) := by
  cases step <;> rfl

end DispatchStep

namespace Dispatcher

variable {δ : Type} (dispatcher : Dispatcher δ)

/-- The answers that are due after a step, where every user is looked up in one table. -/
def due (tracks : Bool) : DispatchStep → List Answer
  | .posted envelope => (dispatcher.registry.answersFor envelope).value (dispatcher.users 0)
  | .edited envelope =>
    if tracks then (dispatcher.registry.answersFor envelope).value (dispatcher.users 0) else []
  | .deleted _ => []

variable {dispatcher} {desk : Desk δ}

theorem wanted_eq_due (fixed : dispatcher.users.Fixed)
    (faithful : desk.users.Faithful dispatcher.users) (step : DispatchStep) :
    dispatcher.wanted desk step = dispatcher.due desk.replies.isEnabled step := by
  have answers_eq := fun envelope =>
    (Inquiry.run_faithful fixed (dispatcher.registry.answersFor envelope) faithful).1
  cases step with
  | posted envelope => exact answers_eq envelope
  | edited envelope => simp [wanted, due, answersFor, answers_eq]
  | deleted key => rfl

theorem faithful_take (fixed : dispatcher.users.Fixed)
    (faithful : desk.users.Faithful dispatcher.users) (step : DispatchStep) :
    (dispatcher.take desk step).1.users.Faithful dispatcher.users := by
  rcases dispatcher.users_take desk step with same | ⟨envelope, asked⟩
  · rwa [same]
  · rw [asked]
    exact (Inquiry.run_faithful fixed (dispatcher.registry.answersFor envelope) faithful).2

end Dispatcher

/-- What comes of steps about one message: the calls that are made, and the replies that are
on record in the end.  Who tracks nothing has none on record. -/
inductive Attended (settings : ReplySettings) (key : MessageKey)
    (due : DispatchStep → List Answer) (tracks : Bool) :
    List ReplyRecord → List DispatchStep → List MadeCall → List ReplyRecord → Prop where
  | done (record : List ReplyRecord) : Attended settings key due tracks record [] [] record
  | step (step : DispatchStep) {record next last : List ReplyRecord}
      {rest : List DispatchStep} {made calls : List MadeCall}
      (reconciled : Reconciled settings key (step.finds record) (due step) made next)
      (later : Attended settings key due tracks (if tracks then next else []) rest calls last) :
      Attended settings key due tracks record (step :: rest) (made ++ calls) last

theorem Attended.concat {settings : ReplySettings} {key : MessageKey}
    {due : DispatchStep → List Answer} {tracks : Bool} {first record next : List ReplyRecord}
    {steps : List DispatchStep} {calls made : List MadeCall} {step : DispatchStep}
    (attended : Attended settings key due tracks first steps calls record)
    (reconciled : Reconciled settings key (step.finds record) (due step) made next) :
    Attended settings key due tracks first (steps ++ [step]) (calls ++ made)
      (if tracks then next else []) := by
  induction attended with
  | done record =>
      have whole := Attended.step step reconciled (.done (if tracks then next else []))
      simpa using whole
  | step earlier reconciled' later ih =>
      rw [List.cons_append, List.append_assoc]
      exact .step earlier reconciled' (ih reconciled)

/-! ## Renamed timestamps -/

/-- Which timestamp of one course of calls stands for which of another. -/
abbrev Renaming := List (Timestamp × Timestamp)

/-- A reply stands for another. -/
def ReplyRecord.Renamed (names : Renaming) (first second : ReplyRecord) : Prop :=
  first.channel = second.channel ∧ (first.timestamp, second.timestamp) ∈ names

namespace Call

/-- Accepted calls that are the same but for the timestamps of replies. -/
inductive Renamed (names : Renaming) : Call → Call → Prop where
  | send (channel : String) (message : OutgoingMessage) (first second : Receipt)
      (there : first.channel = second.channel)
      (given : (first.timestamp, second.timestamp) ∈ names) :
      Renamed names (.send channel message (.ok first)) (.send channel message (.ok second))
  | update (channel : String) (first second : Timestamp) (message : OutgoingMessage)
      (receipt receipt' : Receipt) (given : (first, second) ∈ names) :
      Renamed names (.update channel first message (.ok receipt))
        (.update channel second message (.ok receipt'))
  | delete (channel : String) (first second : Timestamp) (given : (first, second) ∈ names) :
      Renamed names (.delete channel first (.ok ())) (.delete channel second (.ok ()))

theorem Renamed.mono {names larger : Renaming} {first second : Call}
    (renamed : first.Renamed names second) (subset : names ⊆ larger) :
    first.Renamed larger second := by
  cases renamed with
  | send channel message first second there given =>
      exact .send channel message first second there (subset given)
  | update channel first second message receipt receipt' given =>
      exact .update channel first second message receipt receipt' (subset given)
  | delete channel first second given => exact .delete channel first second (subset given)

/-- Whether the platform has accepted a call, and has filed a new message where it files all
messages of that channel. -/
def kept (home : String → String) : Call → Bool
  | send channel _ (.ok receipt) => receipt.channel = home channel
  | update _ _ _ (.ok _) | delete _ _ (.ok _) => true
  | _ => false

end Call

/-- Calls that are made on the same behalf and are the same but for the timestamps of
replies. -/
def MadeCall.Renamed (names : Renaming) (first second : MadeCall) : Prop :=
  first.1 = second.1 ∧ first.2.Renamed names second.2

/-- The renaming by which the messages that were posted in one course of calls stand, in
order, for those of another. -/
def renamingOf (first second : List MadeCall) : Renaming :=
  (postedTimestamps first).zip (postedTimestamps second)

/-- Two courses of calls that are the same but for the timestamps of replies: those that
were given before, and those that are given in the course. -/
structure SameCalls (before : Renaming) (first second : List MadeCall) : Prop where
  length_eq : (postedTimestamps first).length = (postedTimestamps second).length
  calls : List.Forall₂ (MadeCall.Renamed (before ++ renamingOf first second)) first second

theorem MadeCall.Renamed.mono {names larger : Renaming} {first second : MadeCall}
    (renamed : MadeCall.Renamed names first second) (subset : names ⊆ larger) :
    MadeCall.Renamed larger first second :=
  ⟨renamed.1, renamed.2.mono subset⟩

namespace SameCalls

variable {before : Renaming} {first second more others : List MadeCall}

theorem nil (before : Renaming) : SameCalls before [] [] :=
  ⟨rfl, .nil⟩

theorem renamingOf_append
    (length_eq : (postedTimestamps first).length = (postedTimestamps second).length)
    (more others : List MadeCall) :
    renamingOf (first ++ more) (second ++ others) =
      renamingOf first second ++ renamingOf more others := by
  rw [renamingOf, postedTimestamps_append, postedTimestamps_append, List.zip_append length_eq]
  rfl

theorem append (start : SameCalls before first second)
    (rest : SameCalls (before ++ renamingOf first second) more others) :
    SameCalls before (first ++ more) (second ++ others) := by
  constructor
  · simp only [postedTimestamps_append, List.length_append, start.length_eq, rest.length_eq]
  · rw [renamingOf_append start.length_eq more others, ← List.append_assoc]
    refine List.rel_append (start.calls.imp fun made made' renamed => ?_) rest.calls
    exact renamed.mono (List.subset_append_left _ _)

/-- A call that is aimed at a reply gives no timestamp. -/
theorem cons_untimed {made made' : MadeCall} (renamed : MadeCall.Renamed before made made')
    (untimed : made.2.postedTimestamp? = none) (untimed' : made'.2.postedTimestamp? = none)
    (rest : SameCalls before first second) :
    SameCalls before (made :: first) (made' :: second) ∧
      renamingOf (made :: first) (made' :: second) = renamingOf first second := by
  have times : postedTimestamps (made :: first) = postedTimestamps first := by
    simp [postedTimestamps, untimed]
  have times' : postedTimestamps (made' :: second) = postedTimestamps second := by
    simp [postedTimestamps, untimed']
  have names : renamingOf (made :: first) (made' :: second) = renamingOf first second := by
    rw [renamingOf, times, times', renamingOf]
  refine ⟨⟨?_, ?_⟩, names⟩
  · rw [times, times']
    exact rest.length_eq
  · rw [names]
    exact .cons (renamed.mono (List.subset_append_left _ _)) rest.calls

end SameCalls

section Attempts

variable {before : Renaming} {settings : ReplySettings} {source : MessageKey}
  {home : String → String} {previous previous' : List ReplyRecord}

theorem sameCalls_changes (related : List.Forall₂ (ReplyRecord.Renamed before) previous previous')
    {answers : List Answer} {attempts attempts' : List ChangeAttempt}
    (changes : attempts.map Prod.fst = previous.zip answers)
    (changes' : attempts'.map Prod.fst = previous'.zip answers)
    (kept : ∀ made ∈ attempts.map (ChangeAttempt.call source), made.2.kept home)
    (kept' : ∀ made ∈ attempts'.map (ChangeAttempt.call source), made.2.kept home) :
    SameCalls before (attempts.map (ChangeAttempt.call source))
        (attempts'.map (ChangeAttempt.call source)) ∧
      renamingOf (attempts.map (ChangeAttempt.call source))
        (attempts'.map (ChangeAttempt.call source)) = [] ∧
      List.Forall₂ (ReplyRecord.Renamed before) (attempts.map ChangeAttempt.reply)
        (attempts'.map ChangeAttempt.reply) := by
  induction related generalizing answers attempts attempts' with
  | nil =>
      obtain rfl := List.map_eq_nil_iff.mp changes
      obtain rfl := List.map_eq_nil_iff.mp changes'
      exact ⟨.nil before, rfl, .nil⟩
  | @cons old old' rest rest' renamed related ih =>
      cases answers with
      | nil =>
          obtain rfl := List.map_eq_nil_iff.mp changes
          obtain rfl := List.map_eq_nil_iff.mp changes'
          exact ⟨.nil before, rfl, .nil⟩
      | cons answer answers =>
          obtain ⟨⟨_, result⟩, attempts, rfl, rfl, later⟩ := List.map_eq_cons_iff.mp changes
          obtain ⟨⟨_, result'⟩, attempts', rfl, rfl, later'⟩ := List.map_eq_cons_iff.mp changes'
          obtain ⟨keptFirst, keptRest⟩ := List.forall_mem_cons.mp kept
          obtain ⟨keptFirst', keptRest'⟩ := List.forall_mem_cons.mp kept'
          cases result with
          | error error => exact absurd keptFirst (by simp [ChangeAttempt.call, Call.kept])
          | ok receipt =>
              cases result' with
              | error error => exact absurd keptFirst' (by simp [ChangeAttempt.call, Call.kept])
              | ok receipt' =>
                  obtain ⟨calls, none, records⟩ := ih later later' keptRest keptRest'
                  have here : MadeCall.Renamed before
                      (ChangeAttempt.call source ((old, answer), .ok receipt))
                      (ChangeAttempt.call source ((old', answer), .ok receipt')) := by
                    refine ⟨rfl, ?_⟩
                    rw [ChangeAttempt.call, ChangeAttempt.call, renamed.1]
                    exact .update old'.channel _ _ answer.replacement receipt receipt' renamed.2
                  obtain ⟨whole, names⟩ := calls.cons_untimed here rfl rfl
                  exact ⟨whole, names.trans none, .cons ⟨renamed.1, renamed.2⟩ records⟩

theorem sameCalls_deletions
    (related : List.Forall₂ (ReplyRecord.Renamed before) previous previous')
    {attempts attempts' : List DeleteAttempt} (deleted : attempts.map Prod.fst = previous)
    (deleted' : attempts'.map Prod.fst = previous')
    (kept : ∀ made ∈ attempts.map (DeleteAttempt.call source), made.2.kept home)
    (kept' : ∀ made ∈ attempts'.map (DeleteAttempt.call source), made.2.kept home) :
    SameCalls before (attempts.map (DeleteAttempt.call source))
      (attempts'.map (DeleteAttempt.call source)) := by
  induction related generalizing attempts attempts' with
  | nil =>
      obtain rfl := List.map_eq_nil_iff.mp deleted
      obtain rfl := List.map_eq_nil_iff.mp deleted'
      exact .nil before
  | @cons old old' rest rest' renamed related ih =>
      obtain ⟨⟨old, result⟩, attempts, rfl, rfl, later⟩ := List.map_eq_cons_iff.mp deleted
      obtain ⟨⟨old', result'⟩, attempts', rfl, rfl, later'⟩ := List.map_eq_cons_iff.mp deleted'
      obtain ⟨keptFirst, keptRest⟩ := List.forall_mem_cons.mp kept
      obtain ⟨keptFirst', keptRest'⟩ := List.forall_mem_cons.mp kept'
      cases result with
      | error error => exact absurd keptFirst (by simp [DeleteAttempt.call, Call.kept])
      | ok _ =>
          cases result' with
          | error error => exact absurd keptFirst' (by simp [DeleteAttempt.call, Call.kept])
          | ok _ =>
              have here : MadeCall.Renamed before (DeleteAttempt.call source (old, .ok ()))
                  (DeleteAttempt.call source (old', .ok ())) := by
                refine ⟨rfl, ?_⟩
                rw [DeleteAttempt.call, DeleteAttempt.call, renamed.1]
                exact .delete old'.channel _ _ renamed.2
              have rest := ih later later' keptRest keptRest'
              exact (rest.cons_untimed here rfl rfl).1

/-- Posting the same answers gives, in order, replies that stand for each other. -/
theorem sameCalls_posts (before : Renaming) {posts posts' : List PostAttempt}
    (same : posts.map Prod.fst = posts'.map Prod.fst)
    (kept : ∀ made ∈ posts.map (PostAttempt.call settings source), made.2.kept home)
    (kept' : ∀ made ∈ posts'.map (PostAttempt.call settings source), made.2.kept home) :
    SameCalls before (posts.map (PostAttempt.call settings source))
        (posts'.map (PostAttempt.call settings source)) ∧
      List.Forall₂ (ReplyRecord.Renamed (before ++ renamingOf
        (posts.map (PostAttempt.call settings source))
        (posts'.map (PostAttempt.call settings source))))
        (posts.filterMap PostAttempt.reply?) (posts'.filterMap PostAttempt.reply?) := by
  induction posts generalizing before posts' with
  | nil =>
      obtain rfl := List.map_eq_nil_iff.mp same.symm
      exact ⟨.nil before, .nil⟩
  | cons post rest ih =>
      obtain ⟨post', rest', rfl, answer_eq, same'⟩ := List.map_eq_cons_iff.mp same.symm
      obtain ⟨answer, result⟩ := post
      obtain ⟨answer', result'⟩ := post'
      obtain rfl : answer' = answer := answer_eq
      obtain ⟨keptFirst, keptRest⟩ := List.forall_mem_cons.mp kept
      obtain ⟨keptFirst', keptRest'⟩ := List.forall_mem_cons.mp kept'
      cases result with
      | error error => exact absurd keptFirst (by simp [PostAttempt.call, Call.kept])
      | ok receipt =>
          cases result' with
          | error error => exact absurd keptFirst' (by simp [PostAttempt.call, Call.kept])
          | ok receipt' =>
              have there : receipt.channel = receipt'.channel :=
                (of_decide_eq_true keptFirst).trans (of_decide_eq_true keptFirst').symm
              let made : MadeCall := PostAttempt.call settings source (answer', .ok receipt)
              let made' : MadeCall := PostAttempt.call settings source (answer', .ok receipt')
              have given : (receipt.timestamp, receipt'.timestamp) ∈
                  before ++ renamingOf [made] [made'] :=
                List.mem_append_right _ (List.mem_cons_self ..)
              have first : SameCalls before [made] [made'] :=
                ⟨rfl, .cons ⟨rfl, .send _ _ receipt receipt' there given⟩ .nil⟩
              obtain ⟨calls, records⟩ := ih (before ++ renamingOf [made] [made']) same'.symm keptRest keptRest'
              have names := SameCalls.renamingOf_append first.length_eq
                (rest.map (PostAttempt.call settings source))
                (rest'.map (PostAttempt.call settings source))
              rw [List.append_assoc, ← names] at records
              refine ⟨first.append calls, .cons ⟨there, ?_⟩ records⟩
              exact List.mem_append_right _ (List.mem_cons_self ..)

/-- Bringing replies that stand for each other in step with the same answers takes the same
calls, and leaves replies that stand for each other. -/
theorem Reconciled.sameCalls {answers : List Answer} {calls calls' : List MadeCall}
    {replies replies' : List ReplyRecord}
    (related : List.Forall₂ (ReplyRecord.Renamed before) previous previous')
    (reconciled : Reconciled settings source previous answers calls replies)
    (reconciled' : Reconciled settings source previous' answers calls' replies')
    (kept : ∀ made ∈ calls, made.2.kept home) (kept' : ∀ made ∈ calls', made.2.kept home) :
    SameCalls before calls calls' ∧
      List.Forall₂ (ReplyRecord.Renamed (before ++ renamingOf calls calls')) replies replies' := by
  have lengths := related.length_eq
  cases reconciled with
  | changed attempts same changes =>
      cases reconciled' with
      | replaced deletions posts differ deleted posted => exact absurd (lengths.symm.trans same) differ
      | changed attempts' same' changes' =>
          obtain ⟨calls, none, records⟩ := sameCalls_changes related changes changes' kept kept'
          rw [none, List.append_nil]
          exact ⟨calls, records⟩
  | replaced deletions posts differ deleted posted =>
      cases reconciled' with
      | changed attempts same changes => exact absurd (lengths.trans same) differ
      | replaced deletions' posts' differ' deleted' posted' =>
          obtain ⟨keptDeletions, keptPosts⟩ := List.forall_mem_append.mp kept
          obtain ⟨keptDeletions', keptPosts'⟩ := List.forall_mem_append.mp kept'
          have removed := sameCalls_deletions related deleted deleted' keptDeletions keptDeletions'
          obtain ⟨sent, records⟩ := sameCalls_posts (before ++ renamingOf
            (deletions.map (DeleteAttempt.call source))
            (deletions'.map (DeleteAttempt.call source)))
            (posted.trans posted'.symm) keptPosts keptPosts'
          rw [SameCalls.renamingOf_append removed.length_eq, ← List.append_assoc]
          exact ⟨removed.append sent, records⟩

end Attempts

theorem DispatchStep.finds_renamed {names : Renaming} {record record' : List ReplyRecord}
    (related : List.Forall₂ (ReplyRecord.Renamed names) record record') (step : DispatchStep) :
    List.Forall₂ (ReplyRecord.Renamed names) (step.finds record) (step.finds record') := by
  cases step with
  | posted envelope => exact .nil
  | edited envelope => exact related
  | deleted key => exact related

/-- Attending twice to the same steps takes the same calls, but for the timestamps that
replies are given. -/
theorem Attended.sameCalls {settings : ReplySettings} {key : MessageKey}
    {due : DispatchStep → List Answer} {tracks : Bool} {home : String → String}
    {before : Renaming} {record record' last last' : List ReplyRecord}
    {steps : List DispatchStep} {calls calls' : List MadeCall}
    (attended : Attended settings key due tracks record steps calls last)
    (attended' : Attended settings key due tracks record' steps calls' last')
    (related : List.Forall₂ (ReplyRecord.Renamed before) record record')
    (kept : ∀ made ∈ calls, made.2.kept home) (kept' : ∀ made ∈ calls', made.2.kept home) :
    SameCalls before calls calls' := by
  induction attended generalizing before record' calls' with
  | done record =>
      cases attended'
      exact .nil before
  | step step reconciled later ih =>
      cases attended' with
      | step _ reconciled' later' =>
          obtain ⟨keptNow, keptLater⟩ := List.forall_mem_append.mp kept
          obtain ⟨keptNow', keptLater'⟩ := List.forall_mem_append.mp kept'
          obtain ⟨now, records⟩ :=
            reconciled.sameCalls (step.finds_renamed related) reconciled' keptNow keptNow'
          refine now.append (ih later' ?_ keptLater keptLater')
          cases tracks with
          | false => exact .nil
          | true => exact records

end ChatBot
