import ChatBot.Proofs.Dispatch.ChatKeeper
import ChatBot.Proofs.Dispatch.Requests
import ChatBot.Proofs.Text.Numerals
import Mathlib.Data.String.Basic

/-!
# What the platform kept in memory records

The platform is asked to carry out requests, and between them it may be told to fail or to work
again.  Its records are then the calls that it accepted, and the timestamps that it gave to posts
stand in the order of their texts for as long as their seconds have ten digits.
-/

namespace ChatBot

/-- Something that happens to a platform kept in memory. -/
inductive MemoryOperation where
  | request (asked : Request)
  | setFailing (failing : Bool)

namespace MemoryOperation

/-- The request that is made of the platform, if there is one. -/
def request? : MemoryOperation → Option Request
  | request asked => some asked
  | setFailing _ => none

/-- Which of the requests find the platform at work, given whether it is failing at first. -/
def acceptances (failing : Bool) : List MemoryOperation → List Bool
  | [] => []
  | request _ :: rest => (!failing) :: acceptances failing rest
  | setFailing failing :: rest => acceptances failing rest

end MemoryOperation

namespace Call

/-- The post that a call comes to, with the timestamp of its receipt, if it was accepted. -/
def sent? : Call → Option (String × OutgoingMessage × Timestamp)
  | send channel message (.ok receipt) => some (channel, message, receipt.timestamp)
  | _ => none

/-- The change that a call comes to, if it was accepted. -/
def updated? : Call → Option (String × Timestamp × OutgoingMessage)
  | update channel timestamp message (.ok _) => some (channel, timestamp, message)
  | _ => none

/-- The deletion that a call comes to, if it was accepted. -/
def deleted? : Call → Option (String × Timestamp)
  | delete channel timestamp (.ok _) => some (channel, timestamp)
  | _ => none

/-- An accepted call comes to one thing, and a refused one to nothing. -/
theorem length_filterMap_kinds (calls : List Call) :
    (calls.filterMap sent?).length + (calls.filterMap updated?).length +
      (calls.filterMap deleted?).length = calls.countP accepted := by
  induction calls with
  | nil => rfl
  | cons call rest ih =>
      rcases call with ⟨_, _, _ | _⟩ | ⟨_, _, _, _ | _⟩ | ⟨_, _, _ | _⟩ <;>
        simp only [List.filterMap_cons, List.countP_cons, sent?, updated?, deleted?, accepted,
          List.length_cons, ← ih, if_true, Bool.false_eq_true, if_false, Nat.add_zero] <;>
        omega

end Call

namespace MemoryPlatform

/-- What becomes of the platform in one operation, with the call that is made of it. -/
def operate (platform : MemoryPlatform) : MemoryOperation → List Call × MemoryPlatform
  | .request asked =>
    let (call, platform) := driver.perform platform asked
    ([call], platform)
  | .setFailing failing => ([], platform.setFailing failing)

/-- What becomes of the platform in operations one after another, with the calls that are made. -/
def operateAll (platform : MemoryPlatform) : List MemoryOperation → List Call × MemoryPlatform
  | [] => ([], platform)
  | operation :: rest =>
    let (calls, platform) := platform.operate operation
    let (others, platform) := operateAll platform rest
    (calls ++ others, platform)

/-! ## Timestamps -/

/-- The timestamp of the post that comes after so many. -/
def timestampAfter (posts : Nat) : Timestamp :=
  timestampAt (empty.nextTimestamp + timestampStep * posts)

/-- How many posts are given timestamps with ten digits before the point. -/
def orderedPosts : Nat := 845221405

theorem timestampAfter_injective : Function.Injective timestampAfter := by
  intro first second same
  have seconds := timestampAt_injective same
  simp only [timestampStep] at seconds
  omega

/-- Timestamps with ten digits before the point are ordered as their seconds are. -/
theorem timestampAt_lt {first second : Nat} (low : 10 ^ 9 ≤ first) (less : first < second)
    (high : second < 10 ^ 10) : timestampAt first < timestampAt second := by
  have level : (Numeral.digits first).length = (Numeral.digits second).length := by
    rw [Numeral.length_digits_eq low (less.trans high),
      Numeral.length_digits_eq (low.trans less.le) high]
  change toString first ++ ".000000" < toString second ++ ".000000"
  rw [String.lt_iff_toList_lt, String.toList_append, String.toList_append,
    Numeral.toList_toString, Numeral.toList_toString]
  exact Numeral.digits_append_lt less level _ _

theorem timestampAfter_lt {first second : Nat} (less : first < second)
    (early : second < orderedPosts) : timestampAfter first < timestampAfter second := by
  simp only [orderedPosts] at early
  apply timestampAt_lt <;> simp only [empty, timestampStep] <;> omega

/-- The bound cannot be higher: the next timestamp has one more digit and comes before all the
others. -/
example : timestampAfter orderedPosts < timestampAfter 0 := by
  decide

/-! ## Records -/

/-- The records of the platform are those of the given calls that it accepted, and the posts have
the timestamps from the first on. -/
structure Recorded (platform : MemoryPlatform) (calls : List Call) : Prop where
  sent : platform.sent = calls.filterMap Call.sent?
  updated : platform.updated = calls.filterMap Call.updated?
  deleted : platform.deleted = calls.filterMap Call.deleted?
  given : platform.given = (List.range platform.sent.length).map timestampAfter
  next : platform.nextTimestamp = empty.nextTimestamp + timestampStep * platform.sent.length

theorem recorded_empty : empty.Recorded [] where
  sent := rfl
  updated := rfl
  deleted := rfl
  given := rfl
  next := rfl

variable {platform : MemoryPlatform} {calls : List Call}

theorem accepted_perform (platform : MemoryPlatform) (asked : Request) :
    (driver.perform platform asked).1.accepted = !platform.failing := by
  cases failing : platform.failing <;> cases asked <;>
    simp [ChatDriver.perform, driver, send, update, delete, failing, Call.accepted]

theorem failing_perform (platform : MemoryPlatform) (asked : Request) :
    (driver.perform platform asked).2.failing = platform.failing := by
  cases failing : platform.failing <;> cases asked <;>
    simp [ChatDriver.perform, driver, send, update, delete, failing]

/-- A request that is refused leaves the platform as it is. -/
theorem perform_of_failing (failing : platform.failing = true) (asked : Request) :
    (driver.perform platform asked).2 = platform := by
  cases asked <;> simp [ChatDriver.perform, driver, send, update, delete, failing]

theorem Recorded.send (recorded : platform.Recorded calls) (working : platform.failing = false)
    (channel : String) (message : OutgoingMessage) :
    (platform.send channel message).2.Recorded
      (calls ++ [.send channel message (platform.send channel message).1]) := by
  have stamped : timestampAt platform.nextTimestamp = timestampAfter platform.sent.length := by
    rw [recorded.next, timestampAfter]
  constructor
  · simp [MemoryPlatform.send, working, recorded.sent, Call.sent?]
  · simp [MemoryPlatform.send, working, recorded.updated, List.filterMap_cons, Call.updated?]
  · simp [MemoryPlatform.send, working, recorded.deleted, List.filterMap_cons, Call.deleted?]
  · have before := recorded.given
    rw [MemoryPlatform.given] at before
    simp [MemoryPlatform.send, working, MemoryPlatform.given, before, stamped, List.range_succ]
  · simp [MemoryPlatform.send, working, recorded.next, Nat.mul_succ, Nat.add_assoc]

theorem Recorded.update (recorded : platform.Recorded calls) (working : platform.failing = false)
    (channel : String) (timestamp : Timestamp) (message : OutgoingMessage) :
    (platform.update channel timestamp message).2.Recorded
      (calls ++ [.update channel timestamp message
        (platform.update channel timestamp message).1]) := by
  have given := recorded.given
  have next := recorded.next
  constructor
  · simp [MemoryPlatform.update, working, recorded.sent, List.filterMap_cons, Call.sent?]
  · simp [MemoryPlatform.update, working, recorded.updated, Call.updated?]
  · simp [MemoryPlatform.update, working, recorded.deleted, List.filterMap_cons, Call.deleted?]
  · simpa [MemoryPlatform.update, working, MemoryPlatform.given] using given
  · simpa [MemoryPlatform.update, working] using next

theorem Recorded.delete (recorded : platform.Recorded calls) (working : platform.failing = false)
    (channel : String) (timestamp : Timestamp) :
    (platform.delete channel timestamp).2.Recorded
      (calls ++ [.delete channel timestamp (platform.delete channel timestamp).1]) := by
  have given := recorded.given
  have next := recorded.next
  constructor
  · simp [MemoryPlatform.delete, working, recorded.sent, List.filterMap_cons, Call.sent?]
  · simp [MemoryPlatform.delete, working, recorded.updated, List.filterMap_cons, Call.updated?]
  · simp [MemoryPlatform.delete, working, recorded.deleted, Call.deleted?]
  · simpa [MemoryPlatform.delete, working, MemoryPlatform.given] using given
  · simpa [MemoryPlatform.delete, working] using next

/-- A call that is refused adds nothing to what calls come to. -/
theorem Recorded.refused (recorded : platform.Recorded calls) {call : Call}
    (refused : call.accepted = false) : platform.Recorded (calls ++ [call]) := by
  have nothing : call.sent? = none ∧ call.updated? = none ∧ call.deleted? = none := by
    rcases call with ⟨_, _, _ | _⟩ | ⟨_, _, _, _ | _⟩ | ⟨_, _, _ | _⟩ <;>
      simp_all [Call.accepted, Call.sent?, Call.updated?, Call.deleted?]
  obtain ⟨notSent, notUpdated, notDeleted⟩ := nothing
  constructor
  · simp [recorded.sent, notSent]
  · simp [recorded.updated, notUpdated]
  · simp [recorded.deleted, notDeleted]
  · exact recorded.given
  · exact recorded.next

theorem Recorded.perform (recorded : platform.Recorded calls) (asked : Request) :
    (driver.perform platform asked).2.Recorded (calls ++ [(driver.perform platform asked).1]) := by
  cases failing : platform.failing with
  | true =>
      rw [perform_of_failing failing]
      exact recorded.refused (by rw [accepted_perform, failing]; rfl)
  | false =>
      cases asked with
      | send channel message => exact recorded.send failing channel message
      | update channel timestamp message =>
          exact recorded.update failing channel timestamp message
      | delete channel timestamp => exact recorded.delete failing channel timestamp

theorem Recorded.operate (recorded : platform.Recorded calls) (operation : MemoryOperation) :
    (platform.operate operation).2.Recorded (calls ++ (platform.operate operation).1) := by
  cases operation with
  | request asked => exact recorded.perform asked
  | setFailing failing =>
      refine ⟨?_, ?_, ?_, recorded.given, recorded.next⟩
      · simpa [MemoryPlatform.operate, setFailing] using recorded.sent
      · simpa [MemoryPlatform.operate, setFailing] using recorded.updated
      · simpa [MemoryPlatform.operate, setFailing] using recorded.deleted

theorem Recorded.operateAll (recorded : platform.Recorded calls)
    (operations : List MemoryOperation) :
    (platform.operateAll operations).2.Recorded
      (calls ++ (platform.operateAll operations).1) := by
  induction operations generalizing platform calls with
  | nil => simpa [MemoryPlatform.operateAll] using recorded
  | cons operation rest ih =>
      have later := ih (recorded.operate operation)
      rwa [List.append_assoc] at later

theorem map_request_operateAll (platform : MemoryPlatform) (operations : List MemoryOperation) :
    (platform.operateAll operations).1.map Call.request =
      operations.filterMap MemoryOperation.request? := by
  induction operations generalizing platform with
  | nil => rfl
  | cons operation rest ih =>
      cases operation with
      | request asked =>
          simp [operateAll, operate, MemoryOperation.request?, ChatDriver.request_perform, ih]
      | setFailing failing =>
          simp [operateAll, operate, List.filterMap_cons, MemoryOperation.request?, ih]

theorem map_accepted_operateAll (platform : MemoryPlatform) (operations : List MemoryOperation) :
    (platform.operateAll operations).1.map Call.accepted =
      MemoryOperation.acceptances platform.failing operations := by
  induction operations generalizing platform with
  | nil => rfl
  | cons operation rest ih =>
      cases operation with
      | request asked =>
          simp [operateAll, operate, MemoryOperation.acceptances, accepted_perform,
            failing_perform, ih]
      | setFailing failing =>
          simp [operateAll, operate, MemoryOperation.acceptances, setFailing, ih]

/-! ## The history of a platform -/

/-- What happened to a platform kept in memory.  Each request is made once, in order, and it is
accepted unless the platform was last told to fail; one that is refused leaves the platform as it
is.  The posts, changes and deletions on record are those that were accepted, each kind in order
and with what was asked, and they are as many as the accepted calls.  The posts have the timestamps
from the first on, whatever was changed and deleted between them, so no two are the same, and for
as long as the seconds have ten digits each comes after those before it. -/
theorem history_operateAll (operations : List MemoryOperation) :
    let platform := (empty.operateAll operations).2
    let calls := (empty.operateAll operations).1
    calls.map Call.request = operations.filterMap MemoryOperation.request? ∧
      calls.map Call.accepted = MemoryOperation.acceptances false operations ∧
      (∀ asked, (driver.perform platform asked).1.accepted = false →
        (driver.perform platform asked).2 = platform) ∧
      platform.sent = calls.filterMap Call.sent? ∧
      platform.updated = calls.filterMap Call.updated? ∧
      platform.deleted = calls.filterMap Call.deleted? ∧
      platform.callCount = calls.countP Call.accepted ∧
      platform.given = (List.range platform.sent.length).map timestampAfter ∧
      platform.given.Nodup ∧
      (platform.given.take orderedPosts).Pairwise (· < ·) := by
  intro platform calls
  have recorded : platform.Recorded calls := recorded_empty.operateAll operations
  refine ⟨map_request_operateAll empty operations, map_accepted_operateAll empty operations,
    ?_, recorded.sent, recorded.updated, recorded.deleted, ?_, recorded.given, ?_, ?_⟩
  · intro asked refused
    rw [accepted_perform, Bool.not_eq_false'] at refused
    exact perform_of_failing refused asked
  · rw [callCount, recorded.sent, recorded.updated, recorded.deleted,
      Call.length_filterMap_kinds]
  · rw [recorded.given]
    exact List.nodup_range.map timestampAfter_injective
  · rw [recorded.given, ← List.map_take, List.take_range, List.pairwise_map]
    apply List.pairwise_lt_range.imp_of_mem
    intro first second _ member less
    exact timestampAfter_lt less (by simp at member; omega)

/-- A platform that posts twice and changes the first message, and is told to fail in between and in
the end. -/
theorem history_operateAll_failing :
    let post := fun text => MemoryOperation.request (.send "general" (.ofText text))
    let change := MemoryOperation.request (.update "general" (timestampAfter 0) (.ofText "two"))
    let gone := Request.delete "general" (timestampAfter 0)
    let operations := [post "one", .setFailing true, post "lost", .setFailing false, change,
      post "three", .setFailing true]
    let platform := (empty.operateAll operations).2
    platform.given = [timestampAfter 0, timestampAfter 1] ∧ platform.callCount = 3 ∧
      (driver.perform platform gone).2 = platform := by
  intro post change gone operations platform
  obtain ⟨-, -, refused, -⟩ := history_operateAll operations
  exact ⟨by decide, by decide, refused gone rfl⟩

end MemoryPlatform

end ChatBot
