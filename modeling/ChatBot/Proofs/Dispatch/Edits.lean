import ChatBot.Platform.Memory
import ChatBot.Platform.Scripted
import ChatBot.Proofs.Cache.Replacement
import ChatBot.Proofs.Dispatch.Requests

/-!
# What becomes of an edit

How the replies to an edited message are brought in step with the answers to its new text depends on
nothing but how many there are of either.  As many answers as replies take the places of the
replies, one by one; otherwise all the replies are deleted and all the answers posted.  No failure
keeps a later call from being made, and only the answers of the platform decide what is remembered.
-/

namespace ChatBot

namespace Dispatcher

variable {δ : Type} {dispatcher : Dispatcher δ} {desk : Desk δ} {envelope : Envelope}

theorem wanted_edited (enabled : 0 < desk.replies.capacity) :
    dispatcher.wanted desk (.edited envelope) = (dispatcher.answersFor desk envelope).1 := by
  rw [wanted, if_pos (Lru.isEnabled_eq_true.mpr enabled)]

/-- What is on record for an edited message after the edit. -/
theorem Makes.peek? {step : DispatchStep} {requests : List Request}
    {replies : List Call → List ReplyRecord}
    (makes : dispatcher.Makes desk step requests replies) (enabled : 0 < desk.replies.capacity) :
    (dispatcher.take desk step).1.replies.peek? step.key =
      ReplyCache.entryOf (replies ((callsOf (dispatcher.take desk step).2).map Prod.snd)) := by
  rw [makes.replies, ReplyCache.peek?_store_self _ _ _ enabled, makes.performed.1]

/-- As many calls are made as requests are due. -/
theorem Makes.length_calls {step : DispatchStep} {requests : List Request}
    {replies : List Call → List ReplyRecord}
    (makes : dispatcher.Makes desk step requests replies) :
    ((callsOf (dispatcher.take desk step).2).map Prod.snd).length = requests.length := by
  rw [← List.length_map Call.request, makes.performed.2.1]

theorem map_place_changed {previous : List ReplyRecord} {calls : List Call}
    (same : previous.length = calls.length) :
    (List.zipWith Call.changed previous calls).map (·.place) = previous.map (·.place) := by
  induction previous generalizing calls with
  | nil => rfl
  | cons reply rest ih =>
      cases calls with
      | nil => simp at same
      | cons call others => simp [ih (Nat.succ.inj same)]

/-- With a cache that is on, an edit makes the calls that its case asks for, one after another and
whatever becomes of each, and no others:

* nothing on record and nothing to say: no call, and the cache stays as it is;
* nothing on record: a send for each answer;
* nothing to say: a deletion of each reply, and nothing is on record any more;
* as many answers as replies: an update of each reply with its answer, and the replies keep their
  places, with the text of the receipt where there is one and the old text elsewhere;
* any other number: a deletion of each reply, then a send for each answer.

After sends the accepted ones are on record, in order. -/
theorem edit_settled (dispatcher : Dispatcher δ) {desk : Desk δ} (tidy : desk.replies.Tidy)
    (enabled : 0 < desk.replies.capacity) (envelope : Envelope) :
    let source := envelope.key
    let previous := desk.replies.repliesTo source
    let answers := (dispatcher.answersFor desk envelope).1
    let deletions := previous.map Request.deletion
    let posts := answers.map (Request.post dispatcher.settings source)
    let (next, entries) := dispatcher.handleEdited desk envelope
    let calls := (callsOf entries).map Prod.snd
    callsOf entries = calls.map (.source source, ·) ∧
      dispatcher.driver.performAll desk.driver (calls.map Call.request) = (calls, next.driver) ∧
      (previous = [] → answers = [] → calls = [] ∧ next.replies = desk.replies) ∧
      (previous = [] → answers ≠ [] → calls.map Call.request = posts ∧
        next.replies.peek? source = ReplyCache.entryOf (calls.filterMap Call.posted?)) ∧
      (previous ≠ [] → answers = [] → calls.map Call.request = deletions ∧
        next.replies.peek? source = none) ∧
      (previous ≠ [] → previous.length = answers.length →
        calls.map Call.request = List.zipWith Request.change previous answers ∧
        next.replies.peek? source = some (List.zipWith Call.changed previous calls) ∧
        (List.zipWith Call.changed previous calls).map (·.place) = previous.map (·.place)) ∧
      (previous ≠ [] → answers ≠ [] → previous.length ≠ answers.length →
        calls.map Call.request = deletions ++ posts ∧
        next.replies.peek? source = ReplyCache.entryOf (calls.filterMap Call.posted?)) := by
  intro source previous answers deletions posts
  have wanted_eq : dispatcher.wanted desk (.edited envelope) = answers := wanted_edited enabled
  by_cases same : previous.length = answers.length
  · have makes : dispatcher.Makes desk (.edited envelope)
        (List.zipWith Request.change previous answers) (List.zipWith Call.changed previous) := by
      rw [← wanted_eq] at same ⊢
      exact makes_changes tidy.toWellFormed same
    obtain ⟨calls_eq, asked, made_for, performed⟩ := makes.performed
    have recorded := makes.peek? enabled
    have counted : previous.length =
        ((callsOf (dispatcher.take desk (.edited envelope)).2).map Prod.snd).length := by
      rw [makes.length_calls, List.length_zipWith, ← same, Nat.min_self]
    refine ⟨made_for, performed, fun untracked silent => ?_, fun untracked spoken => ?_,
      fun tracked silent => ?_, fun tracked _ => ⟨asked, ?_, map_place_changed counted⟩,
      fun _ _ differ => absurd same differ⟩
    · rw [untracked, List.zipWith_nil_left] at asked
      refine ⟨List.map_eq_nil_iff.mp asked, makes.replies.trans ?_⟩
      rw [untracked, List.zipWith_nil_left, ReplyCache.store_nil]
      exact Lru.remove_eq_self (tidy.peek?_eq_none_iff.mpr untracked)
    · rw [untracked] at same
      exact absurd (List.eq_nil_of_length_eq_zero same.symm) spoken
    · rw [silent] at same
      exact absurd (List.eq_nil_of_length_eq_zero same) tracked
    · refine recorded.trans (ReplyCache.entryOf_of_ne_nil ?_)
      rw [← List.length_pos_iff, List.length_zipWith, ← counted, Nat.min_self]
      exact List.length_pos_iff.mpr tracked
  · have makes : dispatcher.Makes desk (.edited envelope) (deletions ++ posts)
        (List.filterMap Call.posted?) := by
      simp only [deletions, posts, ← wanted_eq] at same ⊢
      exact makes_replacements tidy.toWellFormed same
    obtain ⟨calls_eq, asked, made_for, performed⟩ := makes.performed
    have recorded := makes.peek? enabled
    refine ⟨made_for, performed, fun untracked silent => ?_,
      fun untracked _ => ⟨?_, recorded⟩, fun _ silent => ?_,
      fun _ equal => absurd equal same, fun _ _ _ => ⟨asked, recorded⟩⟩
    · rw [untracked, silent] at same
      exact absurd rfl same
    · have nothing : deletions = [] := by rw [List.map_eq_nil_iff, untracked]
      rwa [nothing, List.nil_append] at asked
    · have posted : posts = [] := by rw [List.map_eq_nil_iff, silent]
      refine ⟨by rwa [posted, List.append_nil] at asked, recorded.trans ?_⟩
      rw [calls_eq, posted, List.append_nil, ChatDriver.posted?_deletions, ReplyCache.entryOf_nil]

/-- Two replies and an edit to one answer: the first deletion fails, yet the second is made, and
only the new reply is on record. -/
theorem edit_settled_echo :
    let dispatcher := echo (Scripted.driver [] MemoryPlatform.driver)
    let replies : ReplyCache := ⟨1, [(⟨"general", ⟨"1.0"⟩⟩,
      [⟨"general", ⟨"1.1"⟩, "one"⟩, ⟨"general", ⟨"1.2"⟩, "more"⟩])]⟩
    let (next, entries) := dispatcher.handleEdited
      ⟨replies, .empty 0, ⟨[some .notConnected], .empty⟩⟩
      ⟨"general", "ann", "two", ⟨"1.0"⟩, false, "two"⟩
    ((callsOf entries).map fun call => call.2.request) =
        [.delete "general" ⟨"1.1"⟩, .delete "general" ⟨"1.2"⟩,
          .send "general" ⟨"two", [], none⟩] ∧
      next.replies.peek? ⟨"general", ⟨"1.0"⟩⟩ =
        some [⟨"general", MemoryPlatform.timestampAt 1547785956, "two"⟩] := by
  have tidy : ReplyCache.Tidy (Desk.replies (⟨⟨1, [(⟨"general", ⟨"1.0"⟩⟩,
      [⟨"general", ⟨"1.1"⟩, "one"⟩, ⟨"general", ⟨"1.2"⟩, "more"⟩])]⟩, .empty 0,
      ⟨[some .notConnected], .empty⟩⟩ : Desk (Scripted MemoryPlatform))) :=
    ⟨⟨by decide, by decide⟩, by simp⟩
  obtain ⟨-, -, -, -, -, -, replaced⟩ := edit_settled
    (echo (Scripted.driver [] MemoryPlatform.driver)) tidy (by decide)
    ⟨"general", "ann", "two", ⟨"1.0"⟩, false, "two"⟩
  obtain ⟨asked, recorded⟩ := replaced (by decide) (by decide) (by decide)
  exact ⟨asked, recorded⟩

end Dispatcher

end ChatBot
