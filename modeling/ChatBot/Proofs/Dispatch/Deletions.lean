import ChatBot.Platform.Memory
import ChatBot.Platform.Scripted
import ChatBot.Proofs.Cache.Replacement
import ChatBot.Proofs.Dispatch.Requests

/-!
# What becomes of a deletion

When a message is gone its replies are deleted, each with a call of its own, and its entry goes with
them.  No other entry is touched, so nothing brings the replies back but the message itself.  The
same holds of the other steps: each leaves the entries of all other messages as they are, up to the
one that a new entry drives out of a full cache.
-/

namespace ChatBot

namespace Dispatcher

variable {δ : Type} (dispatcher : Dispatcher δ) {desk : Desk δ}

theorem makes_deletions (desk : Desk δ) (key : MessageKey) :
    dispatcher.Makes desk (.deleted key)
      ((desk.replies.repliesTo key).map Request.deletion) (fun _ => []) := by
  have settled := dispatcher.settles_deleted desk key
  obtain ⟨driver_eq, calls_eq⟩ :=
    dispatcher.deleteAll_performs key (desk.replies.repliesTo key) desk.driver
  constructor
  · exact settled.driver.trans driver_eq
  · exact settled.calls.trans calls_eq
  · exact settled.replies

theorem users_handleDeleted (desk : Desk δ) (key : MessageKey) :
    (dispatcher.handleDeleted desk key).1.users = desk.users := by
  unfold handleDeleted
  split
  split <;> rfl

theorem handleDeleted_of_absent {key : MessageKey} (absent : desk.replies.peek? key = none) :
    dispatcher.handleDeleted desk key = (desk, [DispatchReport.entry .nothingTracked]) := by
  have same := Lru.remove_eq_self absent
  have nothing : (desk.replies.remove key).1 = none := absent
  cases removed : desk.replies.remove key with
  | mk previous replies =>
      rw [removed] at same nothing
      obtain rfl : previous = none := nothing
      obtain rfl : replies = desk.replies := same
      simp [handleDeleted, removed]

/-! ## What a step leaves alone -/

/-- A step that does not drive an entry out leaves the entries of all other messages as they are. -/
theorem without_take (wellFormed : desk.replies.WellFormed) {step : DispatchStep}
    (room : ¬ desk.replies.Displaces step.key (dispatcher.take desk step).1.replies) :
    Lru.without step.key (dispatcher.take desk step).1.replies.entries =
      Lru.without step.key desk.replies.entries := by
  rw [(dispatcher.settles wellFormed step).replies] at room ⊢
  exact ReplyCache.without_store_of_not_displaces wellFormed room

/-- A step that puts a new entry into a full cache drives the last entry out. -/
theorem entries_eq_of_displaces (wellFormed : desk.replies.WellFormed) {step : DispatchStep}
    (displaces : desk.replies.Displaces step.key (dispatcher.take desk step).1.replies) :
    ∃ victim, desk.replies.entries =
      Lru.without step.key (dispatcher.take desk step).1.replies.entries ++ [victim] := by
  rw [(dispatcher.settles wellFormed step).replies] at displaces ⊢
  exact displaces.entries_eq

/-- Only a step of its own message puts an entry into the cache. -/
theorem peek?_take_eq_none (wellFormed : desk.replies.WellFormed) {key : MessageKey}
    (absent : desk.replies.peek? key = none) {step : DispatchStep}
    (other : step.key = key → step = .deleted key) :
    (dispatcher.take desk step).1.replies.peek? key = none := by
  by_cases own : step.key = key
  · obtain rfl := other own
    rw [take, dispatcher.handleDeleted_of_absent absent]
    exact absent
  · rw [(dispatcher.settles wellFormed step).replies, Option.eq_none_iff_forall_ne_some]
    intro replies found
    have earlier := ReplyCache.peek?_of_store (Ne.symm own) found
    rw [absent] at earlier
    cases earlier

theorem peek?_takeAll_eq_none (tidy : desk.replies.Tidy) {key : MessageKey}
    (absent : desk.replies.peek? key = none) {steps : List DispatchStep}
    (others : ∀ step ∈ steps, step.key = key → step = .deleted key) :
    (dispatcher.takeAll desk steps).1.replies.peek? key = none := by
  induction steps generalizing desk with
  | nil => exact absent
  | cons step rest ih =>
      have next := dispatcher.peek?_take_eq_none tidy.toWellFormed absent
        (others step List.mem_cons_self)
      exact ih (dispatcher.tidy_take tidy step) next
        fun later member => others later (List.mem_cons_of_mem step member)

/-! ## Deletions -/

/-- A deletion asks the platform to delete each reply on record for the message, in order and
whatever becomes of each, and asks nothing else.  The entry of the message is gone; the entries of
all others are what they were, in the order in which they were.

Where nothing is on record nothing is done.  So a second deletion makes no call, whatever happened
to other messages in between.

A step of another kind leaves the entries of all other messages as they are too.  Only where it
puts a new entry into a full cache does the last entry, which was not used for the longest time,
give way. -/
theorem deletes_tracked (tidy : desk.replies.Tidy) (key : MessageKey) :
    let tracked := desk.replies.repliesTo key
    let next := (dispatcher.handleDeleted desk key).1
    let made := callsOf (dispatcher.handleDeleted desk key).2
    let calls := made.map Prod.snd
    (made = calls.map (.source key, ·) ∧
      calls.map Call.request = tracked.map Request.deletion ∧
      dispatcher.driver.performAll desk.driver (calls.map Call.request) = (calls, next.driver) ∧
      next.replies.peek? key = none ∧
      next.replies.entries = Lru.without key desk.replies.entries ∧
      next.replies.capacity = desk.replies.capacity ∧
      next.users = desk.users) ∧
    (desk.replies.peek? key = none → made = [] ∧ next = desk) ∧
    (∀ between : List DispatchStep,
      (∀ step ∈ between, step.key = key → step = .deleted key) →
      callsOf (dispatcher.handleDeleted (dispatcher.takeAll next between).1 key).2 = []) ∧
    ∀ step : DispatchStep,
      let after := (dispatcher.take desk step).1.replies
      (¬ desk.replies.Displaces step.key after →
        Lru.without step.key after.entries = Lru.without step.key desk.replies.entries) ∧
      (desk.replies.Displaces step.key after →
        ∃ victim, desk.replies.entries = Lru.without step.key after.entries ++ [victim]) := by
  intro tracked next made calls
  have makes := dispatcher.makes_deletions desk key
  obtain ⟨-, asked, made_for, performed⟩ := makes.performed
  have replies_eq : next.replies = (desk.replies.remove key).2 := makes.replies
  have gone : next.replies.peek? key = none := by
    rw [replies_eq, Lru.peek?_remove_self]
  refine ⟨⟨made_for, asked, performed, gone, ?_, ?_, ?_⟩, fun absent => ?_,
    fun between others => ?_,
    fun step => ⟨dispatcher.without_take tidy.toWellFormed,
      dispatcher.entries_eq_of_displaces tidy.toWellFormed⟩⟩
  · exact congrArg Lru.entries replies_eq
  · exact dispatcher.capacity_take tidy.toWellFormed (.deleted key)
  · exact dispatcher.users_handleDeleted desk key
  · have silent := dispatcher.handleDeleted_of_absent absent
    exact ⟨congrArg (fun handled => callsOf handled.2) silent, congrArg Prod.fst silent⟩
  · have nextTidy : next.replies.Tidy := dispatcher.tidy_take tidy (.deleted key)
    have absent := dispatcher.peek?_takeAll_eq_none nextTidy gone others
    rw [dispatcher.handleDeleted_of_absent absent]
    rfl

/-- Two replies of which the first cannot be deleted: the second is asked for all the same, the
replies to another message stay, and after a further step for that message nothing is asked for
again. -/
theorem deletes_tracked_echo :
    let dispatcher := echo (Scripted.driver [] MemoryPlatform.driver)
    let desk : Desk (Scripted MemoryPlatform) :=
      ⟨⟨2, [(⟨"general", ⟨"1.0"⟩⟩, [⟨"general", ⟨"1.1"⟩, "one"⟩, ⟨"general", ⟨"1.2"⟩, "more"⟩]),
          (⟨"random", ⟨"1.0"⟩⟩, [⟨"random", ⟨"1.1"⟩, "eins"⟩])]⟩,
        .empty 0, ⟨[some .notConnected], .empty⟩⟩
    let (next, entries) := dispatcher.handleDeleted desk ⟨"general", ⟨"1.0"⟩⟩
    let (later, _) := dispatcher.takeAll next
      [.edited ⟨"random", "ann", "two", ⟨"1.0"⟩, false, "two"⟩]
    ((callsOf entries).map fun call => call.2.request) =
        [.delete "general" ⟨"1.1"⟩, .delete "general" ⟨"1.2"⟩] ∧
      next.replies.entries = [(⟨"random", ⟨"1.0"⟩⟩, [⟨"random", ⟨"1.1"⟩, "eins"⟩])] ∧
      callsOf (dispatcher.handleDeleted later ⟨"general", ⟨"1.0"⟩⟩).2 = [] := by
  have tidy : ReplyCache.Tidy (Desk.replies (⟨⟨2, [(⟨"general", ⟨"1.0"⟩⟩,
      [⟨"general", ⟨"1.1"⟩, "one"⟩, ⟨"general", ⟨"1.2"⟩, "more"⟩]),
      (⟨"random", ⟨"1.0"⟩⟩, [⟨"random", ⟨"1.1"⟩, "eins"⟩])]⟩, .empty 0,
      ⟨[some .notConnected], .empty⟩⟩ : Desk (Scripted MemoryPlatform))) :=
    ⟨⟨by decide, by decide⟩, by simp⟩
  obtain ⟨⟨-, asked, -, -, kept, -, -⟩, -, again, -⟩ := deletes_tracked
    (echo (Scripted.driver [] MemoryPlatform.driver)) tidy ⟨"general", ⟨"1.0"⟩⟩
  exact ⟨asked, kept, again [.edited ⟨"random", "ann", "two", ⟨"1.0"⟩, false, "two"⟩]
    (by simp [Envelope.key])⟩

end Dispatcher

end ChatBot
