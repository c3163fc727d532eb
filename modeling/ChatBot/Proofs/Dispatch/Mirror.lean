import ChatBot.Proofs.Dispatch.ChatKeeper
import Mathlib.Data.List.Induction

/-!
# The chat mirrors the latest answers

On a platform that accepts every request, the replies that can be seen for a source
message are the answers to its latest text, in order, and they are what the cache
has on record.  One step settles the replies to its own message and leaves those to
all others alone, as long as the cache has room for every message.
-/

namespace ChatBot

namespace LiveMessage

/-- What a message says. -/
def content (live : LiveMessage) : String × List Json :=
  (live.text, live.blocks)

/-- The message at the place of a reply that says what an answer says. -/
def of (reply : ReplyRecord) (answer : Answer) : LiveMessage :=
  ⟨reply.place, answer.text, answer.blocks⟩

end LiveMessage

/-- What an answer says. -/
def Answer.content (answer : Answer) : String × List Json :=
  (answer.text, answer.blocks)

/-- The messages of the chat that were posted for a source message. -/
def livePosted (history : List MadeCall) (chat : List LiveMessage) (source : MessageKey) :
    List LiveMessage :=
  chat.filter fun live => live.place ∈ postedPlaces history source

/-! ## What attempts make of the chat -/

section Attempts

variable {source : MessageKey}

theorem chatAfter_cons_changes {live : LiveMessage} {attempts : List ChangeAttempt}
    (chat : List LiveMessage) (apart : ∀ attempt ∈ attempts, live.place ≠ attempt.1.1.place) :
    chatAfter (live :: chat) (attempts.map (ChangeAttempt.call source)) =
      live :: chatAfter chat (attempts.map (ChangeAttempt.call source)) := by
  induction attempts generalizing chat with
  | nil => rfl
  | cons attempt rest ih =>
      obtain ⟨⟨old, answer⟩, result⟩ := attempt
      have away : live.place ≠ old.place := apart _ (List.mem_cons_self ..)
      have later := fun chat => ih chat fun attempt member =>
        apart attempt (List.mem_cons_of_mem _ member)
      cases result with
      | error error => exact later chat
      | ok receipt =>
          have kept : replaceAt old.place answer.replacement (live :: chat) =
              live :: replaceAt old.place answer.replacement chat := by
            rw [replaceAt_cons, if_neg away]
          have next := later (replaceAt old.place answer.replacement chat)
          rw [← kept] at next
          exact next

/-- Replies that are all changed say what the answers say. -/
theorem chatAfter_changes {attempts : List ChangeAttempt} {chat : List LiveMessage}
    (accepted : ∀ made ∈ attempts.map (ChangeAttempt.call source), made.2.accepted)
    (there : chat.map (·.place) = attempts.map (·.1.1.place))
    (distinct : (chat.map (·.place)).Nodup) :
    chatAfter chat (attempts.map (ChangeAttempt.call source)) =
      attempts.map fun attempt => LiveMessage.of attempt.1.1 attempt.1.2 := by
  induction attempts generalizing chat with
  | nil =>
      obtain rfl := List.map_eq_nil_iff.mp there
      rfl
  | cons attempt rest ih =>
      obtain ⟨⟨old, answer⟩, result⟩ := attempt
      cases chat with
      | nil => simp at there
      | cons live chat =>
          simp only [List.map_cons, List.cons.injEq] at there
          obtain ⟨here, there⟩ := there
          rw [List.map_cons, List.nodup_cons] at distinct
          obtain ⟨apart, distinct⟩ := distinct
          cases result with
          | error error =>
              have refused := accepted _ (List.mem_cons_self ..)
              simp [ChangeAttempt.call, Call.accepted] at refused
          | ok receipt =>
              have first : replaceAt old.place answer.replacement (live :: chat) =
                  LiveMessage.of old answer :: chat := by
                have others : replaceAt old.place answer.replacement chat = chat := by
                  apply replaceAt_eq_self
                  rintro other member same
                  apply apart
                  rw [here, ← same]
                  exact List.mem_map_of_mem member
                rw [replaceAt_cons, if_pos here, others, here]
                rfl
              have away : ∀ attempt ∈ rest,
                  (LiveMessage.of old answer).place ≠ attempt.1.1.place := by
                intro attempt member same
                apply apart
                rw [there, here]
                exact List.mem_map.mpr ⟨attempt, member, same.symm⟩
              have later := ih (fun made member => accepted made (List.mem_cons_of_mem _ member))
                there distinct
              calc
                chatAfter (live :: chat) _ =
                    chatAfter (replaceAt old.place answer.replacement (live :: chat))
                      (rest.map (ChangeAttempt.call source)) := rfl
                _ = LiveMessage.of old answer ::
                      chatAfter chat (rest.map (ChangeAttempt.call source)) := by
                  rw [first, chatAfter_cons_changes chat away]
                _ = _ := by rw [later, List.map_cons]

theorem filter_chatAfter_changes (attempts : List ChangeAttempt) (chat : List LiveMessage)
    (places : List MessageKey) :
    (chatAfter chat (attempts.map (ChangeAttempt.call source))).filter
        (fun live => live.place ∈ places) =
      chatAfter (chat.filter fun live => live.place ∈ places)
        (attempts.map (ChangeAttempt.call source)) := by
  induction attempts generalizing chat with
  | nil => rfl
  | cons attempt rest ih =>
      obtain ⟨⟨old, answer⟩, result⟩ := attempt
      cases result with
      | error error => exact ih chat
      | ok receipt =>
          have later := ih (replaceAt old.place answer.replacement chat)
          rw [filter_replaceAt] at later
          exact later

theorem chatAfter_deletions {attempts : List DeleteAttempt} (chat : List LiveMessage)
    (accepted : ∀ made ∈ attempts.map (DeleteAttempt.call source), made.2.accepted) :
    chatAfter chat (attempts.map (DeleteAttempt.call source)) =
      chat.filter fun live => live.place ∉ attempts.map (·.1.place) := by
  induction attempts generalizing chat with
  | nil => exact (List.filter_eq_self.mpr (by simp)).symm
  | cons attempt rest ih =>
      obtain ⟨reply, result⟩ := attempt
      cases result with
      | error error =>
          have refused := accepted _ (List.mem_cons_self ..)
          simp [DeleteAttempt.call, Call.accepted] at refused
      | ok _ =>
          have later := ih (removeAt reply.place chat)
            fun made member => accepted made (List.mem_cons_of_mem _ member)
          refine later.trans ?_
          unfold removeAt
          rw [List.filter_filter]
          apply List.filter_congr
          intro live _
          rw [Bool.eq_iff_iff]
          simp [and_comm]

/-- Answers that are all accepted stand at the end of the chat, each in its place. -/
theorem chatAfter_posts (settings : ReplySettings) {attempts : List PostAttempt}
    (chat : List LiveMessage)
    (accepted : ∀ made ∈ attempts.map (PostAttempt.call settings source), made.2.accepted) :
    (attempts.filterMap PostAttempt.reply?).length = (attempts.map Prod.fst).length ∧
      chatAfter chat (attempts.map (PostAttempt.call settings source)) =
        chat ++ List.zipWith LiveMessage.of (attempts.filterMap PostAttempt.reply?)
          (attempts.map Prod.fst) := by
  induction attempts generalizing chat with
  | nil => exact ⟨rfl, (List.append_nil chat).symm⟩
  | cons attempt rest ih =>
      obtain ⟨answer, result⟩ := attempt
      cases result with
      | error error =>
          have refused := accepted _ (List.mem_cons_self ..)
          simp [PostAttempt.call, Call.accepted] at refused
      | ok receipt =>
          obtain ⟨length_eq, chat_eq⟩ := ih
            (chat ++ [⟨receipt.place, answer.text, answer.blocks⟩])
            fun made member => accepted made (List.mem_cons_of_mem _ member)
          refine ⟨by simp [length_eq], ?_⟩
          refine chat_eq.trans ?_
          simp [LiveMessage.of, ReplyRecord.place, Receipt.place, Receipt.toReply]

end Attempts

/-- Calls that bring replies in step change the chat only where something was posted for
their source message. -/
theorem Reconciled.posted_of_touched {settings : ReplySettings} {source : MessageKey}
    {previous replies : List ReplyRecord} {answers : List Answer} {history calls : List MadeCall}
    (reconciled : Reconciled settings source previous answers calls replies)
    (tracked : ∀ reply ∈ previous, Posted history source reply.place) :
    ∀ made ∈ calls, ∀ place, made.2.touched? = some place →
      Posted (history ++ calls) source place := by
  intro made member place touched
  cases reconciled with
  | changed attempts same changes =>
      obtain ⟨attempt, inside, rfl⟩ := List.mem_map.mp member
      obtain rfl := Option.some.inj touched
      have old : attempt.1.1 ∈ previous := by
        rw [← ChangeAttempt.map_old same changes]
        exact List.mem_map_of_mem (f := fun attempt : ChangeAttempt => attempt.1.1) inside
      exact (tracked _ old).append_left _
  | replaced deletions posts differ deleted posted =>
      rcases List.mem_append.mp member with deletion | post
      · obtain ⟨attempt, inside, rfl⟩ := List.mem_map.mp deletion
        obtain rfl := Option.some.inj touched
        have old : attempt.1 ∈ previous := by
          rw [← deleted]
          exact List.mem_map_of_mem inside
        exact (tracked _ old).append_left _
      · obtain ⟨⟨answer, result⟩, inside, rfl⟩ := List.mem_map.mp post
        cases result with
        | error error => simp [PostAttempt.call, Call.touched?] at touched
        | ok receipt =>
            obtain rfl := Option.some.inj touched
            exact ⟨_, receipt, List.mem_append_right _ member, rfl⟩

/-! ## One step -/

/-- The messages that stand in the chat for a source message are those of its replies,
in order, and say what the answers say. -/
structure Mirrored (replies : List ReplyRecord) (history : List MadeCall)
    (chat : List LiveMessage) (source : MessageKey) (answers : List Answer) : Prop where
  length_eq : replies.length = answers.length
  live_eq : livePosted history chat source = List.zipWith LiveMessage.of replies answers

theorem map_place_zipWith {replies : List ReplyRecord} {answers : List Answer}
    (same : replies.length = answers.length) :
    (List.zipWith LiveMessage.of replies answers).map (·.place) = replies.map (·.place) := by
  rw [List.map_zipWith, ← List.map_uncurry_zip_eq_zipWith]
  have replies_eq := List.map_fst_zip (Nat.le_of_eq same)
  conv_rhs => rw [← replies_eq, List.map_map]
  rfl

theorem map_content_zipWith {replies : List ReplyRecord} {answers : List Answer}
    (same : replies.length = answers.length) :
    (List.zipWith LiveMessage.of replies answers).map (·.content) =
      answers.map (·.content) := by
  rw [List.map_zipWith, ← List.map_uncurry_zip_eq_zipWith]
  have answers_eq := List.map_snd_zip (Nat.le_of_eq same.symm)
  conv_rhs => rw [← answers_eq, List.map_map]
  rfl

namespace Mirrored

variable {settings : ReplySettings} {previous replies : List ReplyRecord}
  {history calls : List MadeCall} {chat : List LiveMessage} {source : MessageKey}
  {old answers : List Answer}

theorem changed (mirrored : Mirrored previous history chat source old)
    (attempts : List ChangeAttempt) (same : previous.length = answers.length)
    (changes : attempts.map Prod.fst = previous.zip answers)
    (accepted : ∀ made ∈ attempts.map (ChangeAttempt.call source), made.2.accepted)
    (distinct : (previous.map (·.place)).Nodup) :
    Mirrored (attempts.map ChangeAttempt.reply)
      (history ++ attempts.map (ChangeAttempt.call source))
      (chatAfter chat (attempts.map (ChangeAttempt.call source))) source answers := by
  have olds := ChangeAttempt.map_old same changes
  have news : attempts.map (fun attempt => attempt.1.2) = answers := by
    have seconds : (attempts.map Prod.fst).map Prod.snd = answers := by
      rw [changes, List.map_snd_zip (Nat.le_of_eq same.symm)]
    rw [List.map_map] at seconds
    exact seconds
  have nothingPosted : postedPlaces (attempts.map (ChangeAttempt.call source)) source = [] := by
    apply List.filterMap_eq_nil_iff.mpr
    intro made member
    obtain ⟨attempt, -, rfl⟩ := List.mem_map.mp member
    rfl
  have there : (livePosted history chat source).map (·.place) =
      attempts.map (·.1.1.place) := by
    rw [mirrored.live_eq, map_place_zipWith mirrored.length_eq, ← olds, List.map_map]
    rfl
  have apart : ((livePosted history chat source).map (·.place)).Nodup := by
    rw [mirrored.live_eq, map_place_zipWith mirrored.length_eq]
    exact distinct
  constructor
  · rw [← news, List.length_map, List.length_map]
  · calc
      livePosted (history ++ attempts.map (ChangeAttempt.call source)) _ source =
          chatAfter (livePosted history chat source)
            (attempts.map (ChangeAttempt.call source)) := by
        rw [livePosted, postedPlaces_append, nothingPosted, List.append_nil]
        exact filter_chatAfter_changes attempts chat _
      _ = attempts.map fun attempt => LiveMessage.of attempt.1.1 attempt.1.2 :=
        chatAfter_changes accepted there apart
      _ = List.zipWith LiveMessage.of (attempts.map ChangeAttempt.reply) answers := by
        rw [← news, List.zipWith_map, List.zipWith_self]
        apply List.map_congr_left
        intro attempt _
        rw [LiveMessage.of, LiveMessage.of, attempt.reply_place]

theorem replaced (mirrored : Mirrored previous history chat source old)
    (deletions : List DeleteAttempt) (posts : List PostAttempt)
    (deleted : deletions.map Prod.fst = previous)
    (accepted : ∀ made ∈ deletions.map (DeleteAttempt.call source) ++
      posts.map (PostAttempt.call settings source), made.2.accepted)
    (apart : ∀ live ∈ chat, live.place.timestamp ∉
      postedTimestamps (posts.map (PostAttempt.call settings source))) :
    Mirrored (posts.filterMap PostAttempt.reply?)
      (history ++ (deletions.map (DeleteAttempt.call source) ++
        posts.map (PostAttempt.call settings source)))
      (chatAfter chat (deletions.map (DeleteAttempt.call source) ++
        posts.map (PostAttempt.call settings source))) source (posts.map Prod.fst) := by
  have gone : chatAfter chat (deletions.map (DeleteAttempt.call source)) =
      chat.filter fun live => live.place ∉ deletions.map (·.1.place) :=
    chatAfter_deletions chat fun made member => accepted made (List.mem_append_left _ member)
  obtain ⟨length_eq, posted_eq⟩ := chatAfter_posts settings
    (chatAfter chat (deletions.map (DeleteAttempt.call source)))
    fun made member => accepted made (List.mem_append_right _ member)
  have removed : deletions.map (·.1.place) = previous.map (·.place) := by
    rw [← deleted, List.map_map]
    rfl
  refine ⟨length_eq, ?_⟩
  rw [livePosted, chatAfter_append, posted_eq, gone, removed, List.filter_append]
  -- Of the messages before the posts none is left, and the posts are all there.
  have before : (chat.filter fun live => live.place ∉ previous.map (·.place)).filter
      (fun live => live.place ∈ postedPlaces (history ++ (deletions.map
        (DeleteAttempt.call source) ++ posts.map (PostAttempt.call settings source))) source) =
      [] := by
    apply List.filter_eq_nil_iff.mpr
    intro live member
    obtain ⟨inChat, kept⟩ := List.mem_filter.mp member
    rw [decide_eq_true_eq] at kept
    rw [decide_eq_true_eq, postedPlaces_append, postedPlaces_append, List.mem_append,
      List.mem_append]
    rintro (earlier | deletion | now)
    · apply kept
      rw [← map_place_zipWith mirrored.length_eq, ← mirrored.live_eq]
      exact List.mem_map_of_mem (List.mem_filter.mpr ⟨inChat, by simpa using earlier⟩)
    · obtain ⟨message, receipt, made, -⟩ := mem_postedPlaces.mp deletion
      simp [DeleteAttempt.call] at made
    · exact apart live inChat (mem_postedPlaces.mp now).mem_postedTimestamps
  have after : (List.zipWith LiveMessage.of (posts.filterMap PostAttempt.reply?)
      (posts.map Prod.fst)).filter (fun live => live.place ∈ postedPlaces (history ++
        (deletions.map (DeleteAttempt.call source) ++
          posts.map (PostAttempt.call settings source))) source) =
      List.zipWith LiveMessage.of (posts.filterMap PostAttempt.reply?) (posts.map Prod.fst) := by
    apply List.filter_eq_self.mpr
    intro live member
    have place : live.place ∈ (posts.filterMap PostAttempt.reply?).map (·.place) := by
      rw [← map_place_zipWith length_eq]
      exact List.mem_map_of_mem member
    obtain ⟨reply, tracked, place_eq⟩ := List.mem_map.mp place
    have posted : Posted (posts.map (PostAttempt.call settings source)) source reply.place :=
      posted_of_mem_posts settings tracked
    rw [decide_eq_true_eq, ← place_eq, mem_postedPlaces]
    exact (posted.append_right _).append_right history
  rw [before, after, List.nil_append]

/-- The replies to a message are settled by its own step. -/
theorem reconciled (mirrored : Mirrored previous history chat source old)
    (reconciled : Reconciled settings source previous answers calls replies)
    (accepted : ∀ made ∈ calls, made.2.accepted)
    (distinct : (previous.map (·.place)).Nodup)
    (apart : ∀ live ∈ chat, live.place.timestamp ∉ postedTimestamps calls) :
    Mirrored replies (history ++ calls) (chatAfter chat calls) source answers := by
  cases reconciled with
  | changed attempts same changes =>
      exact mirrored.changed attempts same changes accepted distinct
  | replaced deletions posts differ deleted posted =>
      subst posted
      apply mirrored.replaced deletions posts deleted accepted
      intro live member given
      apply apart live member
      rw [postedTimestamps_append]
      exact List.mem_append_right _ given

/-- Calls that are made for another message, at places where nothing was posted for
this one, leave its replies alone. -/
theorem append_untouched {other : MessageKey}
    (mirrored : Mirrored previous history chat other old) (ne : source ≠ other)
    (made_for : ∀ made ∈ calls, made.1 = .source source)
    (untouched : ∀ made ∈ calls, ∀ place, made.2.touched? = some place →
      place ∉ postedPlaces history other) :
    Mirrored previous (history ++ calls) (chatAfter chat calls) other old := by
  have nothingPosted : postedPlaces calls other = [] := by
    apply List.eq_nil_iff_forall_not_mem.mpr
    intro place member
    obtain ⟨message, receipt, made, -⟩ := mem_postedPlaces.mp member
    exact ne (Origin.source.inj (made_for _ made)).symm
  refine ⟨mirrored.length_eq, ?_⟩
  rw [livePosted, postedPlaces_append, nothingPosted, List.append_nil,
    filter_chatAfter_of_untouched chat untouched]
  exact mirrored.live_eq

/-- The record of a message lists what stands in the chat for it. -/
theorem record {cache : ReplyCache} (tidy : cache.Tidy)
    (mirrored : Mirrored (cache.repliesTo source) history chat source answers) :
    (cache.peek? source).map (·.map (·.place)) =
      if (livePosted history chat source).isEmpty then none
      else some ((livePosted history chat source).map (·.place)) := by
  have places : (livePosted history chat source).map (·.place) =
      (cache.repliesTo source).map (·.place) := by
    rw [mirrored.live_eq, map_place_zipWith mirrored.length_eq]
  have same : (livePosted history chat source).isEmpty = (cache.repliesTo source).isEmpty := by
    have lengths := congrArg List.isEmpty places
    simpa using lengths
  rw [tidy.peek?_eq, places, same]
  split <;> rfl

end Mirrored

/-! ## All steps -/

namespace Dispatcher

variable {δ : Type} (dispatcher : Dispatcher δ)

/-- The answers to what a step says of a message: those to its text, and none when it is
gone. -/
def answersTo (desk : Desk δ) : DispatchStep → List Answer
  | .posted envelope | .edited envelope => (dispatcher.answersFor desk envelope).1
  | .deleted _ => []

/-- The answers to what was said last of a message; none if nothing was said of it. -/
def latestAnswers (desk : Desk δ) : List DispatchStep → MessageKey → List Answer
  | [], _ => []
  | step :: rest, key =>
    if rest.any (·.key = key) then latestAnswers (dispatcher.take desk step).1 rest key
    else if step.key = key then dispatcher.answersTo desk step
    else []

/-- New messages arrive only when there are no tracked replies to them. -/
def Orderly (desk : Desk δ) (steps : List DispatchStep) : Prop :=
  ∀ before envelope after, steps = before ++ .posted envelope :: after →
    (dispatcher.takeAll desk before).1.replies.peek? envelope.key = none

theorem wanted_eq_answersTo {desk : Desk δ} (enabled : 0 < desk.replies.capacity)
    (step : DispatchStep) : dispatcher.wanted desk step = dispatcher.answersTo desk step := by
  cases step with
  | posted envelope => rfl
  | edited envelope => exact if_pos (Lru.isEnabled_eq_true.mpr enabled)
  | deleted key => rfl

theorem latestAnswers_concat (desk : Desk δ) (steps : List DispatchStep) (step : DispatchStep)
    (key : MessageKey) :
    dispatcher.latestAnswers desk (steps ++ [step]) key =
      if step.key = key then dispatcher.answersTo (dispatcher.takeAll desk steps).1 step
      else dispatcher.latestAnswers desk steps key := by
  induction steps generalizing desk with
  | nil => rfl
  | cons first rest ih =>
      rw [List.cons_append, latestAnswers, List.any_append, ih, takeAll_cons]
      by_cases last : step.key = key
      · simp only [List.any_cons, last, decide_true, Bool.true_or, Bool.or_true, if_true]
      · simp only [List.any_cons, List.any_nil, last, decide_false, Bool.or_false, if_false]
        rfl

end Dispatcher

/-- What holds after steps: the platform has accepted every call since the start, the
ledger is in order, the cache knows no other messages than those of the steps, and the
chat mirrors the answers to each. -/
structure ChatKeeper.Reflects {δ : Type} {driver : ChatDriver δ} (keeper : ChatKeeper driver)
    (start : δ) (desk : Desk δ) (history : List MadeCall) (keys : List MessageKey)
    (answers : MessageKey → List Answer) : Prop where
  tidy : desk.replies.Tidy
  ledger : Ledger desk.replies history
  follows : keeper.Follows start desk.driver history
  known : desk.replies.keys ⊆ keys
  mirrored : ∀ key, Mirrored (desk.replies.repliesTo key) history (keeper.live desk.driver) key
    (answers key)

namespace ChatKeeper.Reflects

variable {δ : Type} {dispatcher : Dispatcher δ} {keeper : ChatKeeper dispatcher.driver}
  {start : δ} {desk : Desk δ} {history : List MadeCall} {keys : List MessageKey}
  {answers : MessageKey → List Answer}

theorem init (capacity : Nat) (users : UserCache) (ready : keeper.ready start) :
    keeper.Reflects start ⟨.empty capacity, users, start⟩ [] [] fun _ => [] where
  tidy := ReplyCache.tidy_empty capacity
  ledger := Ledger.empty capacity
  follows := .refl ready
  known := by simp [Lru.keys, Lru.empty]
  mirrored key := by
    refine ⟨rfl, ?_⟩
    simp [livePosted, postedPlaces, ReplyCache.repliesTo, Lru.peek?, Lru.empty]

theorem take (reflects : keeper.Reflects start desk history keys answers) (step : DispatchStep)
    (found : step.previous desk.replies = desk.replies.repliesTo step.key)
    (room : (Lru.without step.key desk.replies.entries).length < desk.replies.capacity) :
    keeper.Reflects start (dispatcher.take desk step).1
      (history ++ callsOf (dispatcher.take desk step).2) (keys ++ [step.key])
      fun key => if step.key = key then dispatcher.answersTo desk step else answers key := by
  obtain ⟨tidy, ledger, follows, known, mirrored⟩ := reflects
  have enabled : 0 < desk.replies.capacity := Nat.zero_lt_of_lt room
  obtain ⟨replies, replies_eq, reconciled⟩ := dispatcher.take_reconciled tidy.toWellFormed step
  rw [found, dispatcher.wanted_eq_answersTo enabled] at reconciled
  have entry := step.previous_eq_nil_or_mem desk.replies
  rw [found] at entry
  obtain ⟨tracked, distinct⟩ := ledger.tracked_previous entry
  have next : keeper.Follows desk.driver (dispatcher.take desk step).1.driver
      (callsOf (dispatcher.take desk step).2) := by
    apply follows_take dispatcher keeper tidy.toWellFormed step follows.ready
    intro reply member
    rw [found] at member
    rw [follows.given]
    exact List.mem_append_right _ (tracked reply member).1.mem_postedTimestamps
  have whole := follows.trans next
  have fresh : (postedTimestamps (history ++ callsOf (dispatcher.take desk step).2)).Nodup := by
    have givenOnce := keeper.given_nodup whole.ready
    rw [whole.given, List.nodup_append] at givenOnce
    exact givenOnce.2.1
  have apart : ∀ live ∈ keeper.live desk.driver,
      live.place.timestamp ∉ postedTimestamps (callsOf (dispatcher.take desk step).2) := by
    intro live member now
    have givenOnce := keeper.given_nodup next.ready
    rw [next.given, List.nodup_append] at givenOnce
    exact givenOnce.2.2 _ (keeper.given_of_live follows.ready live member) _ now rfl
  constructor
  · exact dispatcher.tidy_take tidy step
  · rw [replies_eq]
    exact ledger.reconciled fresh entry reconciled
  · exact whole
  · rw [replies_eq]
    exact ReplyCache.keys_store_subset known step.key replies
  · intro key
    rw [replies_eq, next.live]
    by_cases own : step.key = key
    · subst own
      rw [if_pos rfl, ReplyCache.repliesTo_store_self _ _ _ enabled]
      apply (mirrored step.key).reconciled reconciled next.accepted _ apart
      rw [List.Nodup, List.pairwise_map] at distinct ⊢
      exact distinct.imp fun ne same => ne (congrArg MessageKey.timestamp same)
    · rw [if_neg own, tidy.repliesTo_store_of_ne _ (Ne.symm own)
        (Or.inr ⟨enabled, Lru.not_evicts_of_room room⟩)]
      apply (mirrored key).append_untouched own reconciled.origin_eq
      intro made member place touched posted
      have here := reconciled.posted_of_touched (fun reply inside => (tracked reply inside).1)
        made member place touched
      have there := (mem_postedPlaces.mp posted).append_left
        (callsOf (dispatcher.take desk step).2)
      exact own (here.unique fresh there rfl).1

end ChatKeeper.Reflects

namespace Dispatcher

variable {δ : Type} (dispatcher : Dispatcher δ)

theorem takeAll_reflects {keeper : ChatKeeper dispatcher.driver} {start : Desk δ}
    {steps : List DispatchStep}
    (before : keeper.Reflects start.driver start [] [] fun _ => [])
    (orderly : dispatcher.Orderly start steps)
    (room : (steps.map (·.key)).dedup.length ≤ start.replies.capacity) :
    keeper.Reflects start.driver (dispatcher.takeAll start steps).1
      (callsOf (dispatcher.takeAll start steps).2) (steps.map (·.key))
      (dispatcher.latestAnswers start steps) := by
  induction steps using List.reverseRecOn with
  | nil => exact before
  | append_singleton steps step ih =>
      have earlier : dispatcher.Orderly start steps := by
        rintro front envelope after rfl
        exact orderly front envelope (after ++ [step]) (by simp)
      have among : steps.map (·.key) ⊆ (steps ++ [step]).map (·.key) := by
        rw [List.map_append]
        exact List.subset_append_left _ _
      have reflects := ih earlier (Nat.le_trans (Lru.length_dedup_le among) room)
      have found : step.previous (dispatcher.takeAll start steps).1.replies =
          (dispatcher.takeAll start steps).1.replies.repliesTo step.key := by
        rcases step.posted_or_previous_eq (dispatcher.takeAll start steps).1.replies with
          ⟨envelope, rfl⟩ | found
        · simp [ReplyCache.repliesTo, orderly steps envelope [] rfl]
        · exact found
      rw [← dispatcher.capacity_takeAll before.tidy steps] at room
      have after := reflects.take step found (reflects.tidy.room
        (fun key member => among (reflects.known member)) (by simp) room)
      have answers_eq := funext (dispatcher.latestAnswers_concat start steps step)
      rw [takeAll_concat, callsOf_append, List.map_append, answers_eq]
      exact after

/-- On a platform that accepts every request and gives fresh timestamps, with room in the
cache for every message that steps are about and no new message to which there are
tracked replies: the messages that stand in the chat for a source message say what the
answers to the latest that was said of it say, in order, and the cache has them on
record, with no record where there are none. -/
theorem mirrors (keeper : ChatKeeper dispatcher.driver) (capacity : Nat) (users : UserCache)
    (driver : δ) (steps : List DispatchStep) (ready : keeper.ready driver)
    (orderly : dispatcher.Orderly ⟨.empty capacity, users, driver⟩ steps)
    (room : (steps.map (·.key)).dedup.length ≤ capacity) (key : MessageKey) :
    let (desk, entries) := dispatcher.takeAll ⟨.empty capacity, users, driver⟩ steps
    let live := livePosted (callsOf entries) (keeper.live desk.driver) key
    live.map (·.content) =
        (dispatcher.latestAnswers ⟨.empty capacity, users, driver⟩ steps key).map (·.content) ∧
      (desk.replies.peek? key).map (·.map (·.place)) =
        if live.isEmpty then none else some (live.map (·.place)) := by
  have reflects := dispatcher.takeAll_reflects (.init capacity users ready) orderly room
  have mirrored := reflects.mirrored key
  constructor
  · rw [mirrored.live_eq]
    exact map_content_zipWith mirrored.length_eq
  · exact mirrored.record reflects.tidy

/-- Two messages, of which one is edited and the other is deleted. -/
def echoedSteps : List DispatchStep :=
  [.posted ⟨"general", "ann", "one", ⟨"1.0"⟩, false, "one"⟩,
    .posted ⟨"general", "bob", "eins", ⟨"2.0"⟩, false, "eins"⟩,
    .edited ⟨"general", "ann", "two", ⟨"1.0"⟩, false, "two"⟩,
    .deleted ⟨"general", ⟨"2.0"⟩⟩]

theorem mirrors_echoedSteps :
    let (desk, entries) := (echo MemoryPlatform.driver).takeAll
      ⟨.empty 2, .empty 0, .empty⟩ echoedSteps
    (livePosted (callsOf entries) desk.driver.live ⟨"general", ⟨"1.0"⟩⟩).map (·.content) =
        [("two", [])] ∧
      (livePosted (callsOf entries) desk.driver.live ⟨"general", ⟨"2.0"⟩⟩).map (·.content) =
        [] := by
  have orderly : (echo MemoryPlatform.driver).Orderly ⟨.empty 2, .empty 0, .empty⟩
      echoedSteps := by
    rintro (_ | ⟨first, _ | ⟨second, _ | ⟨third, _ | ⟨fourth, rest⟩⟩⟩⟩) envelope after split <;>
      simp only [echoedSteps, List.nil_append, List.cons_append, List.cons.injEq,
        DispatchStep.posted.injEq, reduceCtorEq, false_and, and_false] at split
    · rfl
    · obtain ⟨rfl, rfl, -⟩ := split
      decide
    · simp at split
  have mirrored := mirrors (echo MemoryPlatform.driver) MemoryPlatform.keeper 2 (.empty 0) .empty
    echoedSteps MemoryPlatform.ready_empty orderly (by decide)
  exact ⟨(mirrored ⟨"general", ⟨"1.0"⟩⟩).1, (mirrored ⟨"general", ⟨"2.0"⟩⟩).1⟩

end Dispatcher

end ChatBot
