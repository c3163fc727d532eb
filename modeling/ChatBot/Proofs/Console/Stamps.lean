import ChatBot.Proofs.Config.Rules
import ChatBot.Proofs.Console.Reading
import ChatBot.Proofs.Session.Sources
import ChatBot.Proofs.Session.Spoken
import ChatBot.Proofs.Session.UserCaches

/-!
# Stamps at the console

Three take turns at the console: the reader, the event loop, and time, in which scheduled actions
post.  The reader and whoever posts share one clock.  In whatever order the turns are taken, no two
lines and messages get the same stamp and none is left out, and the loop receives what is read in
the order of the input.  So a line that was typed is never mistaken for a reply of the bot.
-/

namespace ChatBot

/-! ## One stamp in a turn -/

theorem Reconciled.length_postedTimestamps_le {settings : ReplySettings} {source : MessageKey}
    {previous replies : List ReplyRecord} {answers : List Answer} {calls : List MadeCall}
    (reconciled : Reconciled settings source previous answers calls replies) :
    (postedTimestamps calls).length ≤ answers.length := by
  cases reconciled with
  | changed attempts same changes =>
      have nothing : postedTimestamps (attempts.map (ChangeAttempt.call source)) = [] := by
        simp [postedTimestamps, ChangeAttempt.call, Call.postedTimestamp?]
      simp [nothing]
  | replaced deletions posts differ deleted posted =>
      have nothing : postedTimestamps (deletions.map (DeleteAttempt.call source)) = [] := by
        simp [postedTimestamps, DeleteAttempt.call, Call.postedTimestamp?]
      rw [postedTimestamps_append, nothing, List.nil_append, postedTimestamps_posts,
        List.length_map, ← posted, List.length_map]
      exact List.length_filterMap_le _ _

theorem Registry.length_answersFor_le (registry : Registry) (finder : UserFinder)
    (known : UserCache) (envelope : Envelope) :
    ((registry.answersFor envelope).run finder known).1.length ≤
      max 1 registry.hearActions.length := by
  rw [answersFor_eq]
  split
  · refine le_trans ?_ (Nat.le_max_left 1 _)
    split
    · exact Route.length_renderAll_le finder envelope [_] known
    · exact Nat.le_refl 1
  · have matching := List.length_filter_le (·.action.isMatch envelope) registry.hearActions
    exact (Route.length_renderAll_le finder envelope _ known).trans
      (matching.trans (Nat.le_max_right 1 _))

theorem Dispatcher.length_wanted_le {δ : Type} (dispatcher : Dispatcher δ) (desk : Desk δ)
    (step : DispatchStep) :
    (dispatcher.wanted desk step).length ≤ max 1 dispatcher.registry.hearActions.length := by
  have answered := dispatcher.registry.length_answersFor_le dispatcher.users desk.users
  cases step with
  | posted envelope => exact answered envelope
  | edited envelope =>
      rw [wanted]
      split
      · exact answered envelope
      · exact Nat.zero_le _
  | deleted key => exact Nat.zero_le _

/-- In the course of an event no more messages are posted than there are hear actions, or one. -/
theorem EventLoop.length_postedTimestamps_handle_le {δ : Type} (loop : EventLoop δ)
    {state : LoopState δ} (tidy : state.desk.replies.Tidy) (event : Event) :
    (postedTimestamps (callsOf (loop.handle state event).2.1)).length ≤
      max 1 loop.dispatcher.registry.hearActions.length := by
  rcases loop.handle_dispatched rfl with ⟨-, -, nothing⟩ | ⟨step, -, -, -, calls_eq⟩
  · rw [nothing]
    exact Nat.zero_le _
  · obtain ⟨replies, -, reconciled⟩ := loop.dispatcher.take_reconciled tidy.toWellFormed step
    rw [calls_eq]
    exact reconciled.length_postedTimestamps_le.trans
      (loop.dispatcher.length_wanted_le state.desk step)

namespace Console

variable {session : Session Terminal} {console : Console} {made : List MadeCall}

theorem length_postedTimestamps_handle_le (tidy : console.session.loop.desk.replies.Tidy) :
    (postedTimestamps (console.calls session .handle)).length ≤
      max 1 session.loop.dispatcher.registry.hearActions.length := by
  cases queue : console.queue with
  | nil => simp [calls, queue, postedTimestamps]
  | cons event rest =>
      simp only [calls, queue]
      cases stage : console.session.stage with
      | running =>
          rw [(session.deliver_loop stage [event]).2, session.loop.takeAll_singleton]
          exact session.loop.length_postedTimestamps_handle_le tidy event
      | stopping ending stopTime waiting => simp [Session.deliver, stage, postedTimestamps]
      | stopped ending => simp [Session.deliver, stage, postedTimestamps]

theorem length_hearActions_sessionOf {options : Options} {surroundings : Surroundings}
    {folder : FileTree} {bot : Bot} (set : Console.bot options surroundings folder = .ok bot) :
    (sessionOf bot).loop.dispatcher.registry.hearActions.length = 1 := by
  unfold Console.bot at set
  split at set
  · cases set
  · next config _ =>
      cases made : (Bot.setUp config false folder).1 with
      | error error =>
          rw [made] at set
          cases set
      | ok base =>
          rw [made] at set
          obtain rfl := Except.ok.inj set
          obtain ⟨-, rfl⟩ := Bot.eq_sized_of_setUp made
          simp only [Bot.registerAll_eq, sessionOf, Session.start, Session.registryOf]
          split <;> rfl

theorem platform_sessionOf (bot : Bot) : (sessionOf bot).platform = Terminal.driver :=
  rfl

/-- The stamps that were given out are as many as the lines that were typed and the messages that
were posted. -/
theorem Counted.stamps_eq (counted : console.Counted made) :
    console.terminal.stamps = console.terminal.typed.length + (postedTimestamps made).length := by
  have same := counted.numbered.perm.length_eq
  rw [List.length_append, List.length_range'] at same
  rw [← counted.posted, List.length_map, same]

theorem Counted.stamps_handle (counted : console.Counted made)
    (shown : session.platform = Terminal.driver) :
    (console.handle session).terminal.stamps =
      console.terminal.stamps + (postedTimestamps (console.calls session .handle)).length := by
  have typed_eq := (answers_handle shown counted.ledger.1).typed
  have before := counted.stamps_eq
  have after := (counted.take shown .handle).stamps_eq
  rw [postedTimestamps_append, List.length_append] at after
  simp only [Console.take, typed_eq] at after
  omega

/-- Each turn of the loop gives out one stamp or none, as does each turn of the reader.  So nothing
is lost by taking turns at whole events. -/
theorem stamps_handle_le {options : Options} {surroundings : Surroundings} {folder : FileTree}
    {bot : Bot} (set : Console.bot options surroundings folder = .ok bot) (input : List String)
    (turns : List ConsoleTurn) :
    let session := sessionOf bot
    let console := (start bot input).takeAll session turns
    (console.handle session).terminal.stamps ≤ console.terminal.stamps + 1 := by
  intro session console
  have shown := platform_sessionOf bot
  have counted := (counted_start bot input).takeAll shown turns
  rw [counted.stamps_handle shown]
  apply Nat.add_le_add_left
  have posted : _ ≤ max 1 session.loop.dispatcher.registry.hearActions.length :=
    length_postedTimestamps_handle_le counted.ledger.1
  rwa [length_hearActions_sessionOf set] at posted

/-! ## All turns -/

theorem queue_handle (session : Session Terminal) (console : Console) :
    (console.handle session).queue = console.queue.tail := by
  unfold handle
  split
  · next empty => rw [empty, List.tail_nil]
  · next full => rw [full, List.tail_cons]

/-- As many turns of the loop as there are events in the queue work it off. -/
theorem queue_takeAll_handle (session : Session Terminal) (console : Console) {count : Nat}
    (long : console.queue.length = count) :
    (console.takeAll session (.replicate count .handle)).queue = [] := by
  induction count generalizing console with
  | zero => exact List.eq_nil_of_length_eq_zero long
  | succ count ih =>
      apply ih (console.handle session)
      rw [queue_handle, List.length_tail, long, Nat.add_sub_cancel]

/-- The timestamps that were given to lines and to messages, in whichever order, are those of the
numbers from one on. -/
theorem Counted.given_perm (counted : console.Counted made) :
    (console.terminal.typed.map stampOf ++ postedTimestamps made).Perm
      ((List.range' 1 console.terminal.stamps).map stampOf) := by
  rw [← counted.posted, ← List.map_append]
  exact counted.numbered.perm.map stampOf

theorem Counted.given_nodup (counted : console.Counted made) :
    (console.terminal.typed.map stampOf ++ postedTimestamps made).Nodup :=
  counted.given_perm.nodup_iff.mpr (List.Nodup.map stampOf_injective (List.nodup_range' 1))

/-- The replies that are tracked have timestamps that were given to messages. -/
theorem Counted.timestamps_subset (counted : console.Counted made) :
    console.session.loop.desk.replies.timestamps ⊆ postedTimestamps made := by
  intro timestamp member
  have fresh : (postedTimestamps made).Nodup := counted.given_nodup.of_append_right
  have ledger := counted.ledger.2 ((postedTimestamps_sourceCalls made).nodup fresh)
  obtain ⟨entry, tracked, inside⟩ := List.mem_flatMap.mp member
  obtain ⟨reply, kept, rfl⟩ := List.mem_map.mp inside
  have posted := ledger.posted entry tracked reply kept
  exact (postedTimestamps_sourceCalls made).subset posted.mem_postedTimestamps

/-- In whatever order the reader, the event loop and time take their turns: the timestamps of the
lines that are typed and of the messages that are posted are those of the numbers from one on, each
given once and none left out, and only a line that is read as a message is given one.  The loop
receives that the bot is connected, then one event for each line that is neither blank nor
malformed, in the order of the input and with the timestamps that were typed, and after the last
line the request to terminate, all up to the first event that ends it.  When the queue is worked
off it has received all of them, and turns of the loop work it off.  The reader comes to the end of
the input if it has turns enough, unless the loop has ended.  An event about a line that was typed
is about no message that the bot has posted, and none that it keeps track of. -/
theorem stamps_in_order (bot : Bot) (input : List String) (turns : List ConsoleTurn) :
    let session := sessionOf bot
    let console := (start bot input).takeAll session turns
    let calls := (start bot input).allCalls session turns
    let received := (start bot input).received session turns
    let terminal := console.terminal
    let given := terminal.typed.map stampOf ++ postedTimestamps calls
    terminal.lines.filterMap TerminalLine.stamp? = List.range' 1 terminal.stamps ∧
      given.Perm ((List.range' 1 terminal.stamps).map stampOf) ∧ given.Nodup ∧
      (∃ lines, input = lines ++ console.input ∧ terminal.typed.length = messageCount lines ∧
        let offers := offered lines terminal.typed console.isReading
        received <+: Event.taken offers ∧
          (console.queue = [] → received = Event.taken offers) ∧
          (console.isReading = false → lines = input ∨ ¬ Event.Quiet received)) ∧
      (input.length < turns.count .read → console.isReading = false) ∧
      (console.takeAll session (.replicate console.queue.length .handle)).queue = [] ∧
      ∀ (event : MessageEvent) (stamp : Nat), stamp ∈ terminal.typed →
        event.source = ⟨channel, stampOf stamp⟩ →
          event.source.timestamp ∉ postedTimestamps calls ∧
            event.source.timestamp ∉ console.session.loop.desk.replies.timestamps := by
  intro session console calls received terminal given
  have shown := platform_sessionOf bot
  have counted : console.Counted calls := (counted_start bot input).takeAll shown turns
  obtain ⟨lines, reads⟩ := (reads_start bot input).takeAll shown (counted_start bot input) turns
  rw [Nat.zero_add, List.nil_append] at reads
  refine ⟨counted.numbered, counted.given_perm, counted.given_nodup, ?_, ?_,
    queue_takeAll_handle session console rfl, ?_⟩
  · refine ⟨lines, reads.input, reads.stamped, reads.inOrder.prefix_taken, reads.inOrder.eq_taken,
      fun done => (reads.finished done).imp_left fun last => ?_⟩
    have input_eq := reads.input
    rw [last, List.append_nil] at input_eq
    exact input_eq.symm
  · intro often
    cases reading : console.isReading with
    | false => rfl
    | true =>
        have pace := reads.paced reading
        have whole := congrArg List.length reads.input
        rw [List.length_append] at whole
        omega
  · intro event stamp typed about
    have unposted : event.source.timestamp ∉ postedTimestamps calls := by
      rw [about]
      exact (List.disjoint_of_nodup_append counted.given_nodup) (List.mem_map_of_mem typed)
    exact ⟨unposted, fun tracked => unposted (counted.timestamps_subset tracked)⟩

/-- A line is typed and answered, its deletion follows as an event, another line is typed, and time
passes in between.  Blank and malformed lines leave no trace. -/
theorem stamps_in_order_chatter :
    let bot := ((Bot.sized Config.default).registerAll plugins).1
    let deletion := "\x7b\"type\":\"message\",\"channel\":\"Cconsole\",\"subtype\":\x7b" ++
      "\"message_deleted\":\x7b\"deleted_timestamp\":\"1.000000\"\x7d\x7d\x7d"
    let input := ["I like blue jays", " ", "\x7b", deletion, "hi"]
    let turns := [.handle, .read, .handle, .read, .read, .wait 3600000, .read, .read, .handle,
      .read, .handle, .handle]
    let console := (start bot input).takeAll (sessionOf bot) turns
    let calls := (start bot input).allCalls (sessionOf bot) turns
    let event := MessageEvent.deleted channel ⟨""⟩ ⟨"1.000000"⟩
    console.terminal.typed = [1, 4] ∧ postedTimestamps calls = [stampOf 2, stampOf 3] ∧
      (start bot input).received (sessionOf bot) turns =
        [.connected, typedMessage "I like blue jays" 1, .message event, typedMessage "hi" 4,
          .termination] ∧
      event.source.timestamp ∉ postedTimestamps calls := by
  intro bot deletion input turns console calls event
  obtain ⟨-, -, -, -, -, -, apart⟩ := stamps_in_order bot input turns
  have typed : console.terminal.typed = [1, 4] := by decide +kernel
  have first : 1 ∈ console.terminal.typed := by
    rw [typed]
    exact List.mem_cons_self
  exact ⟨typed, by decide +kernel, by decide +kernel, (apart event 1 first rfl).1⟩

end Console

end ChatBot
