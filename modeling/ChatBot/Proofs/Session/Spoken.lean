import ChatBot.Proofs.Dispatch.Composition
import ChatBot.Proofs.Session.Ending

/-!
# Nothing blank is posted

Answers that say nothing are dropped where they are worked out, before they are counted or posted.
So every answer that the dispatcher comes to says something, and each belongs to a rule of its own,
in the order of the rules; and whatever is sent for it, or takes the place of a reply, says
something as well, however the platform answers.
-/

namespace ChatBot

/-! ## Answers and the rules that gave them -/

namespace Action

/-- Carrying out a rule can come to an answer that says something. -/
def Gives (finder : UserFinder) (envelope : Envelope) (action : Action) (answer : Answer) : Prop :=
  (∃ known, ((action.render envelope).run finder known).1 = some answer) ∧ answer.isEmpty = false

/-- A rule has nothing to say to a message: it has no answer function, or that declines, or what it
answers is blank. -/
def HasNothingFor (finder : UserFinder) (known : UserCache) (envelope : Envelope)
    (action : Action) : Prop :=
  action.answer = none ∨ ((action.render envelope).run finder known).1 = none ∨
    ∃ answer, ((action.render envelope).run finder known).1 = some answer ∧
      answer.isEmpty = true

end Action

section Answers

variable (finder : UserFinder) (envelope : Envelope)

theorem Route.run_renderOne (known : UserCache) (matched : Registered Action) :
    ((renderOne envelope matched).run finder known).1 =
      (((matched.action.render envelope).run finder known).1.filter (!·.isEmpty)).toList := by
  rw [renderOne, Inquiry.run_bind]
  cases ((matched.action.render envelope).run finder known).1 with
  | none => rfl
  | some answer => cases silent : answer.isEmpty <;> simp [silent, Inquiry.run, Option.filter]

theorem Route.run_renderOne_eq_nil {known : UserCache} {matched : Registered Action}
    (nothing : matched.action.HasNothingFor finder known envelope) :
    ((renderOne envelope matched).run finder known).1 = [] := by
  rw [run_renderOne]
  rcases nothing with missing | declined | ⟨answer, given, blank⟩
  · simp [Action.render, missing, Inquiry.run]
  · rw [declined]
    rfl
  · simp [given, blank, Option.filter]

/-- The answers of rules are given by some of them, in their order. -/
theorem Route.renderAll_given (matched : List (Registered Action)) (known : UserCache) :
    ∃ givers, givers.Sublist matched ∧
      List.Forall₂ (fun giver answer => giver.action.Gives finder envelope answer) givers
        ((renderAll envelope matched).run finder known).1 := by
  induction matched generalizing known with
  | nil => exact ⟨[], List.Sublist.refl [], .nil⟩
  | cons first rest ih =>
      obtain ⟨givers, sublist, given⟩ := ih ((renderOne envelope first).run finder known).2.1
      have answers_eq : ((renderAll envelope (first :: rest)).run finder known).1 =
          ((renderOne envelope first).run finder known).1 ++
            ((renderAll envelope rest).run finder
              ((renderOne envelope first).run finder known).2.1).1 := by
        rw [renderAll, Inquiry.run_bind, Inquiry.run_bind]
        rfl
      rw [answers_eq, run_renderOne]
      cases found : ((first.action.render envelope).run finder known).1 with
      | none => exact ⟨givers, sublist.cons first, given⟩
      | some answer =>
          cases blank : answer.isEmpty with
          | true =>
              refine ⟨givers, sublist.cons first, ?_⟩
              simpa [Option.filter, blank] using given
          | false =>
              refine ⟨first :: givers, sublist.cons_cons first, ?_⟩
              simpa [Option.filter, blank] using ⟨⟨⟨known, found⟩, blank⟩, given⟩

theorem Route.length_renderAll_le (matched : List (Registered Action)) (known : UserCache) :
    ((renderAll envelope matched).run finder known).1.length ≤ matched.length := by
  obtain ⟨givers, sublist, given⟩ := renderAll_given finder envelope matched known
  exact given.length_eq ▸ sublist.length_le

theorem Route.exists_giver {matched : List (Registered Action)} {known : UserCache}
    {answer : Answer} (member : answer ∈ ((renderAll envelope matched).run finder known).1) :
    ∃ giver ∈ matched, giver.action.Gives finder envelope answer := by
  obtain ⟨givers, sublist, given⟩ := renderAll_given finder envelope matched known
  obtain ⟨index, bound, rfl⟩ := List.getElem_of_mem member
  have among : index < givers.length := given.length_eq ▸ bound
  exact ⟨givers[index], sublist.mem (List.getElem_mem among), given.get among bound⟩

/-- A rule that has nothing to say comes to no answer when it is tried alone. -/
theorem Route.run_renderAll_singleton {known : UserCache} {matched : Registered Action}
    (nothing : matched.action.HasNothingFor finder known envelope) :
    ((renderAll envelope [matched]).run finder known).1 = [] := by
  rw [renderAll, Inquiry.run_bind, Inquiry.run_bind]
  simp [run_renderOne_eq_nil finder envelope nothing, renderAll, Inquiry.run]

theorem isEmpty_fallbackAnswer : fallbackAnswer.isEmpty = false := by
  decide

/-- Whatever a registry answers says something. -/
theorem Registry.spoken_answersFor (registry : Registry) (known : UserCache) :
    ∀ answer ∈ ((registry.answersFor envelope).run finder known).1, answer.isEmpty = false := by
  have spoken (matched : List (Registered Action)) :
      ∀ answer ∈ ((Route.renderAll envelope matched).run finder known).1,
        answer.isEmpty = false := by
    intro answer member
    obtain ⟨giver, -, gives⟩ := Route.exists_giver finder envelope member
    exact gives.2
  rw [Registry.answersFor_eq]
  split
  · split
    · exact spoken _
    · simp [fallback, Inquiry.run, isEmpty_fallbackAnswer]
  · exact spoken _

end Answers

/-! ## Messages that say something -/

/-- A message says something: its text is not blank, or it has rich content. -/
def OutgoingMessage.Speaks (message : OutgoingMessage) : Prop :=
  Text.isAllBlank message.text = false ∨ message.blocks ≠ []

instance (message : OutgoingMessage) : Decidable message.Speaks :=
  decidable_of_iff (Text.isAllBlank message.text = false ∨ message.blocks.isEmpty = false) (by
    simp [OutgoingMessage.Speaks])

/-- The message that a call posts or puts in the place of a reply. -/
def Call.message? : Call → Option OutgoingMessage
  | send _ message _ => some message
  | update _ _ message _ => some message
  | delete _ _ _ => none

theorem Answer.isEmpty_eq_false {answer : Answer} :
    answer.isEmpty = false ↔ Text.isAllBlank answer.text = false ∨ answer.blocks ≠ [] := by
  rw [isEmpty, Bool.and_eq_false_iff]
  simp

/-- Calls that bring replies in step with answers that say something say something. -/
theorem Reconciled.speaks {settings : ReplySettings} {source : MessageKey}
    {previous replies : List ReplyRecord} {answers : List Answer} {calls : List MadeCall}
    (reconciled : Reconciled settings source previous answers calls replies)
    (spoken : ∀ answer ∈ answers, answer.isEmpty = false) :
    ∀ made ∈ calls, ∀ message, made.2.message? = some message → message.Speaks := by
  cases reconciled with
  | changed attempts same changes =>
      rw [List.forall_mem_map]
      rintro attempt member message ⟨⟩
      have inside : attempt.1 ∈ previous.zip answers := changes ▸ List.mem_map_of_mem member
      exact Answer.isEmpty_eq_false.mp (spoken _ (List.of_mem_zip inside).2)
  | replaced deletions posts differ deleted posted =>
      rw [List.forall_mem_append, List.forall_mem_map, List.forall_mem_map]
      refine ⟨fun attempt _ message none => (by cases none), ?_⟩
      rintro attempt member message ⟨⟩
      have inside : attempt.1 ∈ answers := posted ▸ List.mem_map_of_mem member
      exact Answer.isEmpty_eq_false.mp (spoken _ inside)

variable {δ : Type}

namespace Dispatcher

theorem spoken_wanted (dispatcher : Dispatcher δ) (desk : Desk δ) (step : DispatchStep) :
    ∀ answer ∈ dispatcher.wanted desk step, answer.isEmpty = false := by
  have spoken := fun envelope =>
    dispatcher.registry.spoken_answersFor dispatcher.users envelope desk.users
  cases step with
  | posted envelope => exact spoken envelope
  | edited envelope =>
      rw [wanted]
      split
      · exact spoken envelope
      · simp
  | deleted key => simp [wanted]

/-- Whatever a dispatcher posts or changes for a source message says something. -/
theorem maintains_speaking (dispatcher : Dispatcher δ) :
    dispatcher.Maintains fun cache history => cache.Tidy ∧
      ∀ source call, (.source source, call) ∈ history → ∀ message,
        call.message? = some message → message.Speaks where
  take desk step history before := by
    obtain ⟨tidy, earlier⟩ := before
    refine ⟨dispatcher.tidy_take tidy step, fun source call member => ?_⟩
    rcases List.mem_append.mp member with old | new
    · exact earlier source call old
    · obtain ⟨replies, -, reconciled⟩ := dispatcher.take_reconciled tidy.toWellFormed step
      exact reconciled.speaks (dispatcher.spoken_wanted desk step) _ new
  post cache history channel message result before := by
    obtain ⟨tidy, earlier⟩ := before
    refine ⟨tidy, fun source call member => ?_⟩
    exact earlier source call (by simpa using member)

/-- Where there is nothing to say an edit posts and changes nothing. -/
theorem message?_handleEdited_of_silent (dispatcher : Dispatcher δ) {desk : Desk δ}
    {envelope : Envelope} (silent : (dispatcher.answersFor desk envelope).1 = []) :
    ∀ made ∈ callsOf (dispatcher.handleEdited desk envelope).2, made.2.message? = none := by
  rw [answersFor] at silent
  simp only [handleEdited, answersFor, silent]
  split
  · simp
  · split
    · simp
    · next previous _ =>
        obtain ⟨attempts, -, calls_eq⟩ :=
          dispatcher.deleteAll_attempts envelope.key previous desk.driver
        simp only [reconcile_nil_right, callsOf_append, callsOf_logs, List.nil_append, calls_eq]
        rw [List.forall_mem_map]
        exact fun attempt _ => rfl

end Dispatcher

namespace Session

/-- Whatever happens in a session, whatever it posts for a source message or puts in the place of a
reply says something.  For every envelope, and whatever is known and tracked, the answers say
something as well.  A message that is meant for the bot gets one answer when no command matches and
at most one in any case; any other message gets at most as many as there are hear actions that
match, given by some of these in the order of their registration.  The first command that matches
is the only one that is tried; when it has nothing to say no reply is posted or changed. -/
theorem never_blank (session : Session δ) (responses users : Nat) (driver : δ)
    (scheduler : Scheduler) (steps : List (SessionStep δ)) :
    let dispatcher := session.loop.dispatcher
    let registry := dispatcher.registry
    let whole := session.run (.initial responses users driver scheduler) steps
    (∀ source call, (.source source, call) ∈ Moment.calls whole.2 → ∀ message,
      call.message? = some message → message.Speaks) ∧
    ∀ (desk : Desk δ) (envelope : Envelope),
      let answers := (dispatcher.answersFor desk envelope).1
      let matching := registry.hearActions.filter (·.action.isMatch envelope)
      let Given := fun (giver : Registered Action) (answer : Answer) =>
        giver.action.Gives dispatcher.users envelope answer
      (∀ answer ∈ answers, answer.isEmpty = false) ∧
      (envelope.addressed = true → answers.length ≤ 1) ∧
      (envelope.addressed = true →
        (∀ command ∈ registry.commands, command.action.isMatch envelope = false) →
        answers.length = 1) ∧
      (envelope.addressed = false → answers.length ≤ matching.length ∧
        ∃ givers, givers.Sublist matching ∧ List.Forall₂ Given givers answers) ∧
      ∀ command, envelope.addressed = true →
        registry.commands.find? (·.action.isMatch envelope) = some command →
        registry.answersFor envelope = Route.renderAll envelope [command] ∧
          (∀ answer ∈ answers, Given command answer) ∧
          (command.action.HasNothingFor dispatcher.users desk.users envelope →
            answers = [] ∧ callsOf (dispatcher.handleNew desk envelope).2 = [] ∧
              ∀ made ∈ callsOf (dispatcher.handleEdited desk envelope).2,
                made.2.message? = none) := by
  intro dispatcher registry whole
  constructor
  · have begun : (SessionState.initial responses users driver scheduler).loop.desk.replies.Tidy ∧
        ∀ source call, (.source source, call) ∈ ([] : List MadeCall) → ∀ message,
          call.message? = some message → message.Speaks :=
      ⟨ReplyCache.tidy_empty responses, by simp⟩
    have kept := dispatcher.maintains_speaking.session_takeAll steps begun
    rw [List.nil_append, ← (session.run_eq _ steps).2.2] at kept
    exact kept.2
  · intro desk envelope answers matching Given
    have answers_eq : answers =
        ((registry.answersFor envelope).run dispatcher.users desk.users).1 := rfl
    have rules_eq := registry.answersFor_eq envelope
    refine ⟨registry.spoken_answersFor dispatcher.users envelope desk.users, fun addressed => ?_,
      fun addressed unmatched => ?_, fun unaddressed => ?_, fun command addressed first => ?_⟩
    · rw [answers_eq, rules_eq, if_pos addressed]
      cases registry.commands.find? (·.action.isMatch envelope) with
      | none => exact Nat.le_refl 1
      | some command => exact Route.length_renderAll_le _ envelope [command] _
    · have none : registry.commands.find? (·.action.isMatch envelope) = none := by
        simpa using unmatched
      rw [answers_eq, rules_eq, if_pos addressed, none]
      rfl
    · rw [answers_eq, rules_eq, if_neg (by simp [unaddressed])]
      exact ⟨Route.length_renderAll_le _ envelope matching _,
        Route.renderAll_given _ envelope matching _⟩
    · rw [if_pos addressed, first] at rules_eq
      rw [rules_eq] at answers_eq
      refine ⟨rules_eq, fun answer member => ?_, fun nothing => ?_⟩
      · rw [answers_eq] at member
        obtain ⟨giver, only, gives⟩ := Route.exists_giver _ envelope member
        obtain rfl := List.mem_singleton.mp only
        exact gives
      · have silent : answers = [] :=
          answers_eq.trans (Route.run_renderAll_singleton _ envelope nothing)
        exact ⟨silent, dispatcher.callsOf_handleNew_of_silent desk silent,
          dispatcher.message?_handleEdited_of_silent silent⟩

/-- A command answers blank, and a hear action repeats what it hears.  The command is asked in
vain; a message is repeated, and when an edit leaves nothing of it the repetition is deleted. -/
theorem never_blank_echo :
    let blank : Action := { Action.new .command "hush" with
      predicate := some fun body _ => body = "hush"
      answer := some fun _ => .done (some (.ofText " \n")) }
    let any : Action := { Action.new .command "anything" with
      predicate := some fun _ _ => true
      answer := some fun _ => .done (some (.ofText "here")) }
    let dispatcher := { Dispatcher.echo MemoryPlatform.driver with
      registry := { (Dispatcher.echo MemoryPlatform.driver).registry with
        commands := [⟨"tools", blank⟩, ⟨"tools", any⟩] } }
    let session : Session MemoryPlatform := ⟨dispatcher, fun _ => .ok ⟨"bot", "Bot"⟩⟩
    let said : Message := ⟨"general", "ann", "hi", ⟨"1.0"⟩⟩
    let asked : Message := ⟨"Direct", "ann", "hush", ⟨"2.0"⟩⟩
    let steps := [.events [.connected, .message (.posted said), .message (.posted asked)],
      .events [.message (.changed "general" ⟨"3.0"⟩ { said with text := " " })]]
    let calls := Moment.calls (session.run (.initial 8 8 .empty ⟨0, []⟩) steps).2
    (calls.map fun made => made.2.message?.map (·.text)) = [some "hi", none] ∧
      (∀ source call, (.source source, call) ∈ calls → ∀ message,
        call.message? = some message → message.Speaks) ∧
      callsOf (dispatcher.handleNew ⟨.empty 8, .empty 8, .empty⟩
        (Envelope.of asked ⟨"bot", "Bot"⟩)).2 = [] := by
  intro blank any dispatcher session said asked steps calls
  obtain ⟨speaks, answered⟩ := never_blank session 8 8 .empty ⟨0, []⟩ steps
  obtain ⟨-, -, -, -, silent⟩ :=
    answered ⟨.empty 8, .empty 8, .empty⟩ (Envelope.of asked ⟨"bot", "Bot"⟩)
  obtain ⟨-, -, nothing⟩ :=
    silent ⟨"tools", blank⟩ (by decide) (List.find?_cons_of_pos (by decide))
  obtain ⟨-, unanswered, -⟩ := nothing (Or.inr (Or.inr ⟨_, rfl, by decide⟩))
  exact ⟨by decide +kernel, speaks, unanswered⟩

end Session

end ChatBot
