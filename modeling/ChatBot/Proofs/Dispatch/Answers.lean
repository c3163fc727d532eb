import ChatBot.Help
import ChatBot.Proofs.Message.Envelopes
import ChatBot.Routing

/-!
# What is answered

Where every user is looked up in one table, the answers to a message are plain data: they
follow from the predicates and the answer functions of the actions, and from nothing that
the actions say about themselves.  The help command, which comes after all commands of the
plugins, takes over where the fixed answer would be given to a request for help, and
nowhere else.
-/

namespace ChatBot

theorem Inquiry.value_bind {α β : Type} (table : String → Except ApiError UserInfo)
    (inquiry : Inquiry α) (next : α → Inquiry β) :
    (inquiry.bind next).value table = (next (inquiry.value table)).value table := by
  induction inquiry with
  | done value => rfl
  | lookUp user rest ih => exact ih (table user)
  | note event rest ih => exact ih

namespace Action

/-- An action without what it says about itself. -/
def bare (action : Action) : Action :=
  { action with usage := "", description := "", hidden := false }

@[simp]
theorem isMatch_bare (action : Action) (envelope : Envelope) :
    action.bare.isMatch envelope = action.isMatch envelope :=
  rfl

/-- The answers of an action to a message that it matches. -/
def answers (table : String → Except ApiError UserInfo) (envelope : Envelope)
    (action : Action) : List Answer :=
  (((action.render envelope).value table).filter (!·.isEmpty)).toList

@[simp]
theorem answers_bare (table : String → Except ApiError UserInfo) (envelope : Envelope)
    (action : Action) : action.bare.answers table envelope = action.answers table envelope := by
  obtain ⟨trigger, usage, description, hidden, predicate, answer⟩ := action
  cases answer <;> rfl

end Action

section Answers

variable (table : String → Except ApiError UserInfo)

theorem Route.value_renderOne (envelope : Envelope) (matched : Registered Action) :
    (renderOne envelope matched).value table = matched.action.answers table envelope := by
  rw [renderOne, Inquiry.value_bind, Action.answers]
  cases (matched.action.render envelope).value table with
  | none => rfl
  | some answer => cases silent : answer.isEmpty <;> simp [silent, Inquiry.value, Option.filter]

theorem Route.value_renderAll (envelope : Envelope) (matched : List (Registered Action)) :
    (renderAll envelope matched).value table =
      matched.flatMap fun registered => registered.action.answers table envelope := by
  induction matched with
  | nil => rfl
  | cons first rest ih =>
      rw [renderAll, Inquiry.value_bind, Inquiry.value_bind, value_renderOne, ih,
        List.flatMap_cons]
      rfl

/-- The answers of commands and hear actions to a message. -/
def answersOf (commands hearActions : List Action) (envelope : Envelope) : List Answer :=
  if envelope.addressed then
    match commands.find? (·.isMatch envelope) with
    | some command => command.answers table envelope
    | none => [fallbackAnswer]
  else (hearActions.filter (·.isMatch envelope)).flatMap (·.answers table envelope)

theorem Registry.value_answersFor (registry : Registry) (envelope : Envelope) :
    (registry.answersFor envelope).value table =
      answersOf table (registry.commands.map (·.action)) (registry.hearActions.map (·.action))
        envelope := by
  rw [Registry.answersFor, Route.of, answersOf]
  cases envelope.addressed with
  | false =>
      simp [Route.render, Route.actions, Route.value_renderAll, List.filter_map,
        List.flatMap_map, Function.comp_def]
  | true =>
      have found : (registry.commands.map (·.action)).find? (·.isMatch envelope) =
          (registry.commands.find? (·.action.isMatch envelope)).map (·.action) :=
        List.find?_map
      rw [found]
      cases registry.commands.find? (·.action.isMatch envelope) with
      | none => rfl
      | some command => simp [Route.render, Route.actions, Route.value_renderAll]

/-- What actions say about themselves has no part in the answers. -/
theorem answersOf_bare (commands hearActions : List Action) (envelope : Envelope) :
    answersOf table (commands.map Action.bare) (hearActions.map Action.bare) envelope =
      answersOf table commands hearActions envelope := by
  rw [answersOf, answersOf]
  cases envelope.addressed with
  | false => simp [List.filter_map, List.flatMap_map, Function.comp_def]
  | true =>
      have found : (commands.map Action.bare).find? (·.isMatch envelope) =
          (commands.find? (·.isMatch envelope)).map Action.bare :=
        List.find?_map
      rw [found]
      cases commands.find? (·.isMatch envelope) with
      | none => rfl
      | some command => simp

/-! ## Requests for help -/

namespace Help

/-- The name by which the help command greets a user. -/
def nameOf (user : String) : String :=
  match table user with
  | .ok info => info.displayName
  | .error _ => mentionOf user

/-- The body of a message asks for help when it is the word, in any case. -/
theorem asks_body (message : Message) (me : Identity) :
    asks (Envelope.of message me).body =
      decide ((Envelope.of message me).body.toList.map Char.toLower = "help".toList) := by
  rw [asks, Envelope.strip_body]

theorem isEmpty_greeting (name listing : String) : (greeting name listing).isEmpty = false := by
  have letter : 'H' ∈ ("Hi, " ++ name ++ "! " ++ listing).toList := by
    simp [String.toList_append]
  have visible : Text.isBlank 'H' = false := by decide
  have spoken : Text.isAllBlank ("Hi, " ++ name ++ "! " ++ listing) = false :=
    List.all_eq_false.mpr ⟨'H', letter, by simp [visible]⟩
  rw [greeting, Answer.ofText, Answer.isEmpty, spoken, Bool.false_and]

theorem answers_command (botName : String) (infos : List ActionInfo) (envelope : Envelope) :
    (command botName infos).answers table envelope =
      [greeting (nameOf table envelope.user) (listing botName infos)] := by
  have value_reply : ((command botName infos).render envelope).value table =
      some (greeting (nameOf table envelope.user) (listing botName infos)) := by
    simp only [command, Action.render, reply, Inquiry.value, nameOf]
    cases table envelope.user <;> rfl
  rw [Action.answers, value_reply]
  simp [isEmpty_greeting, Option.filter]

end Help

/-- Whether a message for the bot asks for help and none of the commands answers it. -/
def Envelope.asksInVain (commands : List Action) (envelope : Envelope) : Bool :=
  envelope.addressed && Help.asks envelope.body &&
    (commands.find? (·.isMatch envelope)).isNone

theorem Envelope.asksInVain_iff {commands : List Action} {envelope : Envelope} :
    envelope.asksInVain commands = true ↔
      envelope.addressed = true ∧ Help.asks envelope.body = true ∧
        ∀ command ∈ commands, command.isMatch envelope = false := by
  simp [asksInVain, and_assoc]

theorem Envelope.asksInVain_bare (commands : List Action) (envelope : Envelope) :
    envelope.asksInVain (commands.map Action.bare) = envelope.asksInVain commands := by
  simp [asksInVain, List.find?_map, Function.comp_def]

/-- A request for help that is made in vain gets the fixed answer. -/
theorem answersOf_of_asksInVain {commands : List Action} {envelope : Envelope}
    (inVain : envelope.asksInVain commands = true) (hearActions : List Action) :
    answersOf table commands hearActions envelope = [fallbackAnswer] := by
  simp only [Envelope.asksInVain, Bool.and_eq_true, Option.isNone_iff_eq_none] at inVain
  obtain ⟨⟨addressed, -⟩, unmatched⟩ := inVain
  rw [answersOf, addressed, if_pos rfl, unmatched]

/-- The help command answers requests for help that would be made in vain without it, and
changes no other answer. -/
theorem answersOf_help (commands hearActions : List Action) (botName : String)
    (infos : List ActionInfo) (envelope : Envelope) :
    answersOf table (commands ++ [Help.command botName infos]) hearActions envelope =
      if envelope.asksInVain commands then
        [Help.greeting (Help.nameOf table envelope.user) (Help.listing botName infos)]
      else answersOf table commands hearActions envelope := by
  have asked : (Help.command botName infos).isMatch envelope = Help.asks envelope.body := rfl
  rw [answersOf, answersOf, Envelope.asksInVain]
  cases envelope.addressed with
  | false => rfl
  | true =>
      rw [List.find?_append]
      cases matched : commands.find? (·.isMatch envelope) with
      | some command => simp
      | none => cases asks : Help.asks envelope.body <;> simp [asked, asks, Help.answers_command]

end Answers

end ChatBot
