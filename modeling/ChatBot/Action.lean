import ChatBot.Inquiry
import ChatBot.Text.Quoted

/-!
# Actions

The rules by which a bot answers messages.  A command answers a message that is
meant for the bot; a hear action answers any other.  A rule without a predicate
matches nothing, and a rule without an answer function never answers.
-/

namespace ChatBot

/-- The kinds of actions. -/
inductive ActionKind where
  | command
  | hear
  | scheduled
  deriving DecidableEq, Repr

namespace ActionKind

def name : ActionKind → String
  | command => "command"
  | hear => "hear"
  | scheduled => "scheduled"

end ActionKind

/-- Which messages an action is for. -/
inductive Trigger where
  | command
  | hear
  deriving DecidableEq, Repr

namespace Trigger

/-- The kind of the actions with a trigger. -/
def kind : Trigger → ActionKind
  | command => .command
  | hear => .hear

def name : Trigger → String
  | command => "Command"
  | hear => "Hear"

end Trigger

/-- A rule for answering messages.  The predicate sees the body of the message
and its envelope. -/
structure Action where
  trigger : Trigger
  usage : String
  description : String
  hidden : Bool
  predicate : Option (String → Envelope → Bool)
  answer : Option (Envelope → Inquiry (Option Answer))

namespace Action

def new (trigger : Trigger) (usage : String) : Action :=
  { trigger, usage, description := "", hidden := false, predicate := none, answer := none }

def isMatch (action : Action) (envelope : Envelope) : Bool :=
  match action.predicate with
  | some test => test envelope.body envelope
  | none => false

/-- The answer of a rule to a message, if it gives one. -/
def render (action : Action) (envelope : Envelope) : Inquiry (Option Answer) :=
  match action.answer with
  | some answer => answer envelope
  | none =>
    .note ⟨.trace, "Action has no answer function", [("usage", action.usage)]⟩ (.done none)

def describe (action : Action) : String :=
  "ActionDefinition \x7b trigger: " ++ action.trigger.name ++ ", usage: " ++
    Text.quote action.usage ++ ", hidden: " ++ toString action.hidden ++ " \x7d"

end Action

/-- What a listing says about an action. -/
structure ActionInfo where
  plugin : String
  kind : ActionKind
  usage : String
  description : String
  hidden : Bool
  deriving DecidableEq, Repr

end ChatBot
