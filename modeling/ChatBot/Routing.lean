import ChatBot.Registry

/-!
# Routing

Which rules answer a message, and what they answer.  A message meant for the bot
goes to the first command that matches, or gets a fixed answer when there is
none.  Any other message goes to every hear action that matches.  Answers that
say nothing are dropped.
-/

namespace ChatBot

/-- The rules that answer a message. -/
inductive Route where
  | command (action : Registered Action)
  | unmatched
  | hear (actions : List (Registered Action))

namespace Route

/-- The rules of a route in the order in which they answer. -/
def actions : Route → List (Registered Action)
  | command action => [action]
  | unmatched => []
  | hear actions => actions

def of (registry : Registry) (envelope : Envelope) : Route :=
  if envelope.addressed then
    match registry.commands.find? (·.action.isMatch envelope) with
    | some action => command action
    | none => unmatched
  else hear (registry.hearActions.filter (·.action.isMatch envelope))

def answered (matched : Registered Action) : LogEvent :=
  ⟨.debug, "Action answered", [
    ("plugin", matched.plugin),
    ("action", matched.action.usage),
    ("kind", matched.action.trigger.kind.name)]⟩

/-- The report that a rule has matched and said nothing. -/
def silent (matched : Registered Action) : LogEvent :=
  ⟨.trace, "Action matched without answering", [
    ("plugin", matched.plugin),
    ("action", matched.action.usage)]⟩

/-- What one rule answers: at most one answer, and none that says nothing. -/
def renderOne (envelope : Envelope) (matched : Registered Action) : Inquiry (List Answer) :=
  (matched.action.render envelope).bind fun answer =>
    match answer with
    | some answer =>
      if answer.isEmpty then .note (silent matched) (.done [])
      else .note (answered matched) (.done [answer])
    | none => .note (silent matched) (.done [])

def renderAll (envelope : Envelope) : List (Registered Action) → Inquiry (List Answer)
  | [] => .done []
  | matched :: rest =>
    (renderOne envelope matched).bind fun first =>
      (renderAll envelope rest).bind fun others => .done (first ++ others)

def render (route : Route) (envelope : Envelope) : Inquiry (List Answer) :=
  renderAll envelope route.actions

end Route

/-- The answer to a message meant for the bot that no command matches. -/
def fallbackAnswer : Answer :=
  .ofText "I don't understand, ask me for `help` to see what I can do."

/-- The report that the fixed answer is given. -/
def fallbackReport : LogEvent :=
  ⟨.debug, "No command matched addressed message, sending fallback", []⟩

namespace Registry

def answersFor (registry : Registry) (envelope : Envelope) : Inquiry (List Answer) :=
  match Route.of registry envelope with
  | .unmatched => .note fallbackReport (.done [fallbackAnswer])
  | route => route.render envelope

end Registry

/-- A plugin by itself, to try its answers without a platform. -/
structure Rehearsal where
  registry : Registry
  me : Identity

namespace Rehearsal

/-- A plugin with an identity to be addressed by. -/
def of (plugin : Plugin) (me : Identity) : Rehearsal :=
  ⟨Registry.empty.add plugin, me⟩

/-- The answers of the plugin to an envelope; there is no fixed answer. -/
def answersTo (rehearsal : Rehearsal) (envelope : Envelope) : Inquiry (List Answer) :=
  (Route.of rehearsal.registry envelope).render envelope

/-- The answers of the plugin to a message. -/
def answers (rehearsal : Rehearsal) (channel user text : String) : Inquiry (List Answer) :=
  rehearsal.answersTo (Envelope.of ⟨channel, user, text, ⟨"1.0"⟩⟩ rehearsal.me)

end Rehearsal

end ChatBot
