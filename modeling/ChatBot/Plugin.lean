import ChatBot.Action
import ChatBot.Schedule

/-!
# Plugins

A plugin is a named bundle of actions, filed by kind in the order in which they
were added.
-/

namespace ChatBot

/-- An action triggered by time.  A run posts its messages at once and then
takes so many milliseconds, counted run by run from zero. -/
structure ScheduledAction where
  schedule : Schedule
  description : String
  hidden : Bool
  posts : List (String × OutgoingMessage)
  takes : Nat → Nat

namespace ScheduledAction

def describe (action : ScheduledAction) : String :=
  "ScheduledAction \x7b schedule: " ++ action.schedule.exactText ++ ", description: " ++
    Text.quote action.description ++ ", hidden: " ++ toString action.hidden ++ " \x7d"

variable {δ : Type}

/-- Posts messages one after the other, whatever becomes of each. -/
def postAll (driver : ChatDriver δ) : List (String × OutgoingMessage) → δ → δ × List Entry
  | [], state => (state, [])
  | (channel, message) :: rest, state =>
    let (result, state) := driver.send state channel message
    let (state, entries) := postAll driver rest state
    (state, .call .schedule (.send channel message result) :: entries)

def run (driver : ChatDriver δ) (action : ScheduledAction) (state : δ) : δ × List Entry :=
  postAll driver action.posts state

end ScheduledAction

/-- A named bundle of actions. -/
structure Plugin where
  name : String
  commands : List Action
  hearActions : List Action
  scheduledActions : List ScheduledAction

namespace Plugin

def new (name : String) : Plugin :=
  ⟨name, [], [], []⟩

/-- Adds an action to those of its trigger. -/
def addAction (plugin : Plugin) (action : Action) : Plugin :=
  match action.trigger with
  | .command => { plugin with commands := plugin.commands ++ [action] }
  | .hear => { plugin with hearActions := plugin.hearActions ++ [action] }

def addActions (plugin : Plugin) (actions : List Action) : Plugin :=
  actions.foldl addAction plugin

def addScheduled (plugin : Plugin) (action : ScheduledAction) : Plugin :=
  { plugin with scheduledActions := plugin.scheduledActions ++ [action] }

end Plugin

end ChatBot
