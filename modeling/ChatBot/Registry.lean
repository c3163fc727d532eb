import ChatBot.Plugin

/-!
# The registry

The actions of all plugins, each with the name of its plugin.  The order of
registration is kept; it is the order in which rules are tried.
-/

namespace ChatBot

/-- An action with the name of the plugin that it came with. -/
structure Registered (α : Type) where
  plugin : String
  action : α

/-- The actions of all plugins, in the order of registration. -/
structure Registry where
  plugins : List String
  commands : List (Registered Action)
  hearActions : List (Registered Action)
  scheduledActions : List (Registered ScheduledAction)

namespace Registry

def empty : Registry :=
  ⟨[], [], [], []⟩

def add (registry : Registry) (plugin : Plugin) : Registry where
  plugins := registry.plugins ++ [plugin.name]
  commands := registry.commands ++ plugin.commands.map (⟨plugin.name, ·⟩)
  hearActions := registry.hearActions ++ plugin.hearActions.map (⟨plugin.name, ·⟩)
  scheduledActions :=
    registry.scheduledActions ++ plugin.scheduledActions.map (⟨plugin.name, ·⟩)

/-- The reports on registering a plugin; a name that is taken draws a warning. -/
def reports (registry : Registry) (plugin : Plugin) : List LogEvent :=
  (if plugin.name ∈ registry.plugins then
    [⟨.warn, "Plugin registered more than once", [("plugin", plugin.name)]⟩]
  else []) ++
  [⟨.debug, "Registered plugin", [
    ("plugin", plugin.name),
    ("commands", toString plugin.commands.length),
    ("hear_actions", toString plugin.hearActions.length),
    ("scheduled_actions", toString plugin.scheduledActions.length)]⟩]

def register (registry : Registry) (plugin : Plugin) : Registry × List LogEvent :=
  (registry.add plugin, registry.reports plugin)

def registerAll (registry : Registry) : List Plugin → Registry × List LogEvent
  | [] => (registry, [])
  | plugin :: rest =>
    let (registry, events) := registry.register plugin
    let (registry, others) := registry.registerAll rest
    (registry, events ++ others)

def isEmpty (registry : Registry) : Bool :=
  registry.commands.isEmpty && registry.hearActions.isEmpty && registry.scheduledActions.isEmpty

def actionInfo (registered : Registered Action) : ActionInfo where
  plugin := registered.plugin
  kind := registered.action.trigger.kind
  usage := registered.action.usage
  description := registered.action.description
  hidden := registered.action.hidden

/-- What a listing says about a scheduled action. -/
def scheduledInfo (registered : Registered ScheduledAction) : ActionInfo where
  plugin := registered.plugin
  kind := .scheduled
  usage := registered.action.schedule.text
  description := registered.action.description
  hidden := registered.action.hidden

/-- What a listing says about all actions: hear actions, commands, then
scheduled actions. -/
def infos (registry : Registry) : List ActionInfo :=
  registry.hearActions.map actionInfo ++ registry.commands.map actionInfo ++
    registry.scheduledActions.map scheduledInfo

end Registry

end ChatBot
