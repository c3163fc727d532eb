import ChatBot.Registry
import Mathlib.Algebra.BigOperators.Group.List.Basic
import Mathlib.Algebra.Ring.Nat
import Mathlib.Data.List.Basic

/-!
# Registration

A plugin is put together by additions, in any mixture of kinds, and a registry by registering one
plugin after the other.  Nothing gets lost on the way and nothing changes places: the actions of
each kind stand in the registry in the order in which they were added, plugin by plugin, each with
the name of its own plugin.
-/

namespace ChatBot

/-- An addition to a plugin: one rule, several rules at once, or a scheduled action. -/
inductive Addition where
  | rule (action : Action)
  | rules (actions : List Action)
  | scheduled (action : ScheduledAction)

namespace Addition

/-- Makes an addition to a plugin. -/
def apply (plugin : Plugin) : Addition → Plugin
  | rule action => plugin.addAction action
  | rules actions => plugin.addActions actions
  | scheduled action => plugin.addScheduled action

/-- The rules that come with an addition. -/
def newRules : Addition → List Action
  | rule action => [action]
  | rules actions => actions
  | scheduled _ => []

/-- The scheduled actions that come with an addition. -/
def newScheduled : Addition → List ScheduledAction
  | rule _ | rules _ => []
  | scheduled action => [action]

/-- How many actions come with an addition. -/
def size (addition : Addition) : Nat :=
  addition.newRules.length + addition.newScheduled.length

end Addition

/-- A plugin on paper: its name, and the additions by which it is put together. -/
structure PluginPlan where
  name : String
  additions : List Addition

namespace PluginPlan

/-- Puts a plugin together. -/
def build (plan : PluginPlan) : Plugin :=
  plan.additions.foldl Addition.apply (.new plan.name)

/-- The rules of a trigger, in the order in which they are added. -/
def rulesOf (trigger : Trigger) (plan : PluginPlan) : List Action :=
  (plan.additions.flatMap (·.newRules)).filter (·.trigger = trigger)

/-- The scheduled actions, in the order in which they are added. -/
def scheduled (plan : PluginPlan) : List ScheduledAction :=
  plan.additions.flatMap (·.newScheduled)

/-- How many actions are added. -/
def size (plan : PluginPlan) : Nat :=
  (plan.additions.map (·.size)).sum

end PluginPlan

/-! ## Putting plugins together -/

namespace Plugin

/-- A rule goes to the end of the rules of its trigger. -/
theorem addAction_eq (plugin : Plugin) (action : Action) :
    plugin.addAction action =
      { plugin with
        commands := plugin.commands ++ [action].filter (·.trigger = .command)
        hearActions := plugin.hearActions ++ [action].filter (·.trigger = .hear) } := by
  unfold addAction
  split <;> simp [*]

theorem addActions_eq (plugin : Plugin) (actions : List Action) :
    plugin.addActions actions =
      { plugin with
        commands := plugin.commands ++ actions.filter (·.trigger = .command)
        hearActions := plugin.hearActions ++ actions.filter (·.trigger = .hear) } := by
  induction actions generalizing plugin with
  | nil => simp [addActions]
  | cons action rest ih =>
      rw [addActions, List.foldl_cons]
      refine (ih (plugin.addAction action)).trans ?_
      simp only [addAction_eq, List.append_assoc, ← List.filter_append, List.singleton_append]

end Plugin

namespace Addition

theorem apply_eq (plugin : Plugin) (addition : Addition) :
    addition.apply plugin =
      { plugin with
        commands := plugin.commands ++ addition.newRules.filter (·.trigger = .command)
        hearActions := plugin.hearActions ++ addition.newRules.filter (·.trigger = .hear)
        scheduledActions := plugin.scheduledActions ++ addition.newScheduled } := by
  cases addition with
  | rule action => simp [apply, plugin.addAction_eq, newRules, newScheduled]
  | rules actions => simp [apply, plugin.addActions_eq, newRules, newScheduled]
  | scheduled action => simp [apply, Plugin.addScheduled, newRules, newScheduled]

theorem foldl_apply_eq (plugin : Plugin) (additions : List Addition) :
    additions.foldl apply plugin =
      { plugin with
        commands := plugin.commands ++
          (additions.flatMap (·.newRules)).filter (·.trigger = .command)
        hearActions := plugin.hearActions ++
          (additions.flatMap (·.newRules)).filter (·.trigger = .hear)
        scheduledActions := plugin.scheduledActions ++ additions.flatMap (·.newScheduled) } := by
  induction additions generalizing plugin with
  | nil => simp
  | cons addition rest ih =>
      rw [List.foldl_cons, ih, apply_eq]
      simp only [List.flatMap_cons, List.filter_append, List.append_assoc]

end Addition

namespace PluginPlan

theorem build_eq (plan : PluginPlan) :
    plan.build = ⟨plan.name, plan.rulesOf .command, plan.rulesOf .hear, plan.scheduled⟩ := by
  rw [build, Addition.foldl_apply_eq]
  rfl

/-- Every rule is either a command or a hear action. -/
theorem length_rulesOf (plan : PluginPlan) :
    (plan.rulesOf .hear).length + (plan.rulesOf .command).length =
      (plan.additions.flatMap (·.newRules)).length := by
  have other : ∀ action ∈ plan.additions.flatMap (·.newRules),
      decide (action.trigger = .command) = !decide (action.trigger = .hear) := by
    intro action _
    cases action.trigger <;> rfl
  rw [rulesOf, rulesOf, List.filter_congr other]
  exact (List.length_eq_length_filter_add _).symm

theorem size_eq (plan : PluginPlan) :
    plan.size = (plan.rulesOf .hear).length + (plan.rulesOf .command).length +
      plan.scheduled.length := by
  rw [length_rulesOf, scheduled, List.length_flatMap, List.length_flatMap, ← List.sum_map_add]
  rfl

end PluginPlan

/-! ## Registering plugins -/

namespace Registry

/-- The actions of plugins, each with the name of its plugin. -/
def labelled {α : Type} (actions : Plugin → List α) (plugins : List Plugin) :
    List (Registered α) :=
  plugins.flatMap fun plugin => (actions plugin).map (⟨plugin.name, ·⟩)

theorem registerAll_eq (registry : Registry) (plugins : List Plugin) :
    (registry.registerAll plugins).1 =
      { plugins := registry.plugins ++ plugins.map (·.name)
        commands := registry.commands ++ labelled (·.commands) plugins
        hearActions := registry.hearActions ++ labelled (·.hearActions) plugins
        scheduledActions := registry.scheduledActions ++ labelled (·.scheduledActions) plugins } := by
  induction plugins generalizing registry with
  | nil => simp [registerAll, labelled]
  | cons plugin rest ih =>
      refine (ih (registry.add plugin)).trans ?_
      simp [add, labelled]

/-- The infos about the rules of a trigger are all of its kind. -/
theorem map_actionInfo_rulesOf (trigger : Trigger) (plan : PluginPlan) :
    (plan.rulesOf trigger).map (fun action => actionInfo ⟨plan.name, action⟩) =
      (plan.rulesOf trigger).map fun action =>
        ⟨plan.name, trigger.kind, action.usage, action.description, action.hidden⟩ := by
  apply List.map_congr_left
  intro action member
  have filed : action.trigger = trigger := of_decide_eq_true (List.mem_filter.mp member).2
  rw [actionInfo, filed]

theorem length_infos (registry : Registry) :
    registry.infos.length = registry.hearActions.length + registry.commands.length +
      registry.scheduledActions.length := by
  simp [infos, Nat.add_assoc]

theorem isEmpty_iff (registry : Registry) :
    registry.isEmpty = true ↔ registry.infos.length = 0 := by
  simp only [isEmpty, length_infos, Bool.and_eq_true, List.isEmpty_iff_length_eq_zero]
  omega

/-- Plugins that are registered one after the other come to a registry with all their actions, and
no others.  The commands of the registry are those of the plugins in the order in which they were
added, and so are its hear actions and its scheduled actions, each with the name of its own plugin.
The names are those of all plugins, also of those without actions and of those with a name that was
taken.  There are as many infos as actions were added: about the hear actions, then the commands,
then the scheduled actions, each with what is told of its own action.  The registry is empty when
no action was added to any plugin, and only then. -/
theorem registered_in_order (plans : List PluginPlan) :
    let registry := (Registry.empty.registerAll (plans.map PluginPlan.build)).1
    let added := (plans.map (·.size)).sum
    registry.commands =
        plans.flatMap (fun plan => (plan.rulesOf .command).map (⟨plan.name, ·⟩)) ∧
      registry.hearActions =
        plans.flatMap (fun plan => (plan.rulesOf .hear).map (⟨plan.name, ·⟩)) ∧
      registry.scheduledActions =
        plans.flatMap (fun plan => plan.scheduled.map (⟨plan.name, ·⟩)) ∧
      registry.plugins = plans.map (·.name) ∧
      registry.infos =
        plans.flatMap (fun plan => (plan.rulesOf .hear).map fun action =>
          ⟨plan.name, .hear, action.usage, action.description, action.hidden⟩) ++
        plans.flatMap (fun plan => (plan.rulesOf .command).map fun action =>
          ⟨plan.name, .command, action.usage, action.description, action.hidden⟩) ++
        plans.flatMap (fun plan => plan.scheduled.map fun action =>
          ⟨plan.name, .scheduled, action.schedule.text, action.description, action.hidden⟩) ∧
      registry.infos.length = added ∧
      (registry.isEmpty = true ↔ added = 0) := by
  intro registry added
  have built : registry = _ := registerAll_eq .empty (plans.map PluginPlan.build)
  have commands_eq : registry.commands =
      plans.flatMap fun plan => (plan.rulesOf .command).map (⟨plan.name, ·⟩) := by
    simp [built, empty, labelled, List.flatMap_map, PluginPlan.build_eq]
  have hearActions_eq : registry.hearActions =
      plans.flatMap fun plan => (plan.rulesOf .hear).map (⟨plan.name, ·⟩) := by
    simp [built, empty, labelled, List.flatMap_map, PluginPlan.build_eq]
  have scheduledActions_eq : registry.scheduledActions =
      plans.flatMap fun plan => plan.scheduled.map (⟨plan.name, ·⟩) := by
    simp [built, empty, labelled, List.flatMap_map, PluginPlan.build_eq]
  have names : registry.plugins = plans.map (·.name) := by
    simp [built, empty, Function.comp_def, PluginPlan.build_eq]
  have told : registry.infos.length = added := by
    rw [length_infos, commands_eq, hearActions_eq, scheduledActions_eq]
    simp [added, List.length_flatMap, PluginPlan.size_eq, List.sum_map_add]
  refine ⟨commands_eq, hearActions_eq, scheduledActions_eq, names, ?_, told, ?_⟩
  · rw [infos, commands_eq, hearActions_eq, scheduledActions_eq]
    simp only [List.map_flatMap, List.map_map, Function.comp_def, map_actionInfo_rulesOf]
    rfl
  · rw [isEmpty_iff, told]

end Registry

end ChatBot
