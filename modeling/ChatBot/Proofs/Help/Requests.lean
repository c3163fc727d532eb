import ChatBot.Proofs.Dispatch.Composition
import ChatBot.Proofs.Help.Listing
import ChatBot.Proofs.Session.Metadata

/-!
# Requests for help

A bot with help enabled lists the visible actions of all its plugins, and not the help itself.  A
message for the bot that asks for help, and that no command of a plugin matches, is answered with
that list, after a greeting by name if the author can be looked up, and by mention if not.
-/

namespace ChatBot

namespace Plugin

/-- Whether the actions of a plugin are filed by their triggers, as they are when they are added to
a new plugin one after the other. -/
structure Filed (plugin : Plugin) : Prop where
  commands : ∀ action ∈ plugin.commands, action.trigger = .command
  hearActions : ∀ action ∈ plugin.hearActions, action.trigger = .hear

variable {plugin : Plugin}

theorem filed_new (name : String) : (new name).Filed :=
  ⟨nofun, nofun⟩

theorem Filed.addAction (filed : plugin.Filed) (action : Action) :
    (plugin.addAction action).Filed := by
  rw [Plugin.addAction]
  cases trigger : action.trigger with
  | command =>
      refine ⟨List.forall_mem_append.mpr ⟨filed.commands, ?_⟩, filed.hearActions⟩
      simpa using trigger
  | hear =>
      refine ⟨filed.commands, List.forall_mem_append.mpr ⟨filed.hearActions, ?_⟩⟩
      simpa using trigger

theorem Filed.addScheduled (filed : plugin.Filed) (action : ScheduledAction) :
    (plugin.addScheduled action).Filed :=
  ⟨filed.commands, filed.hearActions⟩

/-- The usages and descriptions of the visible actions of a plugin, of each kind. -/
def shown (plugin : Plugin) : ActionKind → List (String × String)
  | .command =>
    (plugin.commands.filter (!·.hidden)).map fun action => (action.usage, action.description)
  | .hear =>
    (plugin.hearActions.filter (!·.hidden)).map fun action => (action.usage, action.description)
  | .scheduled =>
    (plugin.scheduledActions.filter (!·.hidden)).map fun action =>
      (action.schedule.text, action.description)

end Plugin

namespace Help

/-! ## What is listed -/

theorem shown_append (kind : ActionKind) (first second : List ActionInfo) :
    shown kind (first ++ second) = shown kind first ++ shown kind second := by
  simp [shown, visible]

theorem shown_map_actionInfo {rules : List (Registered Action)} {trigger : Trigger}
    (filed : ∀ action ∈ rules.map (·.action), action.trigger = trigger) (kind : ActionKind) :
    shown kind (rules.map Registry.actionInfo) =
      if trigger.kind = kind then
        ((rules.map (·.action)).filter (!·.hidden)).map fun action =>
          (action.usage, action.description)
      else [] := by
  have kept : rules.filter
      ((fun info : ActionInfo => info.kind = kind && !info.hidden) ∘ Registry.actionInfo) =
        rules.filter fun rule => trigger.kind = kind && !rule.action.hidden := by
    refine List.filter_congr fun rule among => ?_
    rw [← filed rule.action (List.mem_map_of_mem among)]
    rfl
  rw [shown, visible, List.filter_map, kept]
  split
  · next same => simp [same, List.filter_map, Function.comp_def, Registry.actionInfo]
  · next apart => simp [apart]

theorem shown_map_scheduledInfo (rules : List (Registered ScheduledAction)) (kind : ActionKind) :
    shown kind (rules.map Registry.scheduledInfo) =
      if .scheduled = kind then
        ((rules.map (·.action)).filter (!·.hidden)).map fun action =>
          (action.schedule.text, action.description)
      else [] := by
  rw [shown, visible, List.filter_map]
  split
  · next same => simp [same, List.filter_map, Function.comp_def, Registry.scheduledInfo]
  · next apart => simp [apart, Function.comp_def, Registry.scheduledInfo]

end Help

/-- What is shown of the actions of plugins is what is visible of each plugin in turn. -/
theorem Bot.shown_registerAll {bot : Bot} (bare : bot.registry = .empty) {plugins : List Plugin}
    (filed : ∀ plugin ∈ plugins, plugin.Filed) (kind : ActionKind) :
    Help.shown kind (bot.registerAll plugins).1.registry.infos =
      plugins.flatMap (·.shown kind) := by
  obtain ⟨commands, hearActions, scheduledActions, -, -⟩ := bot.registerAll_actions plugins
  rw [bare] at commands hearActions scheduledActions
  have commands_filed :
      ∀ action ∈ (bot.registerAll plugins).1.registry.commands.map (·.action),
        action.trigger = .command := by
    rw [commands]
    intro action among
    obtain ⟨plugin, member, inside⟩ := List.mem_flatMap.mp among
    exact (filed plugin member).commands action inside
  have hearActions_filed :
      ∀ action ∈ (bot.registerAll plugins).1.registry.hearActions.map (·.action),
        action.trigger = .hear := by
    rw [hearActions]
    intro action among
    obtain ⟨plugin, member, inside⟩ := List.mem_flatMap.mp among
    exact (filed plugin member).hearActions action inside
  rw [Registry.infos, Help.shown_append, Help.shown_append,
    Help.shown_map_actionInfo commands_filed, Help.shown_map_actionInfo hearActions_filed,
    Help.shown_map_scheduledInfo, commands, hearActions, scheduledActions]
  cases kind <;>
    simp [Registry.empty, Trigger.kind, Plugin.shown, List.filter_flatMap, List.map_flatMap]

namespace Help

/-! ## What is answered -/

theorem answersFor_registryOf {bot : Bot} (enabled : bot.config.helpEnabled = true)
    {envelope : Envelope} (addressed : envelope.addressed = true)
    (asked : asks envelope.body = true)
    (unmatched : ∀ rule ∈ bot.registry.commands, rule.action.isMatch envelope = false) :
    (Session.registryOf bot).1.answersFor envelope =
      Route.renderAll envelope [⟨pluginName, command bot.config.name bot.registry.infos⟩] := by
  have none_matches : bot.registry.commands.find? (·.action.isMatch envelope) = none :=
    List.find?_eq_none.mpr fun rule among => by simp [unmatched rule among]
  have asks_help : (command bot.config.name bot.registry.infos).isMatch envelope = true := asked
  have helped : (Session.registryOf bot).1.commands = bot.registry.commands ++
      [⟨pluginName, command bot.config.name bot.registry.infos⟩] := by
    rw [Session.registryOf, if_pos enabled]
    rfl
  rw [Registry.answersFor_eq, if_pos addressed, helped, List.find?_append, none_matches]
  simp [asks_help]

theorem value_run_command (botName : String) (infos : List ActionInfo) (envelope : Envelope)
    (finder : UserFinder) (cache : UserCache) :
    ((Route.renderAll envelope [⟨pluginName, command botName infos⟩]).run finder cache).1 =
      [greeting (nameOf (fun user => (cache.find finder user).1) envelope.user)
        (listing botName infos)] := by
  simp only [Route.renderAll, Route.renderOne, Action.render, command, reply, Inquiry.bind,
    Inquiry.run, nameOf]
  cases (cache.find finder envelope.user).1 with
  | ok user => simp [Inquiry.bind, Inquiry.run, isEmpty_greeting]
  | error error => simp [Inquiry.bind, Inquiry.run, isEmpty_greeting]

theorem isMatch_registerAll {bot : Bot} (bare : bot.registry = .empty) {plugins : List Plugin}
    {envelope : Envelope} (unmatched : ∀ plugin ∈ plugins, plugin.hasCommandFor envelope = false) :
    ∀ rule ∈ (bot.registerAll plugins).1.registry.commands,
      rule.action.isMatch envelope = false := by
  intro rule among
  have action_among := List.mem_map_of_mem (f := (·.action)) among
  rw [(bot.registerAll_actions plugins).1, bare] at action_among
  obtain ⟨plugin, member, inside⟩ := List.mem_flatMap.mp action_among
  exact Bool.eq_false_iff.mpr (List.any_eq_false.mp (unmatched plugin member) _ inside)

/-- In a session of a bot with help enabled, a request for help is answered with the listing. -/
theorem answers_request {δ : Type} {config : Config} {bot : Bot} {plugins : List Plugin}
    (valid : Bot.ofConfig config = .ok bot) (enabled : config.helpEnabled = true)
    (platform : ChatDriver δ) (users : UserFinder) (identities : IdentityFinder) (driver : δ)
    (desk : Desk δ) {envelope : Envelope} (addressed : envelope.addressed = true)
    (asked : asks envelope.body = true)
    (unmatched : ∀ plugin ∈ plugins, plugin.hasCommandFor envelope = false) :
    let ready := (bot.registerAll plugins).1
    let dispatcher := (Session.start ready platform users identities driver).1.loop.dispatcher
    (dispatcher.answersFor desk envelope).1 =
      [greeting (nameOf (fun user => (desk.users.find users user).1) envelope.user)
        (listing config.name ready.registry.infos)] := by
  intro ready dispatcher
  obtain ⟨config_eq, bare, -⟩ := Bot.of_ofConfig valid
  have ready_config : ready.config = config :=
    (bot.registerAll_actions plugins).2.2.2.1.trans config_eq
  have ready_enabled : ready.config.helpEnabled = true := by rw [ready_config, enabled]
  have helped := answersFor_registryOf ready_enabled addressed asked
    (isMatch_registerAll bare unmatched)
  have value := value_run_command config.name ready.registry.infos envelope users desk.users
  rw [ready_config] at helped
  rw [← helped] at value
  exact value

/-- A listing consists of an opening, of a part for each kind of which an action is visible, with a
line for each such action, and of a closing; so listings that show the same are the same.  A bot
with help enabled, whatever plugins it has, shows the visible actions of these plugins in their
order, and those only.  A message for the bot that asks for help and that no command of a plugin
matches gets one answer: that listing, after a greeting by the name of the author, or by mention if
the author cannot be looked up. -/
theorem lists_visible :
    (∀ botName infos, listing botName infos =
      opening botName ++
        String.join ((kinds.filter (has infos)).map fun kind =>
          partFor botName kind (shown kind infos)) ++
        closing) ∧
    (∀ botName infos infos', (∀ kind, shown kind infos = shown kind infos') →
      listing botName infos = listing botName infos') ∧
    ∀ {config : Config} {bot : Bot} {plugins : List Plugin}, Bot.ofConfig config = .ok bot →
      config.helpEnabled = true → (∀ plugin ∈ plugins, plugin.Filed) →
        let ready := (bot.registerAll plugins).1
        let listed := listing config.name ready.registry.infos
        (∀ kind, shown kind ready.registry.infos = plugins.flatMap (·.shown kind)) ∧
        ∀ {δ : Type} (platform : ChatDriver δ) users identities driver (desk : Desk δ)
          (envelope : Envelope), envelope.addressed = true → asks envelope.body = true →
          (∀ plugin ∈ plugins, plugin.hasCommandFor envelope = false) →
            let dispatcher :=
              (Session.start ready platform users identities driver).1.loop.dispatcher
            let answers := (dispatcher.answersFor desk envelope).1
            (∀ user, (desk.users.find users envelope.user).1 = .ok user →
              answers = [.ofText ("Hi, " ++ user.displayName ++ "! " ++ listed)]) ∧
            ∀ error, (desk.users.find users envelope.user).1 = .error error →
              answers = [.ofText ("Hi, " ++ ("<@" ++ envelope.user ++ ">") ++ "! " ++ listed)] := by
  refine ⟨listing_eq, fun botName _ _ same => listing_congr botName same, ?_⟩
  intro config bot plugins valid enabled filed ready listed
  obtain ⟨-, bare, -⟩ := Bot.of_ofConfig valid
  refine ⟨Bot.shown_registerAll bare filed, ?_⟩
  intro δ platform users identities driver desk envelope addressed asked unmatched dispatcher
    answers
  have greets : answers = _ := answers_request valid enabled platform users identities driver desk
    addressed asked unmatched
  refine ⟨fun user found => ?_, fun error missed => ?_⟩
  · rw [greets, nameOf, found]
    rfl
  · rw [greets, nameOf, missed]
    rfl

/-- Two plugins with actions of all kinds, of which one is hidden, and a user who cannot be looked
up. -/
theorem lists_visible_tools :
    let named := fun trigger usage description hidden =>
      ({ Action.new trigger usage with description, hidden } : Action)
    let ticks : ScheduledAction :=
      ⟨.every (.ofMilliseconds 60000), "ticks", false, [], fun _ => 0⟩
    let tools := (((Plugin.new "tools").addAction (named .hear "secret" "" true)).addScheduled
      ticks).addAction (named .command "make" "does make" false)
    let more := ((Plugin.new "more").addAction (named .hear "blue jays" "" false)).addAction
      (named .command "brew" "" false)
    let bot : Bot := ⟨.default, .empty, 5000, 0⟩
    let ready := (bot.registerAll [tools, more]).1
    let users := UserFinder.ofTable []
    let identities : IdentityFinder := fun _ => .ok ⟨"bot", "Bot"⟩
    let started := Session.start ready MemoryPlatform.driver users identities .empty
    let envelope := Envelope.of ⟨"Direct", "U1", " Help ", ⟨"1.0"⟩⟩ ⟨"bot", "Bot"⟩
    kinds.map (fun kind => shown kind ready.registry.infos) =
        [[("make", "does make"), ("brew", "")], [("blue jays", "")], [("every 1m", "ticks")]] ∧
      (started.1.loop.dispatcher.answersFor started.2.1.loop.desk envelope).1 =
        [.ofText ("Hi, <@U1>! " ++ listing "perch" ready.registry.infos)] := by
  intro named ticks tools more bot ready users identities started envelope
  have tools_filed : tools.Filed :=
    (((Plugin.filed_new "tools").addAction _).addScheduled ticks).addAction _
  have more_filed : more.Filed := ((Plugin.filed_new "more").addAction _).addAction _
  have filed : ∀ plugin ∈ [tools, more], plugin.Filed := by
    simp [tools_filed, more_filed]
  have valid : Bot.ofConfig .default = .ok bot := rfl
  obtain ⟨listed, answered⟩ := lists_visible.2.2 valid rfl filed
  have greeted := (answered MemoryPlatform.driver users identities .empty started.2.1.loop.desk
    envelope (by decide +kernel) (by decide +kernel) (by decide +kernel)).2
  refine ⟨?_, greeted _ rfl⟩
  rw [List.map_congr_left fun kind _ => listed kind]
  decide +kernel

end Help

end ChatBot
