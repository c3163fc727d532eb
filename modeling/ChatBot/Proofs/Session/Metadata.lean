import ChatBot.Proofs.Dispatch.Answers
import ChatBot.Proofs.Session.Abreast

/-!
# What bots say about themselves

Two bots whose plugins do the same, but may be named, described and hidden differently, of
which one may list its actions on request and the other not, make the same calls in the same
order.  What they say differs only where the author of a message asks for help and no
command of the plugins answers: there each gives the answer that it keeps for the last.
-/

namespace ChatBot

/-! ## The actions of a bot -/

/-- Plugins with the same actions in the same order, but for what the actions say about
themselves. -/
structure Plugin.SameActions (first second : List Plugin) : Prop where
  commands : (first.flatMap (·.commands)).map Action.bare =
    (second.flatMap (·.commands)).map Action.bare
  hearActions : (first.flatMap (·.hearActions)).map Action.bare =
    (second.flatMap (·.hearActions)).map Action.bare
  scheduledActions : (first.flatMap (·.scheduledActions)).map ScheduledAction.bare =
    (second.flatMap (·.scheduledActions)).map ScheduledAction.bare

namespace Registry

theorem commands_add (registry : Registry) (plugin : Plugin) :
    (registry.add plugin).commands.map (·.action) =
      registry.commands.map (·.action) ++ plugin.commands := by
  simp [add, Function.comp_def]

theorem hearActions_add (registry : Registry) (plugin : Plugin) :
    (registry.add plugin).hearActions.map (·.action) =
      registry.hearActions.map (·.action) ++ plugin.hearActions := by
  simp [add, Function.comp_def]

theorem scheduledActions_add (registry : Registry) (plugin : Plugin) :
    (registry.add plugin).scheduledActions.map (·.action) =
      registry.scheduledActions.map (·.action) ++ plugin.scheduledActions := by
  simp [add, Function.comp_def]

end Registry

namespace Bot

/-- Registering plugins adds their actions, and changes nothing else about a bot. -/
theorem registerAll_actions (bot : Bot) (plugins : List Plugin) :
    let registered := (bot.registerAll plugins).1
    registered.registry.commands.map (·.action) =
        bot.registry.commands.map (·.action) ++ plugins.flatMap (·.commands) ∧
      registered.registry.hearActions.map (·.action) =
        bot.registry.hearActions.map (·.action) ++ plugins.flatMap (·.hearActions) ∧
      registered.registry.scheduledActions.map (·.action) =
        bot.registry.scheduledActions.map (·.action) ++ plugins.flatMap (·.scheduledActions) ∧
      registered.config = bot.config ∧ registered.responseCapacity = bot.responseCapacity := by
  induction plugins generalizing bot with
  | nil => simp [registerAll]
  | cons plugin rest ih =>
      obtain ⟨commands, hearActions, scheduledActions, config, capacity⟩ := ih (bot.register plugin).1
      refine ⟨?_, ?_, ?_, config, capacity⟩
      · rw [List.flatMap_cons, ← List.append_assoc, ← Registry.commands_add]
        exact commands
      · rw [List.flatMap_cons, ← List.append_assoc, ← Registry.hearActions_add]
        exact hearActions
      · rw [List.flatMap_cons, ← List.append_assoc, ← Registry.scheduledActions_add]
        exact scheduledActions

/-- What a bot has to say where the author of a message asks for help in vain: a greeting with
the list of its actions if help is enabled, or else the fixed text. -/
def lastResort (bot : Bot) (table : String → Except ApiError UserInfo) (user : String) : String :=
  if bot.config.helpEnabled then
    (Help.greeting (Help.nameOf table user)
      (Help.listing bot.config.name bot.registry.infos)).text
  else fallbackAnswer.text

/-- A bot answers as its plugins do, unless it is asked for help in vain. -/
theorem value_answersFor (bot : Bot) (table : String → Except ApiError UserInfo)
    (envelope : Envelope) :
    ((Session.registryOf bot).1.answersFor envelope).value table =
      if envelope.asksInVain (bot.registry.commands.map (·.action)) then
        [.ofText (bot.lastResort table envelope.user)]
      else answersOf table (bot.registry.commands.map (·.action))
        (bot.registry.hearActions.map (·.action)) envelope := by
  rw [Registry.value_answersFor, Session.registryOf, lastResort]
  cases bot.config.helpEnabled with
  | true =>
      have helped : (Help.plugin bot.config.name bot.registry.infos).commands =
          [Help.command bot.config.name bot.registry.infos] := rfl
      have hears : (Help.plugin bot.config.name bot.registry.infos).hearActions = [] := rfl
      simp only [if_true, Registry.register, Registry.commands_add, Registry.hearActions_add,
        helped, hears, List.append_nil, answersOf_help]
      rfl
  | false =>
      cases inVain : envelope.asksInVain (bot.registry.commands.map (·.action)) with
      | true => exact answersOf_of_asksInVain table inVain _
      | false => rfl

theorem scheduledActions_registryOf (bot : Bot) :
    (Session.registryOf bot).1.scheduledActions = bot.registry.scheduledActions := by
  rw [Session.registryOf]
  cases bot.config.helpEnabled with
  | true => exact List.append_nil _
  | false => rfl

end Bot

/-! ## Requests for help -/

/-- The message that a step asks to answer, if it does. -/
def DispatchStep.envelope? : DispatchStep → Option Envelope
  | posted envelope | edited envelope => some envelope
  | deleted _ => none

/-- An event brings a message for the bot, new or edited, whose body is the word `help` in any
case and which none of the commands matches. -/
structure AsksInVain (identities : IdentityFinder) (commands : List Action)
    (cause : Option Event) (envelope : Envelope) : Prop where
  brought : ∃ event connections me step, cause = some (.message event) ∧
    identities.resolved connections = some me ∧ event.step? me = some step ∧
      step.envelope? = some envelope
  addressed : envelope.addressed = true
  body : envelope.body.toList.map Char.toLower = "help".toList
  unmatched : ∀ command ∈ commands, command.isMatch envelope = false

/-- How the texts of two bots may differ: not at all, unless the bots are asked for help in
vain.  Then each says what it keeps for the last. -/
def HelpWording (asks : Option Event → Envelope → Prop) (resort resort' : String → String)
    (cause : Option Event) (text text' : String) : Prop :=
  text = text' ∨ ∃ envelope, asks cause envelope ∧ text = resort envelope.user ∧
    text' = resort' envelope.user

theorem Answer.alike_refl {wording : String → String → Prop} (same : ∀ text, wording text text)
    (answers : List Answer) : List.Forall₂ (Answer.Alike wording) answers answers :=
  List.forall₂_same.mpr fun answer _ => ⟨same answer.text, rfl, rfl⟩

theorem MessageEvent.envelope_of_step? {event : MessageEvent} {me : Identity}
    {step : DispatchStep} {envelope : Envelope} (told : event.step? me = some step)
    (about : step.envelope? = some envelope) :
    ∃ message, envelope = Envelope.of message me := by
  unfold step? at told
  split at told
  · split at told
    · cases told
    · cases told
      exact ⟨_, (Option.some.inj about).symm⟩
  · split at told
    · cases told
    · cases told
      exact ⟨_, (Option.some.inj about).symm⟩
  · cases told
    cases about

/-- A message that asks for help and reaches the dispatcher is what the event brings. -/
theorem AsksInVain.of_mem_dispatched {identities : IdentityFinder} {connections : Nat}
    {event : Event} {step : DispatchStep} {envelope : Envelope} {commands : List Action}
    (told : step ∈ identities.dispatched connections event)
    (about : step.envelope? = some envelope) (inVain : envelope.asksInVain commands = true) :
    AsksInVain identities commands (some event) envelope := by
  obtain ⟨message, me, rfl, known, step_eq⟩ := IdentityFinder.mem_dispatched told
  obtain ⟨addressed, asks, unmatched⟩ := Envelope.asksInVain_iff.mp inVain
  obtain ⟨text, rfl⟩ := MessageEvent.envelope_of_step? step_eq about
  rw [Help.asks_body] at asks
  exact ⟨⟨message, connections, me, step, rfl, known, step_eq, about⟩, addressed,
    of_decide_eq_true asks, unmatched⟩

theorem HelpWording.of_mem_dispatched {identities : IdentityFinder} {connections : Nat}
    {event : Event} {step : DispatchStep} {envelope : Envelope} {commands : List Action}
    (told : step ∈ identities.dispatched connections event)
    (about : step.envelope? = some envelope) {resort resort' : String → String}
    (inVain : envelope.asksInVain commands = true) :
    HelpWording (AsksInVain identities commands) resort resort' (some event)
      (resort envelope.user) (resort' envelope.user) :=
  Or.inr ⟨envelope, .of_mem_dispatched told about inVain, rfl, rfl⟩

namespace Bot

/-- Two bots with the same settings, whose actions are the same but for what they say about
themselves. -/
structure Twins (first second : Bot) : Prop where
  settings : first.config.replySettings = second.config.replySettings
  capacity : first.responseCapacity = second.responseCapacity
  commands : (first.registry.commands.map (·.action)).map Action.bare =
    (second.registry.commands.map (·.action)).map Action.bare
  hearActions : (first.registry.hearActions.map (·.action)).map Action.bare =
    (second.registry.hearActions.map (·.action)).map Action.bare
  scheduledActions : (first.registry.scheduledActions.map (·.action)).map ScheduledAction.bare =
    (second.registry.scheduledActions.map (·.action)).map ScheduledAction.bare

namespace Twins

variable {bot bot' : Bot}

theorem asksInVain_eq (twins : bot.Twins bot') (envelope : Envelope) :
    envelope.asksInVain (bot.registry.commands.map (·.action)) =
      envelope.asksInVain (bot'.registry.commands.map (·.action)) := by
  rw [← Envelope.asksInVain_bare, twins.commands, Envelope.asksInVain_bare]

/-- Twins give the same answers, unless they are asked for help in vain. -/
theorem answers_eq (twins : bot.Twins bot') (table : String → Except ApiError UserInfo)
    {envelope : Envelope}
    (served : envelope.asksInVain (bot.registry.commands.map (·.action)) = false) :
    ((Session.registryOf bot).1.answersFor envelope).value table =
      ((Session.registryOf bot').1.answersFor envelope).value table := by
  rw [bot.value_answersFor, bot'.value_answersFor, ← twins.asksInVain_eq, served,
    if_neg Bool.false_ne_true, if_neg Bool.false_ne_true, ← answersOf_bare, twins.commands,
    twins.hearActions, answersOf_bare]

theorem answers (twins : bot.Twins bot') (table : String → Except ApiError UserInfo)
    (envelope : Envelope) {wording : String → String → Prop}
    (unchanged : ∀ text, wording text text)
    (resorts : envelope.asksInVain (bot.registry.commands.map (·.action)) = true →
      wording (bot.lastResort table envelope.user) (bot'.lastResort table envelope.user)) :
    List.Forall₂ (Answer.Alike wording)
      (((Session.registryOf bot).1.answersFor envelope).value table)
      (((Session.registryOf bot').1.answersFor envelope).value table) := by
  cases inVain : envelope.asksInVain (bot.registry.commands.map (·.action)) with
  | true =>
      rw [bot.value_answersFor, bot'.value_answersFor, ← twins.asksInVain_eq, inVain, if_pos rfl,
        if_pos rfl]
      exact .cons ⟨resorts inVain, rfl, rfl⟩ .nil
  | false =>
      rw [twins.answers_eq table inVain]
      exact Answer.alike_refl unchanged _

variable {δ : Type} {alike : δ → δ → Prop} {driver : ChatDriver δ} {users : UserFinder}

theorem loops (twins : bot.Twins bot') (blind : driver.TextBlind alike) (fixed : users.Fixed)
    (identities : IdentityFinder) (state state' : δ) :
    EventLoop.Twins alike
      (HelpWording (AsksInVain identities (bot.registry.commands.map (·.action)))
        (bot.lastResort (users 0)) (bot'.lastResort (users 0)))
      (Session.start bot driver users identities state).1.loop
      (Session.start bot' driver users identities state').1.loop where
  identities := rfl
  dispatcher := ⟨twins.settings, rfl, rfl⟩
  blind := blind
  fixed := fixed
  answers connections event step told tracks := by
    cases step with
    | posted envelope =>
        exact twins.answers (users 0) envelope (fun _ => Or.inl rfl) (.of_mem_dispatched told rfl)
    | deleted key => exact .nil
    | edited envelope =>
        cases tracks with
        | true =>
            exact twins.answers (users 0) envelope (fun _ => Or.inl rfl) (.of_mem_dispatched told rfl)
        | false => exact .nil

theorem abreast (twins : bot.Twins bot') (driver : ChatDriver δ) (users : UserFinder)
    (identities : IdentityFinder) {state state' : δ} (start : alike state state') :
    Session.Abreast alike (Session.start bot driver users identities state).1
      (Session.start bot' driver users identities state').1
      (Session.start bot driver users identities state).2.1
      (Session.start bot' driver users identities state').2.1 [] where
  running := rfl
  running' := rfl
  scheduler := by
    have tasks := Scheduler.start_bare 0 bot.registry.scheduledActions
    have tasks' := Scheduler.start_bare 0 bot'.registry.scheduledActions
    rw [twins.scheduledActions, ← tasks'] at tasks
    simp only [Session.start, scheduledActions_registryOf]
    exact congrArg (Scheduler.mk 0) tasks
  quiet := Event.quiet_nil
  loops := by
    refine ⟨⟨⟨[], EventLoop.told_initial _ _ _⟩, ReplyCache.tidy_empty _,
      UserCache.faithful_empty _ _⟩, ⟨⟨[], EventLoop.told_initial _ _ _⟩,
        ReplyCache.tidy_empty _, UserCache.faithful_empty _ _⟩, ?_, start⟩
    exact congrArg (fun capacity => ReplyCache.places (.empty capacity)) twins.capacity

end Twins

theorem of_ofConfig {bot : Bot} {config : Config} (valid : ofConfig config = .ok bot) :
    bot.config = config ∧ bot.registry = .empty ∧
      config.responseCapacity = .ok bot.responseCapacity := by
  unfold ofConfig at valid
  cases responses : config.responseCapacity with
  | error error =>
      rw [responses] at valid
      cases valid
  | ok capacity =>
      rw [responses] at valid
      cases users : config.userCapacity with
      | error error =>
          rw [users] at valid
          cases valid
      | ok userCapacity =>
          rw [users] at valid
          cases valid
          exact ⟨rfl, rfl, rfl⟩

/-- Bots that are set up with the same reply settings and the same cache for replies, and are
given plugins with the same actions. -/
theorem twins_registerAll {bot bot' : Bot} {config config' : Config}
    (valid : ofConfig config = .ok bot) (valid' : ofConfig config' = .ok bot')
    (settings : config.replySettings = config'.replySettings)
    (size : config.responseCacheSize = config'.responseCacheSize) {plugins plugins' : List Plugin}
    (same : Plugin.SameActions plugins plugins') :
    (bot.registerAll plugins).1.Twins (bot'.registerAll plugins').1 := by
  obtain ⟨config_eq, empty, capacity⟩ := of_ofConfig valid
  obtain ⟨config_eq', empty', capacity'⟩ := of_ofConfig valid'
  rw [Config.responseCapacity, size, ← Config.responseCapacity, capacity'] at capacity
  obtain ⟨commands, hearActions, scheduledActions, still, kept⟩ := bot.registerAll_actions plugins
  obtain ⟨commands', hearActions', scheduledActions', still', kept'⟩ :=
    bot'.registerAll_actions plugins'
  constructor
  · rw [still, still', config_eq, config_eq', settings]
  · rw [kept, kept', Except.ok.inj capacity]
  · rw [commands, commands', empty, empty']
    exact same.commands
  · rw [hearActions, hearActions', empty, empty']
    exact same.hearActions
  · rw [scheduledActions, scheduledActions', empty, empty']
    exact same.scheduledActions

end Bot

namespace Session

variable {δ : Type}

/-- Two bots are set up with the same reply settings and the same cache for replies, and given
plugins whose actions are the same but for what they say about themselves; their names, their
help and all else may differ.  On a platform that pays no attention to texts, in states that
are alike, and that says the same of a user whenever it is asked, their sessions make the same
calls in the same order, with the same outcomes, and each in the course of the same event.
The texts differ at most in the course of a message that is meant for the bot, asks for help
and matches no command of the plugins: there each bot says what it keeps for the last.  A
message that is not meant for the bot, or that a command of the plugins matches, has the same
answers in both. -/
theorem conservative {driver : ChatDriver δ} {alike : δ → δ → Prop}
    (blind : driver.TextBlind alike) {users : UserFinder} (fixed : users.Fixed)
    (identities : IdentityFinder) {config config' : Config} {bot bot' : Bot}
    (valid : Bot.ofConfig config = .ok bot) (valid' : Bot.ofConfig config' = .ok bot')
    (settings : config.replySettings = config'.replySettings)
    (size : config.responseCacheSize = config'.responseCacheSize) {plugins plugins' : List Plugin}
    (same : Plugin.SameActions plugins plugins') {state state' : δ} (start : alike state state')
    (steps : List (SessionStep δ))
    (adjusts : ∀ change, .adjust change ∈ steps →
      ∀ driver driver', alike driver driver' → alike (change driver) (change driver')) :
    let first := (bot.registerAll plugins).1
    let second := (bot'.registerAll plugins').1
    let (session, begun, _) := Session.start first driver users identities state
    let (session', begun', _) := Session.start second driver users identities state'
    (session.traced begun steps).map Prod.snd = Moment.calls (session.takeAll begun steps).2 ∧
      (session'.traced begun' steps).map Prod.snd =
        Moment.calls (session'.takeAll begun' steps).2 ∧
      List.Forall₂
        (TracedCall.Alike (HelpWording (AsksInVain identities (plugins.flatMap (·.commands)))
          (first.lastResort (users 0)) (second.lastResort (users 0))))
        (session.traced begun steps) (session'.traced begun' steps) ∧
      ∀ envelope : Envelope, (envelope.addressed = true →
          ∃ command ∈ plugins.flatMap (·.commands), command.isMatch envelope = true) →
        ((registryOf first).1.answersFor envelope).value (users 0) =
          ((registryOf second).1.answersFor envelope).value (users 0) := by
  have twins := Bot.twins_registerAll valid valid' settings size same
  have loops := twins.loops blind fixed identities state state'
  have abreast := twins.abreast driver users identities start
  have commands := (bot.registerAll_actions plugins).1
  rw [(Bot.of_ofConfig valid).2.1] at commands
  rw [commands] at loops
  refine ⟨Session.map_snd_traced _ steps _, Session.map_snd_traced _ steps _,
    abreast.traced loops (fun _ => Or.inl rfl) steps adjusts, fun envelope served => ?_⟩
  apply twins.answers_eq
  rw [commands]
  by_contra inVain
  obtain ⟨addressed, -, unmatched⟩ := Envelope.asksInVain_iff.mp (Bool.of_not_eq_false inVain)
  obtain ⟨command, member, matched⟩ := served addressed
  exact Bool.false_ne_true ((unmatched command member).symm.trans matched)

/-- A request for help, an unaddressed message whose reply is refused, a scheduled post, and an
edit of the request, before a bot that lists its actions and one that does not. -/
theorem conservative_help :
    let ping := fun usage hidden => [{ Action.new .command usage with
      hidden := hidden
      predicate := some fun body _ => body = "ping"
      answer := some fun _ => .done (some (.ofText "pong")) }]
    let echo := fun usage => [{ Action.new .hear usage with
      predicate := some fun _ _ => true
      answer := some fun envelope => .done (some (.ofText envelope.text)) }]
    let clock := fun description => [(⟨.every (.ofMilliseconds 1000), description, false,
      [("general", .ofText "tick")], fun _ => 0⟩ : ScheduledAction)]
    let plugins : List Plugin := [⟨"tools", ping "ping" false, echo "anything", clock "ticks"⟩]
    let plugins' : List Plugin :=
      [⟨"one", ping "" true, [], []⟩, ⟨"two", [], echo "all", clock ""⟩]
    let config : Config := { Config.default with name := "ann" }
    let config' : Config := { Config.default with name := "bob", helpEnabled := false }
    let first := (Bot.registerAll ⟨config, .empty, 5000, 0⟩ plugins).1
    let second := (Bot.registerAll ⟨config', .empty, 5000, 0⟩ plugins').1
    let driver := Scripted.driver [] MemoryPlatform.driver
    let users := UserFinder.ofTable []
    let identities : IdentityFinder := fun _ => .ok ⟨"bot", "Bot"⟩
    let state : Scripted MemoryPlatform := ⟨[none, some .notConnected], .empty⟩
    let posted := fun channel text => Event.message (.posted ⟨channel, "eve", text, ⟨"1.0"⟩⟩)
    let edit := Event.message (.changed "Direct" ⟨"2.0"⟩ ⟨"Direct", "eve", "ping", ⟨"1.0"⟩⟩)
    let steps := [.events [.connected, posted "Direct" "Help", posted "general" "help"],
      .advance 1000, .events [edit]]
    let (session, begun, _) := Session.start first driver users identities state
    let (session', begun', _) := Session.start second driver users identities state
    (session.traced begun steps).length = 4 ∧
      first.lastResort (users 0) "eve" ≠ second.lastResort (users 0) "eve" ∧
      List.Forall₂
        (TracedCall.Alike (HelpWording (AsksInVain identities (plugins.flatMap (·.commands)))
          (first.lastResort (users 0)) (second.lastResort (users 0))))
        (session.traced begun steps) (session'.traced begun' steps) := by
  intro ping echo clock plugins plugins' config config' first second driver users identities state
    posted edit steps
  have same : Plugin.SameActions plugins plugins' := ⟨rfl, rfl, rfl⟩
  have blind := Scripted.textBlind [] MemoryPlatform.textBlind
  have alike : Scripted.Alike MemoryPlatform.Alike state state := ⟨rfl, rfl, rfl⟩
  have conserved := conservative blind (fun _ _ => rfl : users.Fixed) identities
    (rfl : Bot.ofConfig config = .ok _) (rfl : Bot.ofConfig config' = .ok _) rfl rfl same alike
    steps (by simp [steps])
  exact ⟨by decide +kernel, by decide +kernel, conserved.2.2.1⟩

end Session

end ChatBot
