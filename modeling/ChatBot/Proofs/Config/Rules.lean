import ChatBot.Bot

/-!
# The rules of a configuration

A configuration is accepted if it keeps six rules.  They are looked at in a fixed order, and the
first one that is broken decides the error, whatever else is wrong; nothing is set up then.
-/

namespace ChatBot

/-- The rules that a configuration has to keep. -/
inductive ConfigRule where
  | name
  | responses
  | users
  | filePath
  | format
  | filters
  deriving DecidableEq, Repr

namespace ConfigRule

/-- The rules in the order in which they are looked at. -/
def inOrder : List ConfigRule :=
  [name, responses, users, filePath, format, filters]

theorem mem_inOrder (rule : ConfigRule) : rule ∈ inOrder := by
  cases rule <;> decide

/-- What a rule asks for: a name that is not blank, sizes that are not negative, a path for a log
file, a format that is there, and no blank module in the table of filters. -/
def Kept (config : Config) : ConfigRule → Prop
  | name => Text.isAllBlank config.name = false
  | responses => 0 ≤ config.responseCacheSize
  | users => 0 ≤ config.userInfoCacheSize
  | filePath => config.logging.output = .file → config.logging.filePath ≠ none
  | format => config.logging.format ≠ .json
  | filters => ∀ entry ∈ config.logging.filters.entries, Text.isAllBlank entry.1 = false

/-- The error that tells of a broken rule.  A blank module is named as it is written. -/
def Blames (config : Config) (error : ConfigError) : ConfigRule → Prop
  | name => error = .violation .blankName
  | responses => error = .invalidCacheSize .responses config.responseCacheSize
  | users => error = .invalidCacheSize .users config.userInfoCacheSize
  | filePath => error = .violation .missingFilePath
  | format => error = .violation .formatUnavailable
  | filters => ∃ entry ∈ config.logging.filters.entries, Text.isAllBlank entry.1 = true ∧
      error = .violation (.blankFilterModule entry.1)

/-- The error with which a rule refuses a configuration, if it does. -/
def refusal? (config : Config) : ConfigRule → Option ConfigError
  | name => if Text.isAllBlank config.name then some (.violation .blankName) else none
  | responses =>
    if 0 ≤ config.responseCacheSize then none
    else some (.invalidCacheSize .responses config.responseCacheSize)
  | users =>
    if 0 ≤ config.userInfoCacheSize then none
    else some (.invalidCacheSize .users config.userInfoCacheSize)
  | filePath =>
    if config.logging.output = .file && config.logging.filePath.isNone then
      some (.violation .missingFilePath)
    else none
  | format =>
    if config.logging.format = .json then some (.violation .formatUnavailable) else none
  | filters =>
    (config.logging.filters.entries.find? fun entry => Text.isAllBlank entry.1).map
      fun entry => .violation (.blankFilterModule entry.1)

variable {config : Config} {rule : ConfigRule}

theorem refusal?_eq_none_iff : rule.refusal? config = none ↔ rule.Kept config := by
  cases rule <;> simp [refusal?, Kept]

instance (config : Config) (rule : ConfigRule) : Decidable (rule.Kept config) :=
  decidable_of_iff (rule.refusal? config = none) refusal?_eq_none_iff

theorem blames_of_refusal? {error : ConfigError} (refused : rule.refusal? config = some error) :
    rule.Blames config error := by
  cases rule with
  | filters =>
      obtain ⟨entry, found, rfl⟩ := Option.map_eq_some_iff.mp refused
      have blank := List.find?_some found
      exact ⟨entry, List.mem_of_find?_eq_some found, blank, rfl⟩
  | name | responses | users | filePath | format =>
      simp only [refusal?, Option.ite_none_left_eq_some, Option.ite_none_right_eq_some,
        Option.some.injEq] at refused
      exact refused.2.symm

end ConfigRule

namespace Config

variable {config : Config}

/-- What comes of rules that are looked at one after another. -/
def checkAll (config : Config) (rules : List ConfigRule) : Except ConfigError Unit :=
  match rules.findSome? (·.refusal? config) with
  | some error => .error error
  | none => .ok ()

theorem checkAll_eq_ok_iff {rules : List ConfigRule} :
    config.checkAll rules = .ok () ↔ ∀ rule ∈ rules, rule.Kept config := by
  simp only [checkAll, ← ConfigRule.refusal?_eq_none_iff]
  rw [← List.findSome?_eq_none_iff]
  split
  next error found => simp [found]
  next none => simp [none]

/-- The first broken rule decides the error. -/
theorem checkAll_of_first_broken {before : List ConfigRule} {rule : ConfigRule}
    (kept : ∀ earlier ∈ before, earlier.Kept config) (broken : ¬ rule.Kept config)
    (after : List ConfigRule) :
    ∃ error, rule.Blames config error ∧
      config.checkAll (before ++ rule :: after) = .error error := by
  have silent : before.findSome? (·.refusal? config) = none := by
    rw [List.findSome?_eq_none_iff]
    intro earlier member
    exact ConfigRule.refusal?_eq_none_iff.mpr (kept earlier member)
  rw [← ConfigRule.refusal?_eq_none_iff] at broken
  obtain ⟨error, refused⟩ := Option.ne_none_iff_exists'.mp broken
  refine ⟨error, ConfigRule.blames_of_refusal? refused, ?_⟩
  simp [checkAll, List.findSome?_append, silent, refused]

/-- Looking at rules in two parts is looking at all of them. -/
theorem checkAll_append (config : Config) (first second : List ConfigRule) :
    config.checkAll (first ++ second) =
      (config.checkAll first >>= fun _ => config.checkAll second) := by
  simp only [checkAll, List.findSome?_append]
  cases first.findSome? (·.refusal? config) <;> rfl

theorem checkBasics_eq (config : Config) :
    config.checkBasics = config.checkAll [.name, .responses, .users] := by
  unfold checkBasics responseCapacity userCapacity cacheSize
  simp only [checkAll, List.findSome?_cons, ConfigRule.refusal?]
  by_cases blank : Text.isAllBlank config.name = true
  · simp only [blank, if_true]
    rfl
  · by_cases responses : 0 ≤ config.responseCacheSize
    · by_cases users : 0 ≤ config.userInfoCacheSize
      · simp only [blank, responses, users, if_true]
        rfl
      · simp only [blank, responses, users, if_true, if_false]
        rfl
    · simp only [blank, responses, if_false]
      rfl

theorem checkLogging_eq (config : Config) :
    checkLogging config.logging = config.checkAll [.filePath, .format, .filters] := by
  unfold checkLogging
  simp only [checkAll, List.findSome?_cons, ConfigRule.refusal?]
  by_cases pathless : (decide (config.logging.output = .file) &&
      config.logging.filePath.isNone) = true
  · simp only [pathless, if_true]
    rfl
  · by_cases json : config.logging.format = .json
    · simp only [pathless, json, if_true]
      rfl
    · cases found : config.logging.filters.entries.find?
          (fun entry => Text.isAllBlank entry.1) with
      | none =>
          simp only [pathless, json, if_false]
          rfl
      | some entry =>
          simp only [pathless, json, if_false]
          rfl

/-- The check looks at the rules in their order. -/
theorem check_eq (config : Config) : config.check.1 = config.checkAll ConfigRule.inOrder := by
  have split : ConfigRule.inOrder =
      [.name, .responses, .users] ++ [.filePath, .format, .filters] :=
    rfl
  rw [split, checkAll_append, ← checkBasics_eq, ← checkLogging_eq, check]
  cases checkBasics config <;> rfl

end Config

/-! ## Setting up -/

namespace LoggingConfig

/-- Logging can be set up unless its file cannot be opened; a set-up that is in place already is
no obstacle. -/
theorem install_fst (config : LoggingConfig) (installed : Bool) (files : FileTree) :
    (config.install installed files).1 =
      if ((LoggingBuilder.ofConfig config).openFile files).2 then .ok ()
      else .error .fileNotOpened := by
  unfold install LoggingBuilder.install
  cases opened : (LoggingBuilder.ofConfig config).openFile files with
  | mk after done =>
      cases done with
      | false => rfl
      | true => cases installed <;> rfl

end LoggingConfig

namespace Bot

variable {config : Config}

/-- The bot that is made of a configuration: it has no plugins, and caches of the sizes that are
set. -/
def sized (config : Config) : Bot :=
  ⟨config, .empty, config.responseCacheSize.toNat, config.userInfoCacheSize.toNat⟩

theorem ofConfig_of_kept (kept : ∀ rule : ConfigRule, rule.Kept config) :
    ofConfig config = .ok (sized config) := by
  have responses : 0 ≤ config.responseCacheSize := kept .responses
  have users : 0 ≤ config.userInfoCacheSize := kept .users
  unfold ofConfig Config.responseCapacity Config.userCapacity Config.cacheSize
  rw [if_pos responses, if_pos users]
  rfl

/-- A configuration that is refused leaves no bot, and no log file either. -/
theorem setUp_of_refused {error : ConfigError} (refused : config.check.1 = .error error)
    (installed : Bool) (files : FileTree) :
    (setUp config installed files).1 = .error (.config error) ∧
      (setUp config installed files).2.1 = files := by
  cases checked : config.check with
  | mk result warnings =>
      rw [checked] at refused
      obtain rfl : result = .error error := refused
      simp [setUp, checked]

/-- A configuration that keeps the rules gives a bot, unless the log file cannot be opened. -/
theorem setUp_of_kept (kept : ∀ rule : ConfigRule, rule.Kept config) (installed : Bool)
    (files : FileTree) :
    (setUp config installed files).1 =
      if ((LoggingBuilder.ofConfig config.logging).openFile files).2 then .ok (sized config)
      else .error (.logging LoggingError.fileNotOpened.message) := by
  have accepted : config.check.1 = .ok () := by
    rw [Config.check_eq, Config.checkAll_eq_ok_iff]
    exact fun rule _ => kept rule
  have made := config.logging.install_fst installed files
  cases checked : config.check with
  | mk result warnings =>
      rw [checked] at accepted
      obtain rfl : result = .ok () := accepted
      cases set : config.logging.install installed files with
      | mk outcome rest =>
          rw [set] at made
          subst made
          simp only [setUp, checked, set, ofConfig_of_kept kept]
          cases ((LoggingBuilder.ofConfig config.logging).openFile files).2 <;> rfl

theorem setUp_of_first_broken {before after : List ConfigRule} {rule : ConfigRule}
    (split : ConfigRule.inOrder = before ++ rule :: after)
    (kept : ∀ earlier ∈ before, earlier.Kept config) (broken : ¬ rule.Kept config)
    (installed : Bool) (files : FileTree) :
    ∃ error, rule.Blames config error ∧
      (setUp config installed files).1 = .error (.config error) ∧
      (setUp config installed files).2.1 = files := by
  obtain ⟨error, blamed, checked⟩ := Config.checkAll_of_first_broken kept broken after
  rw [← split, ← Config.check_eq] at checked
  exact ⟨error, blamed, setUp_of_refused checked installed files⟩

/-- A configuration keeps the rules exactly if it is not refused. -/
theorem kept_iff_setUp_ne (installed : Bool) (files : FileTree) :
    (∀ rule : ConfigRule, rule.Kept config) ↔
      ∀ error, (setUp config installed files).1 ≠ .error (.config error) := by
  constructor
  · intro kept error
    rw [setUp_of_kept kept]
    split <;> simp
  · intro unrefused rule
    cases checked : config.check.1 with
    | error error => exact absurd (setUp_of_refused checked installed files).1 (unrefused error)
    | ok _ =>
        rw [Config.check_eq, Config.checkAll_eq_ok_iff] at checked
        exact checked rule rule.mem_inOrder

/-- The bot that is set up is the one that the configuration describes. -/
theorem eq_sized_of_setUp {bot : Bot} {installed : Bool} {files : FileTree}
    (made : (setUp config installed files).1 = .ok bot) :
    (∀ rule : ConfigRule, rule.Kept config) ∧ bot = sized config := by
  have kept : ∀ rule : ConfigRule, rule.Kept config := by
    rw [kept_iff_setUp_ne installed files, made]
    simp
  refine ⟨kept, ?_⟩
  rw [setUp_of_kept kept] at made
  split at made
  · exact (Except.ok.inj made).symm
  · cases made

end Bot

end ChatBot
