import ChatBot.Proofs.Config.Layers
import ChatBot.Proofs.Config.Reading

/-!
# Configurations that a program merges

A loader that finds no file and does not look at the variables has only the configurations that
the program has merged, one over the other.  What is loaded is the last of them, but a filter or a
log file that it does not have is that of the last one before it that has.
-/

namespace ChatBot

namespace Config

/-- Configurations over one another, the first over the one that is given. -/
def overAll (base : Config) (configs : List Config) : Config :=
  configs.foldl (fun below upper => upper.atop below) base

/-- A part that is taken from below where the upper configuration has none is that of the last
configuration that has it. -/
theorem part_overAll {α : Type} (part : Config → Option α)
    (falls : ∀ upper below : Config, part (upper.atop below) = (part upper).or (part below))
    (base : Config) (configs : List Config) :
    part (base.overAll configs) = (configs.reverse.findSome? part).or (part base) := by
  induction configs generalizing base with
  | nil => rfl
  | cons config rest ih =>
      rw [overAll, List.foldl_cons, ← overAll, ih, falls, List.reverse_cons, List.findSome?_append,
        List.findSome?_singleton, Option.or_assoc]

theorem filePath_overAll (configs : List Config) :
    (default.overAll configs).logging.filePath =
      configs.reverse.findSome? (·.logging.filePath) := by
  rw [part_overAll (·.logging.filePath) fun _ _ => rfl]
  exact Option.or_none

theorem lookup?_filters_overAll (configs : List Config) (module : String) :
    (default.overAll configs).logging.filters.lookup? module =
      configs.reverse.findSome? (·.logging.filters.lookup? module) := by
  rw [part_overAll (·.logging.filters.lookup? module)
    (fun upper below => Table.lookup?_atop _ _ module)]
  exact Option.or_none

theorem overAll_concat (base : Config) (earlier : List Config) (last : Config) :
    base.overAll (earlier ++ [last]) = last.atop (base.overAll earlier) :=
  List.foldl_concat _ _ _ _

/-- A configuration over itself, and over whatever is below, makes no difference. -/
theorem atop_atop (config below : Config) :
    config.atop (config.atop below) = config.atop below := by
  have paths : config.logging.filePath.or (config.logging.filePath.or below.logging.filePath) =
      config.logging.filePath.or below.logging.filePath := by
    rw [← Option.or_assoc, Option.or_self]
  have filters : config.logging.filters.atop (config.logging.filters.atop below.logging.filters) =
      config.logging.filters.atop below.logging.filters := by
    refine Table.eq_of_lookup? fun module => ?_
    rw [Table.lookup?_atop, Table.lookup?_atop, ← Option.or_assoc, Option.or_self]
  simp only [atop, LoggingConfig.atop, paths, filters]

theorem overAll_repeated (base : Config) (earlier : List Config) (config : Config)
    (later : List Config) :
    base.overAll (earlier ++ config :: config :: later) =
      base.overAll (earlier ++ config :: later) := by
  simp only [overAll, List.foldl_append, List.foldl_cons, atop_atop]

theorem atop_default (config : Config) : config.atop default = config := by
  have filters : config.logging.filters.atop LoggingConfig.default.filters =
      config.logging.filters := by
    refine Table.eq_of_lookup? fun module => ?_
    rw [Table.lookup?_atop]
    exact Option.or_none
  have paths : config.logging.filePath.or LoggingConfig.default.filePath =
      config.logging.filePath := Option.or_none
  simp only [atop, LoggingConfig.atop, default, paths, filters]

/-- The sizes are those of the last configuration. -/
theorem sizesFit_overAll {base : Config} (base_fits : base.SizesFit) {configs : List Config}
    (fit : ∀ config ∈ configs, config.SizesFit) : (base.overAll configs).SizesFit := by
  induction configs generalizing base with
  | nil => exact base_fits
  | cons config rest ih =>
      obtain ⟨config_fits, rest_fit⟩ := List.forall_mem_cons.mp fit
      exact @ih (config.atop base) config_fits rest_fit

theorem toldBy_overAll (base : Config) (configs : List Config) :
    (base.overAll configs).ToldBy (Json.overlayAll ((base :: configs).map toJson)) := by
  suffices growing : ∀ {base : Config} {json : Json}, base.ToldBy json →
      (base.overAll configs).ToldBy ((configs.map toJson).foldl Json.overlay json) from
    growing base.toldBy_toJson.overlay_nil
  induction configs with
  | nil => exact fun told => told
  | cons config rest ih => exact fun told => ih (told.overlay config.toldBy_toJson)

/-- What layers of configurations are read as. -/
theorem ofSettings?_overlayAll {base : Config} {configs : List Config}
    (base_fits : base.SizesFit) (fit : ∀ config ∈ configs, config.SizesFit) :
    ofSettings? (Json.overlayAll ((base :: configs).map toJson)) = some (base.overAll configs) :=
  decode?_of_toldBy (fun has => has.leadingFields?_eq) (toldBy_overAll base configs)
    (sizesFit_overAll base_fits fit)

end Config

namespace ConfigLoader

variable {loader : ConfigLoader} {surroundings : Surroundings}

theorem foldl_merge (loader : ConfigLoader) (configs : List Config) :
    configs.foldl merge loader = { loader with merged := loader.merged ++ configs } := by
  induction configs generalizing loader with
  | nil => simp
  | cons config rest ih => simp [ih, merge]

/-- In folders without files there is nothing, and that is reported. -/
theorem folderLayers_of_missing {files : FileView} {profile : Profile} {folders : List FilePath}
    (missing : ∀ folder ∈ folders, files (profileFile profile folder) = none ∧
      files (commonFile folder) = none) : folderLayers files profile folders = ([], [.noFile]) := by
  induction folders with
  | nil => rfl
  | cons folder rest ih =>
      obtain ⟨⟨special, common⟩, others⟩ := List.forall_mem_cons.mp missing
      simp [folderLayers, special, common, ih others]

/-- Without files and variables only what is merged is loaded. -/
theorem load_of_missing {configs : List Config} (unmerged : loader.merged = [])
    (unnamed : loader.file = none) (alone : loader.usesVariables = false)
    (missing : ∀ path ∈ loader.candidates surroundings, surroundings.files path = none)
    (fit : ∀ config ∈ configs, config.SizesFit) :
    let config := Config.default.overAll configs
    (configs.foldl merge loader).load surroundings =
      (.ok config, [LoadReport.noFile, .loaded loader.profile config].map LoadReport.event) := by
  intro config
  have nowhere : folderLayers surroundings.files loader.profile (loader.folders surroundings) =
      ([], [.noFile]) := by
    refine folderLayers_of_missing fun folder among => ?_
    rw [candidates, unnamed] at missing
    exact ⟨missing _ (List.mem_flatMap.mpr ⟨folder, among, by simp⟩),
      missing _ (List.mem_flatMap.mpr ⟨folder, among, by simp⟩)⟩
  have files : (configs.foldl merge loader).fileLayers surroundings = (.ok [], [.noFile]) := by
    rw [foldl_merge]
    simp only [fileLayers, unnamed]
    exact congrArg (fun layers => (Except.ok layers.1, layers.2)) nowhere
  have layers : (configs.foldl merge loader).layers surroundings =
      (.ok (((Config.default :: configs).map Config.toJson).map some), [.noFile]) := by
    rw [layers, files]
    simp [variableLayers, baseLayers, foldl_merge, unmerged, alone, Function.comp_def]
  have loaded : ofLayers (((Config.default :: configs).map Config.toJson).map some) =
      .ok config := by
    rw [ofLayers_map_some, extracted, Config.ofSettings?_overlayAll (by decide) fit]
  unfold load
  rw [layers]
  simp only [Except.bind, loaded, foldl_merge]
  rfl

/-- Configurations are merged into a loader that finds no file and does not look at the variables.
The loader then loads the last of them as it is, except that a module has the level that the last
configuration with a level for it says, and that the log file is that of the last configuration
with one.  So a configuration that is merged alone is loaded as it is, and merging one twice in a
row is merging it once. -/
theorem load_merged (loader : ConfigLoader) (surroundings : Surroundings)
    (unmerged : loader.merged = []) (unnamed : loader.file = none)
    (alone : loader.usesVariables = false)
    (missing : ∀ path ∈ loader.candidates surroundings, surroundings.files path = none) :
    (∀ earlier last, (∀ config ∈ earlier ++ [last], config.SizesFit) → ∃ config : Config,
      ((earlier ++ [last]).foldl merge loader).load surroundings =
        (.ok config, [LoadReport.noFile, .loaded loader.profile config].map LoadReport.event) ∧
      config = { last with
        logging := { last.logging with
          filePath := config.logging.filePath
          filters := config.logging.filters } } ∧
      config.logging.filePath = (earlier ++ [last]).reverse.findSome? (·.logging.filePath) ∧
      ∀ module, config.logging.filters.lookup? module =
        (earlier ++ [last]).reverse.findSome? (·.logging.filters.lookup? module)) ∧
    (∀ config : Config, config.SizesFit →
      ((loader.merge config).load surroundings).1 = .ok config) ∧
    ∀ earlier (config : Config) later,
      (∀ merged ∈ earlier ++ config :: later, merged.SizesFit) →
        ((earlier ++ config :: config :: later).foldl merge loader).load surroundings =
          ((earlier ++ config :: later).foldl merge loader).load surroundings := by
  have loads (configs : List Config) (fit : ∀ config ∈ configs, config.SizesFit) :=
    load_of_missing unmerged unnamed alone missing fit
  refine ⟨fun earlier last fit => ⟨Config.default.overAll (earlier ++ [last]), loads _ fit, ?_,
    Config.filePath_overAll _, Config.lookup?_filters_overAll _⟩, fun config fits => ?_,
    fun earlier config later fit => ?_⟩
  · rw [Config.overAll_concat]
    rfl
  · have single := loads [config] (by simpa using fits)
    rw [Config.overAll, List.foldl_cons, List.foldl_nil, Config.atop_default] at single
    exact congrArg Prod.fst single
  · have repeated_fit : ∀ merged ∈ earlier ++ config :: config :: later, merged.SizesFit := by
      intro merged among
      refine fit merged ?_
      simpa [or_assoc] using among
    rw [loads _ repeated_fit, loads _ fit, Config.overAll_repeated]

/-- Of three configurations the last has neither filters nor a log file: it has the filters of both
others, and the log file of the first. -/
theorem load_merged_three :
    let surroundings : Surroundings :=
      { files := fun _ => none, workingFolder := ⟨"."⟩, userFolder := none, environment := [] }
    let loader : ConfigLoader :=
      { merged := [], profile := .development, searchFolders := [⟨"empty"⟩], usesVariables := false
        file := none }
    let first : Config := { Config.default with
      logging := { LoggingConfig.default with
        filePath := some "first.log"
        filters := .ofList [("reader", .warn), ("writer", .debug)] } }
    let second : Config := { Config.default with
      name := "second"
      logging := { LoggingConfig.default with
        filters := .ofList [("reader", .error), ("cache", .trace)] } }
    let last : Config := { Config.default with responseCacheSize := 12 }
    ∃ config : Config,
      (([first, second] ++ [last]).foldl merge loader).load surroundings =
        (.ok config, [LoadReport.noFile, .loaded .development config].map LoadReport.event) ∧
      config = { last with
        logging := { LoggingConfig.default with
          filePath := some "first.log"
          filters := config.logging.filters } } ∧
      ["cache", "reader", "writer", "other"].map config.logging.filters.lookup? =
        [some .trace, some .error, some .debug, none] := by
  intro surroundings loader first second last
  obtain ⟨merged, -, -⟩ := load_merged loader surroundings rfl rfl rfl (fun _ _ => rfl)
  obtain ⟨config, loaded, same, path, levels⟩ := merged [first, second] last (by decide)
  have first_log : config.logging.filePath = some "first.log" := path
  rw [first_log] at same
  refine ⟨config, loaded, same, ?_⟩
  simp only [List.map_cons, List.map_nil, levels]
  decide

end ConfigLoader

end ChatBot
