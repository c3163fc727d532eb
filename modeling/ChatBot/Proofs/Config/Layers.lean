import ChatBot.Config.Loader
import ChatBot.Proofs.Config.Filters
import ChatBot.Proofs.Config.Variables

/-!
# The layers of a configuration

Which files a loader reads, and what the layers come to.  Of the folders that are searched, those
up to the first with a common file count: the files for the profile of all of them, and that
common file over them.  The layers lie over one another in a fixed order, and each of them names
every setting once; so a setting has the value that the highest layer gives to it.
-/

namespace ChatBot

/-! ## Configurations as layers -/

theorem LoggingConfig.namesOnce_toJson (logging : LoggingConfig) : logging.toJson.NamesOnce := by
  have filters : (Json.obj (logging.filters.entries.map fun entry =>
      (entry.1, entry.2.toJson))).NamesOnce := by
    refine ⟨?_, Json.haveNamesOnce_iff.mpr fun member among => ?_⟩
    · simpa [Function.comp_def] using logging.filters.ascending.nodup
    · obtain ⟨entry, -, rfl⟩ := List.mem_map.mp among
      trivial
  have spans : logging.spanEvents.toJson.NamesOnce := ⟨by simp, trivial, trivial, trivial⟩
  cases path : logging.filePath with
  | none =>
      rw [toJson, path]
      exact ⟨by simp, trivial, trivial, trivial, trivial, spans, trivial, trivial, filters, trivial⟩
  | some path' =>
      rw [toJson, path]
      exact ⟨by simp, trivial, trivial, trivial, trivial, trivial, spans, trivial, trivial, filters,
        trivial⟩

theorem Config.namesOnce_toJson (config : Config) : config.toJson.NamesOnce :=
  ⟨by simp, trivial, trivial, trivial, trivial, trivial, trivial, config.logging.namesOnce_toJson,
    trivial⟩

namespace ConfigLoader

theorem namesOnce_fileLayer {files : FileView} {path : FilePath} {tree : Json}
    (parsed : fileLayer files path = some tree) : tree.NamesOnce := by
  unfold fileLayer at parsed
  split at parsed
  · obtain ⟨document, read, unwrapped⟩ := Option.bind_eq_some_iff.mp parsed
    exact Wrapped.namesOnce_settings? (Toml.namesOnce_read read) unwrapped
  · obtain rfl := Option.some.inj parsed
    exact Json.namesOnce_obj_nil
  · obtain rfl := Option.some.inj parsed
    exact Json.namesOnce_obj_nil

/-! ## The files that are read -/

/-- Whether a folder has a configuration file that is not for one profile only. -/
def hasCommonFile (files : FileView) (folder : FilePath) : Bool :=
  (files (commonFile folder)).isSome

/-- The folders up to and including the first with a common file. -/
def searched (files : FileView) (folders : List FilePath) : List FilePath :=
  folders.takeWhile (!hasCommonFile files ·) ++ (folders.find? (hasCommonFile files)).toList

/-- The files that are found in folders: those for the profile in the folders that are searched,
and the first common file. -/
def foundFiles (files : FileView) (profile : Profile) (folders : List FilePath) :
    List FilePath :=
  ((searched files folders).map (profileFile profile)).filter (fun path => (files path).isSome) ++
    ((folders.find? (hasCommonFile files)).map commonFile).toList

/-- The files that a loader reads, the lowest layer first. -/
def chosenFiles (loader : ConfigLoader) (surroundings : Surroundings) : List FilePath :=
  match loader.file with
  | some path => [path]
  | none => foundFiles surroundings.files loader.profile (loader.folders surroundings)

/-- The paths at which a loader looks for files. -/
def lookedFor (loader : ConfigLoader) (surroundings : Surroundings) : List FilePath :=
  match loader.file with
  | some path => [path]
  | none => (searched surroundings.files (loader.folders surroundings)).flatMap fun folder =>
      [profileFile loader.profile folder, commonFile folder]

section Folders

variable {files : FileView} {folder : FilePath}

theorem searched_cons_of_common (common : hasCommonFile files folder = true)
    (rest : List FilePath) : searched files (folder :: rest) = [folder] := by
  simp [searched, common]

theorem searched_cons (missing : hasCommonFile files folder = false) (rest : List FilePath) :
    searched files (folder :: rest) = folder :: searched files rest := by
  simp [searched, missing]

/-- The layers of folders are those of the files that are found in them. -/
theorem folderLayers_fst (files : FileView) (profile : Profile) (folders : List FilePath) :
    (folderLayers files profile folders).1 =
      (foundFiles files profile folders).map (fileLayer files) := by
  induction folders with
  | nil => rfl
  | cons folder rest ih =>
      cases common : hasCommonFile files folder with
      | true =>
          have found : (files (commonFile folder)).isSome = true := common
          rw [folderLayers, if_pos found, foundFiles, searched_cons_of_common common,
            List.find?_cons_of_pos common]
          dsimp only
          split
          · next special => simp [special]
          · next special => simp [special]
      | false =>
          have missing : ¬(files (commonFile folder)).isSome = true := by
            rw [← hasCommonFile, common]
            exact Bool.false_ne_true
          rw [folderLayers, if_neg missing, foundFiles, searched_cons common,
            List.find?_cons_of_neg (by rw [common]; exact Bool.false_ne_true)]
          rw [foundFiles] at ih
          dsimp only
          split
          · next special => simp [special, ih]
          · next special => simp [special, ih]

/-- Only the files that are looked for matter to the layers of folders. -/
theorem folderLayers_congr {files' : FileView} (profile : Profile) {folders : List FilePath}
    (agree : ∀ folder ∈ searched files folders,
      files' (profileFile profile folder) = files (profileFile profile folder) ∧
        files' (commonFile folder) = files (commonFile folder)) :
    folderLayers files' profile folders = folderLayers files profile folders := by
  induction folders with
  | nil => rfl
  | cons folder rest ih =>
      cases common : hasCommonFile files folder with
      | true =>
          have found : (files (commonFile folder)).isSome = true := common
          rw [searched_cons_of_common common] at agree
          obtain ⟨special_eq, common_eq⟩ := agree folder (List.mem_singleton_self folder)
          simp only [folderLayers, fileLayer, special_eq, common_eq, if_pos found]
      | false =>
          rw [searched_cons common] at agree
          obtain ⟨⟨special_eq, common_eq⟩, others⟩ := List.forall_mem_cons.mp agree
          simp only [folderLayers, fileLayer, special_eq, common_eq, ih others]

end Folders

/-! ## Loading -/

/-- The configuration that settings make up. -/
def extracted (settings : Json) : Except ConfigError Config :=
  match Config.ofSettings? settings with
  | none => .error (.malformed "a setting has a value of another kind")
  | some config => .ok config

/-- The layers of a loader whose files are read as some trees, the lowest first. -/
def settingsLayers (loader : ConfigLoader) (surroundings : Surroundings) (trees : List Json) :
    List Json :=
  (Config.default :: loader.merged).map Config.toJson ++ trees ++
    if loader.usesVariables then [Variables.settings surroundings.environment] else []

theorem ofLayers_map_some (settings : List Json) :
    ofLayers (settings.map some) = extracted (Json.overlayAll settings) := by
  have all : (settings.map some).mapM id = some settings := by
    induction settings with
    | nil => rfl
    | cons first rest ih => simp [List.mapM_cons, ih]
  rw [ofLayers, all]
  rfl

variable {loader : ConfigLoader} {surroundings : Surroundings} {trees : List Json}

theorem load_fst (loader : ConfigLoader) (surroundings : Surroundings) :
    (loader.load surroundings).1 = (loader.layers surroundings).1.bind ofLayers := by
  unfold load
  dsimp only
  split <;> next loaded => exact loaded.symm

theorem fileLayers_fst
    (given : ∀ path, loader.file = some path →
      (surroundings.files path).isSome = true ∧ path.suffix = "toml") :
    (loader.fileLayers surroundings).1 =
      .ok ((loader.chosenFiles surroundings).map (fileLayer surroundings.files)) := by
  cases file : loader.file with
  | some path =>
      obtain ⟨there, suffix⟩ := given path file
      have present : ¬(surroundings.files path).isNone = true := by
        rw [Option.isNone_iff_eq_none]
        exact Option.isSome_iff_ne_none.mp there
      simp only [fileLayers, chosenFiles, file, givenFileLayers, if_neg present, if_pos suffix]
      rfl
  | none =>
      simp only [fileLayers, chosenFiles, file]
      exact congrArg Except.ok (folderLayers_fst _ _ _)

theorem layers_fst
    (given : ∀ path, loader.file = some path →
      (surroundings.files path).isSome = true ∧ path.suffix = "toml")
    (parsed : (loader.chosenFiles surroundings).map (fileLayer surroundings.files) =
      trees.map some) :
    (loader.layers surroundings).1 =
      .ok ((loader.settingsLayers surroundings trees).map some) := by
  have files := fileLayers_fst given
  rw [parsed] at files
  unfold layers
  split
  · next failed =>
      rw [failed] at files
      cases files
  · next found _ read =>
      rw [read] at files
      obtain rfl := Except.ok.inj files
      dsimp only
      rw [settingsLayers, List.map_append, List.map_append, variableLayers, baseLayers]
      split <;> simp [Function.comp_def]

theorem namesOnce_settingsLayers
    (parsed : (loader.chosenFiles surroundings).map (fileLayer surroundings.files) =
      trees.map some) :
    ∀ layer ∈ loader.settingsLayers surroundings trees, layer.NamesOnce := by
  intro layer among
  rw [settingsLayers, List.mem_append, List.mem_append] at among
  rcases among with (configured | filed) | exported
  · obtain ⟨config, -, rfl⟩ := List.mem_map.mp configured
    exact config.namesOnce_toJson
  · have found := List.mem_map_of_mem (f := some) filed
    rw [← parsed] at found
    obtain ⟨path, -, parsed⟩ := List.mem_map.mp found
    exact namesOnce_fileLayer parsed
  · split at exported
    · obtain rfl := List.mem_singleton.mp exported
      exact Variables.namesOnce_settings _
    · cases exported

theorem load_congr {files : FileView}
    (agree : ∀ path ∈ loader.lookedFor surroundings, files path = surroundings.files path) :
    loader.load { surroundings with files } = loader.load surroundings := by
  have same : loader.fileLayers { surroundings with files } = loader.fileLayers surroundings := by
    unfold lookedFor at agree
    unfold fileLayers
    split
    · next path file =>
        rw [file] at agree
        have same := agree path (List.mem_singleton_self path)
        simp only [givenFileLayers, fileLayer, same]
    · next file =>
        rw [file] at agree
        have everywhere : folderLayers files loader.profile (loader.folders surroundings) =
            folderLayers surroundings.files loader.profile (loader.folders surroundings) :=
          folderLayers_congr loader.profile fun folder among =>
            ⟨agree _ (List.mem_flatMap.mpr ⟨folder, among, by simp⟩),
              agree _ (List.mem_flatMap.mpr ⟨folder, among, by simp⟩)⟩
        exact congrArg (fun layers => (Except.ok layers.1, layers.2)) everywhere
  simp only [load, layers, same]
  rfl

/-- The files that a loader chooses can be read as trees; a file that is given exists and is named
as one that can be read.  The configuration that is loaded is then the one that all layers make up
together, the lowest first: the settings when nothing sets them, those that the program has made,
the trees, and the variables.  Every setting has the value of the highest layer that sets it.
Files that are not looked for make no difference: where no file is given, those are all files but
the two of each folder up to the first with a common file.  Variables that are named after nested
settings set what they lead to, the one for the profile and those whose names begin otherwise set
nothing, and a later one goes over an earlier one. -/
theorem load_layered (loader : ConfigLoader) (surroundings : Surroundings) {trees : List Json}
    (given : ∀ path, loader.file = some path →
      (surroundings.files path).isSome = true ∧ path.suffix = "toml")
    (parsed : (loader.chosenFiles surroundings).map (fileLayer surroundings.files) =
      trees.map some) :
    let layers := loader.settingsLayers surroundings trees
    (loader.load surroundings).1 = extracted (Json.overlayAll layers) ∧
      (∀ path, (Json.overlayAll layers).plainAt? path =
        (layers.reverse.find? (·.sets path)).bind (·.plainAt? path)) ∧
      (∀ files : FileView,
        (∀ path ∈ loader.lookedFor surroundings, files path = surroundings.files path) →
          loader.load { surroundings with files } = loader.load surroundings) ∧
      Variables.settings surroundings.environment = Json.overlayAll
        (surroundings.environment.filterMap fun entry => Variables.tree? entry.1 entry.2) ∧
      (∀ parts text, parts ≠ [] → (∀ part ∈ parts, Variables.IsPart part) →
        Variables.tree? (Variables.nameOf parts) text =
          if Variables.lower (['.'].intercalate parts) = "profile".toList then none
          else some (Variables.nest (parts.map fun part => String.ofList (Variables.lower part))
            (Variables.value text))) ∧
      ∀ name text,
        Variables.lower ((Text.strip name.toList).take Variables.nameStart.length) ≠
            Variables.lower Variables.nameStart.toList →
          Variables.tree? name text = none := by
  intro layers
  have loaded : (loader.load surroundings).1 = extracted (Json.overlayAll layers) := by
    rw [load_fst, layers_fst given parsed]
    exact ofLayers_map_some layers
  exact ⟨loaded, Json.plainAt?_overlayAll (namesOnce_settingsLayers parsed),
    fun files agree => load_congr agree, Variables.settings_eq _,
    fun parts text some_part valid => Variables.tree?_nameOf valid some_part text,
    fun name text other => Variables.tree?_of_other other text⟩

/-- Of three folders the second has a common file; the first two have files for the profile, and
what the third has is not read.  A variable goes over all of them, and what the program has set
below. -/
theorem load_layered_folders :
    let texts := [
      ("first/perch.production.toml", "name = \"special\"\n[logging]\nlevel = \"warn\""),
      ("second/perch.production.toml", "threaded_replies = true\nresponse_cache_size = 8"),
      ("second/perch.toml", "response_cache_size = 7\n[logging]\nformat = \"full\""),
      ("third/perch.toml", "name = \"late\"")]
    let surroundings : Surroundings :=
      { files := (FileTree.ofFiles texts).find?
        workingFolder := ⟨"."⟩
        userFolder := none
        environment := [("PERCH_LOGGING__FORMAT", "pretty"), ("PERCH_PROFILE", "dev")] }
    let merged : Config := { Config.default with responseCacheSize := 6, userInfoCacheSize := 5 }
    let loader : ConfigLoader :=
      { merged := [merged], profile := .production, usesVariables := true, file := none
        searchFolders := [⟨"first"⟩, ⟨"second"⟩, ⟨"third"⟩] }
    let logging : LoggingConfig := { LoggingConfig.default with level := .warn, format := .pretty }
    let expected : Config :=
      { merged with name := "special", responseCacheSize := 7, threadedReplies := true, logging }
    (loader.chosenFiles surroundings).map (·.text) =
        ["first/perch.production.toml", "second/perch.production.toml", "second/perch.toml"] ∧
      ∃ trees, (loader.load surroundings).1 =
          extracted (Json.overlayAll (loader.settingsLayers surroundings trees)) ∧
        (loader.load surroundings).1.toOption = some expected := by
  intro texts surroundings merged loader logging expected
  have readable : ∀ path ∈ loader.chosenFiles surroundings,
      (fileLayer surroundings.files path).isSome = true := by decide +kernel
  have parsed : (loader.chosenFiles surroundings).map (fileLayer surroundings.files) =
      ((loader.chosenFiles surroundings).map fun path =>
        (fileLayer surroundings.files path).getD .null).map some := by
    rw [List.map_map]
    refine List.map_congr_left fun path among => ?_
    obtain ⟨tree, found⟩ := Option.isSome_iff_exists.mp (readable path among)
    simp [found]
  have layered := load_layered loader surroundings (fun _ file => nomatch file) parsed
  exact ⟨by decide +kernel, _, layered.1, by decide +kernel⟩

end ConfigLoader

end ChatBot
