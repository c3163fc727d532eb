import ChatBot.Config.Error
import ChatBot.Config.Profile
import ChatBot.Config.Variables
import ChatBot.Config.Wire
import ChatBot.Config.Wrapped
import ChatBot.Files
import ChatBot.Toml.Document

/-!
# Loading a configuration

A configuration is put together from layers, each over the ones before it: the
settings when nothing sets them, settings made by the program, configuration
files, and environment variables.  Either one given file is read, or folders are
searched up to the first with a configuration file; a file for the profile lies
below the common one of its folder.
-/

namespace ChatBot

/-- What surrounds a bot: the files, the folder at hand, the folder for the
configuration of the user, and the environment variables. -/
structure Surroundings where
  files : FileView
  workingFolder : FilePath
  userFolder : Option FilePath
  environment : List (String × String)

namespace Surroundings

/-- The folder for the configuration of the user that variables name. -/
def userFolderOf (environment : List (String × String)) : Option FilePath :=
  match environment.lookup "XDG_CONFIG_HOME" with
  | some text => if (FilePath.mk text).isAbsolute then some ⟨text⟩ else belowHome
  | none => belowHome
where
  belowHome : Option FilePath :=
    ((environment.lookup "HOME").filter (· ≠ "")).map fun home =>
      (FilePath.mk home).join ".config"

/-- The profile that is chosen by a variable. -/
def profile (surroundings : Surroundings) : Profile :=
  match surroundings.environment.lookup Variables.profileName with
  | some name => .ofName name
  | none => .default

/-- The folders that are searched when none are given. -/
def usualFolders (surroundings : Surroundings) : List FilePath :=
  surroundings.workingFolder :: (surroundings.userFolder.map (·.join "perch")).toList

end Surroundings

/-- How a configuration is to be loaded. -/
structure ConfigLoader where
  merged : List Config
  profile : Profile
  searchFolders : List FilePath
  usesVariables : Bool
  file : Option FilePath

/-- The reports on loading a configuration. -/
inductive LoadReport where
  | profileFile (path : FilePath)
  | file (path : FilePath)
  | noFile
  | environment
  | loaded (profile : Profile) (config : Config)

namespace LoadReport

def event : LoadReport → LogEvent
  | profileFile path => ⟨.debug, "Loading profile-specific config", [("path", path.text)]⟩
  | file path => ⟨.info, "Loading configuration file", [("path", path.text)]⟩
  | noFile => ⟨.debug, "No configuration file found, using defaults", []⟩
  | environment =>
    ⟨.trace, "Loading environment variables", [("prefix", Variables.nameStart)]⟩
  | loaded profile config =>
    ⟨.debug, "Configuration loaded", [
      ("profile", profile.name),
      ("response_cache_size", toString config.responseCacheSize),
      ("user_info_cache_size", toString config.userInfoCacheSize)]⟩

end LoadReport

/-- Settings of one origin; nothing when their text is not well formed. -/
abbrev Layer := Option Json

namespace ConfigLoader

/-- A loader that searches the usual folders and reads the variables. -/
def new (surroundings : Surroundings) : ConfigLoader where
  merged := []
  profile := surroundings.profile
  searchFolders := []
  usesVariables := true
  file := none

/-- Lays a configuration over those that the program has made before. -/
def merge (loader : ConfigLoader) (config : Config) : ConfigLoader :=
  { loader with merged := loader.merged ++ [config] }

/-- The layer of a file.  A folder in its place has no settings. -/
def fileLayer (files : FileView) (path : FilePath) : Layer :=
  match files path with
  | some (.file text) => (Toml.read text).bind Wrapped.settings?
  | some .folder | none => some (.obj [])

/-- The configuration file of a profile in a folder. -/
def profileFile (profile : Profile) (folder : FilePath) : FilePath :=
  folder.join ("perch." ++ profile.name ++ ".toml")

def commonFile (folder : FilePath) : FilePath :=
  folder.join "perch.toml"

/-- The layers of the folders that are searched, and the reports on them. -/
def folderLayers (files : FileView) (profile : Profile) :
    List FilePath → List Layer × List LoadReport
  | [] => ([], [.noFile])
  | folder :: rest =>
    let special := profileFile profile folder
    let common := commonFile folder
    let (layers, reports) : List Layer × List LoadReport :=
      if (files common).isSome then ([fileLayer files common], [.file common])
      else folderLayers files profile rest
    if (files special).isSome then
      (fileLayer files special :: layers, .profileFile special :: reports)
    else (layers, reports)

/-- The layer of the given file, and the reports on it. -/
def givenFileLayers (files : FileView) (path : FilePath) :
    Except ConfigError (List Layer) × List LoadReport :=
  if (files path).isNone then (.error (.fileNotFound path.text), [])
  else if path.suffix = "toml" then (.ok [fileLayer files path], [.file path])
  else (.error (.unsupportedFormat path.suffix), [.file path])

def folders (loader : ConfigLoader) (surroundings : Surroundings) : List FilePath :=
  if loader.searchFolders.isEmpty then surroundings.usualFolders else loader.searchFolders

/-- The paths at which files may be looked for. -/
def candidates (loader : ConfigLoader) (surroundings : Surroundings) : List FilePath :=
  match loader.file with
  | some path => [path]
  | none => (loader.folders surroundings).flatMap fun folder =>
      [profileFile loader.profile folder, commonFile folder]

/-- The layers of files, and the reports on them. -/
def fileLayers (loader : ConfigLoader) (surroundings : Surroundings) :
    Except ConfigError (List Layer) × List LoadReport :=
  match loader.file with
  | some path => givenFileLayers surroundings.files path
  | none =>
    let (layers, reports) :=
      folderLayers surroundings.files loader.profile (loader.folders surroundings)
    (.ok layers, reports)

/-- The layer of the variables, if they are used. -/
def variableLayers (loader : ConfigLoader) (surroundings : Surroundings) : List Layer :=
  if loader.usesVariables then [some (Variables.settings surroundings.environment)] else []

def baseLayers (loader : ConfigLoader) : List Layer :=
  (Config.default :: loader.merged).map fun config => some config.toJson

/-- All layers, the lowest first, and the reports on them. -/
def layers (loader : ConfigLoader) (surroundings : Surroundings) :
    Except ConfigError (List Layer) × List LoadReport :=
  match loader.fileLayers surroundings with
  | (.error error, reports) => (.error error, reports)
  | (.ok files, reports) =>
    (.ok (loader.baseLayers ++ files ++ loader.variableLayers surroundings),
      reports ++ if loader.usesVariables then [.environment] else [])

def ofLayers (layers : List Layer) : Except ConfigError Config :=
  match layers.mapM id with
  | none => .error (.malformed "a file is not well formed")
  | some settings =>
    match Config.ofSettings? (Json.overlayAll settings) with
    | none => .error (.malformed "a setting has a value of another kind")
    | some config => .ok config

/-- Loads a configuration, which is not checked yet. -/
def load (loader : ConfigLoader) (surroundings : Surroundings) :
    Except ConfigError Config × List LogEvent :=
  let (layers, reports) := loader.layers surroundings
  match layers.bind ofLayers with
  | .error error => (.error error, reports.map LoadReport.event)
  | .ok config =>
    (.ok config, (reports ++ [LoadReport.loaded loader.profile config]).map LoadReport.event)

end ConfigLoader

end ChatBot
