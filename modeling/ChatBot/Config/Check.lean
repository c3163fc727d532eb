import ChatBot.Config
import ChatBot.Config.Error

/-!
# Checking a configuration

The rules that a configuration has to keep as a whole, in the order in which they
are checked; the first that is broken is reported.
-/

namespace ChatBot

namespace Config

/-- The size that a setting gives to a cache. -/
def cacheSize (setting : CacheSetting) (value : Int) : Except ConfigError Nat :=
  if 0 ≤ value then .ok value.toNat else .error (.invalidCacheSize setting value)

/-- How many source messages the replies are tracked of. -/
def responseCapacity (config : Config) : Except ConfigError Nat :=
  cacheSize .responses config.responseCacheSize

def userCapacity (config : Config) : Except ConfigError Nat :=
  cacheSize .users config.userInfoCacheSize

/-- The warning that a setting has no effect. -/
def broadcastWarning : LogEvent :=
  ⟨.warn, "broadcast_threaded_replies has no effect unless threaded_replies is enabled", []⟩

/-- Checks the rules about the name and the cache sizes. -/
def checkBasics (config : Config) : Except ConfigError Unit := do
  if Text.isAllBlank config.name then throw (.violation .blankName)
  let _ ← config.responseCapacity
  let _ ← config.userCapacity

/-- The warnings that a configuration draws when its basics are in order. -/
def warnings (config : Config) : List LogEvent :=
  if config.broadcastThreadedReplies && !config.threadedReplies then [broadcastWarning] else []

def checkLogging (logging : LoggingConfig) : Except ConfigError Unit := do
  if logging.output = .file && logging.filePath.isNone then
    throw (.violation .missingFilePath)
  if logging.format = .json then
    throw (.violation .formatUnavailable)
  match logging.filters.entries.find? (fun entry => Text.isAllBlank entry.1) with
  | some entry => throw (.violation (.blankFilterModule entry.1))
  | none => pure ()

def check (config : Config) : Except ConfigError Unit × List LogEvent :=
  match checkBasics config with
  | .error error => (.error error, [])
  | .ok _ => (checkLogging config.logging, warnings config)

end Config

end ChatBot
