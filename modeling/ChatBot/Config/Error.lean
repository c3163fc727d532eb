import ChatBot.Text.Quoted

/-!
# What can be wrong with a bot's set-up

The causes for which a configuration is refused, and the causes for which a bot
does not run, each with its text.
-/

namespace ChatBot

/-- The settings that bound a cache. -/
inductive CacheSetting where
  | responses
  | users
  deriving DecidableEq, Repr

namespace CacheSetting

def name : CacheSetting → String
  | responses => "response_cache_size"
  | users => "user_info_cache_size"

end CacheSetting

/-- Why a configuration is not acceptable as a whole. -/
inductive ConfigViolation where
  | blankName
  | missingFilePath
  | formatUnavailable
  | blankFilterModule (module : String)
  | other (text : String)
  deriving DecidableEq, Repr

namespace ConfigViolation

def message : ConfigViolation → String
  | blankName => "Bot name cannot be empty"
  | missingFilePath => "logging.file_path is required when logging.output is \"file\""
  | formatUnavailable => "logging.format \"json\" requires the json-log feature"
  | blankFilterModule module => "Invalid logging filter module: " ++ Text.quote module
  | other text => text

end ConfigViolation

/-- Why there is no configuration to work with. -/
inductive ConfigError where
  | fileNotFound (path : String)
  | unsupportedFormat (suffix : String)
  | malformed (detail : String)
  | violation (cause : ConfigViolation)
  | invalidCacheSize (setting : CacheSetting) (value : Int)
  deriving DecidableEq, Repr

namespace ConfigError

def message : ConfigError → String
  | fileNotFound path => "Configuration file not found: " ++ path
  | unsupportedFormat suffix =>
    "Failed to parse configuration: Unsupported or disabled configuration file format: ." ++ suffix
  | malformed detail => "Failed to parse configuration: " ++ detail
  | violation cause => "Invalid configuration: " ++ cause.message
  | invalidCacheSize setting value =>
    "Invalid cache size for `" ++ setting.name ++ "`: " ++ toString value ++
      " (must be 0 or greater)"

end ConfigError

/-- Why a bot does not run, or stops. -/
inductive BotError where
  | config (error : ConfigError)
  | invalidCredentials
  | logging (detail : String)
  deriving DecidableEq, Repr

namespace BotError

def message : BotError → String
  | config error => error.message
  | invalidCredentials => "Invalid credentials"
  | logging detail => "Failed to initialize logging: " ++ detail

end BotError

end ChatBot
