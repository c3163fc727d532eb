import ChatBot.Config.Check
import ChatBot.Logging

/-!
# Bots

A bot is set up from a configuration that has been checked, and then given its
plugins.
-/

namespace ChatBot

/-- A bot that is set up but not running. -/
structure Bot where
  config : Config
  registry : Registry
  responseCapacity : Nat
  userCapacity : Nat

namespace Bot

/-- The report that a bot is set up. -/
def ready (bot : Bot) : LogEvent :=
  ⟨.info, "Runtime initialized from configuration", [
    ("name", bot.config.name),
    ("response_cache_size", toString bot.responseCapacity),
    ("user_info_cache_size", toString bot.userCapacity),
    ("threaded_replies", toString bot.config.threadedReplies)]⟩

def ofConfig (config : Config) : Except ConfigError Bot := do
  let responseCapacity ← config.responseCapacity
  let userCapacity ← config.userCapacity
  return ⟨config, .empty, responseCapacity, userCapacity⟩

/-- Checks a configuration, sets up logging and then the bot.  Says in which order
things fail: the check first, then the log file. -/
def setUp (config : Config) (logInstalled : Bool) (files : FileTree) :
    Except BotError Bot × FileTree × List LogEvent :=
  match config.check with
  | (.error error, warnings) => (.error (.config error), files, warnings)
  | (.ok _, warnings) =>
    match config.logging.install logInstalled files with
    | (.error error, files, events) => (.error (.logging error.message), files, warnings ++ events)
    | (.ok _, files, events) =>
      match ofConfig config with
      | .error error => (.error (.config error), files, warnings ++ events)
      | .ok bot => (.ok bot, files, warnings ++ events ++ [bot.ready])

def register (bot : Bot) (plugin : Plugin) : Bot × List LogEvent :=
  let (registry, events) := bot.registry.register plugin
  ({ bot with registry },
    ⟨.info, "Registering plugin", [("plugin", plugin.name)]⟩ :: events)

def registerAll (bot : Bot) : List Plugin → Bot × List LogEvent
  | [] => (bot, [])
  | plugin :: rest =>
    let (bot, events) := bot.register plugin
    let (bot, others) := bot.registerAll rest
    (bot, events ++ others)

end Bot

end ChatBot
