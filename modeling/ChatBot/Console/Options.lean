import ChatBot.Files.Path

/-!
# Command-line options of the console bot

The options are read from the left; the first argument that makes no sense, or that
asks for help, decides.
-/

namespace ChatBot

namespace Console

/-- What the command line of the console bot says. -/
structure Options where
  configFile : Option String
  threaded : Bool
  responseCacheSize : Option Int
  deriving DecidableEq, Inhabited, Repr

/-- What comes of a command line: options, a request for help, or a misuse. -/
inductive CommandLine where
  | run (options : Options)
  | help
  | misuse
  deriving DecidableEq, Repr

namespace Options

def none : Options := ⟨.none, false, .none⟩

/-- A signed 64-bit integer in decimal digits, with a sign or without. -/
def integer? (text : String) : Option Int :=
  let (negative, digits) := match text.toList with
    | '-' :: rest => (true, rest)
    | '+' :: rest => (false, rest)
    | rest => (false, rest)
  let magnitude : Int := digits.foldl (fun n c => n * 10 + (c.toNat - '0'.toNat)) 0
  let value := if negative then -magnitude else magnitude
  if digits.isEmpty || !digits.all Char.isDigit then .none
  else if -9223372036854775808 ≤ value && value ≤ 9223372036854775807 then some value
  else .none

/-- Whether an argument cannot be the value of the option before it. -/
def looksLikeOption (argument : String) : Bool :=
  match argument.toList with
  | '-' :: _ :: _ => true
  | _ => false

/-- An argument split at its first equals sign, if it has one. -/
def splitAtEquals (argument : String) : String × Option String :=
  let name := argument.toList.takeWhile (· ≠ '=')
  match argument.toList.drop name.length with
  | [] => (argument, .none)
  | _ :: value => (String.ofList name, some (String.ofList value))

/-- Sets the configuration file, which is given at most once. -/
def setConfigFile (options : Options) (value : String) : Option Options :=
  if options.configFile.isSome || value = "" then .none
  else some { options with configFile := some value }

/-- Sets the cache size, which is given at most once. -/
def setResponseCacheSize (options : Options) (value : String) : Option Options :=
  if options.responseCacheSize.isSome then .none
  else (integer? value).map fun size => { options with responseCacheSize := some size }

/-- Takes the value of an option: what stands after its equals sign, or else the next
argument. -/
def takeValue (value : Option String) (rest : List String) : Option (String × List String) :=
  match value, rest with
  | some value, rest => some (value, rest)
  | .none, next :: rest => if looksLikeOption next then .none else some (next, rest)
  | .none, [] => .none

/-- Reads arguments; at most so many are left. -/
def readFrom : Nat → Options → List String → CommandLine
  | _, options, [] => .run options
  | 0, _, _ => .misuse
  | limit + 1, options, argument :: rest =>
    let (name, value) := splitAtEquals argument
    if argument = "--" then if rest.isEmpty then .run options else .misuse
    else if argument = "--help" then .help
    else if "-h".toList.isPrefixOf argument.toList then .help
    else if argument = "--threaded" then
      if options.threaded then .misuse else readFrom limit { options with threaded := true } rest
    else if name = "--config" then
      match takeValue value rest with
      | some (value, rest) =>
        match options.setConfigFile value with
        | some options => readFrom limit options rest
        | .none => .misuse
      | .none => .misuse
    else if name = "--response-cache-size" then
      match takeValue value rest with
      | some (value, rest) =>
        match options.setResponseCacheSize value with
        | some options => readFrom limit options rest
        | .none => .misuse
      | .none => .misuse
    else .misuse

def read (arguments : List String) : CommandLine :=
  readFrom arguments.length none arguments

def helpLines : List String := [
  "Chat with a perch bot from the terminal",
  "",
  "Usage: console-bot [OPTIONS]",
  "",
  "Options:",
  "      --config <CONFIG>",
  "          Configuration file (defaults to perch.toml in the current directory)",
  "      --threaded",
  "          Reply in threads",
  "      --response-cache-size <RESPONSE_CACHE_SIZE>",
  "          Number of messages whose replies follow edits and deletions",
  "  -h, --help",
  "          Print help"]

end Options

end Console

end ChatBot
