import ChatBot.Config
import ChatBot.Files
import ChatBot.Logging.Directive
import ChatBot.Text.Quoted

/-!
# Logging

Setting up where and how log lines are written.  Only one set-up can be in place;
a later one reports that and changes nothing, except that its log file has been
opened by then.
-/

namespace ChatBot

/-- A set-up of logging in the making. -/
structure LoggingBuilder where
  directives : List String
  level : LogLevel
  spanEvents : SpanEvents
  format : LogFormat
  output : LogOutput
  withTarget : Bool
  withThreadIds : Bool
  withFileLocation : Bool
  filePath : Option String
  rotation : LogRotation
  deriving DecidableEq, Inhabited

/-- Why logging could not be set up. -/
inductive LoggingError where
  | fileNotOpened
  | alreadyInstalled
  deriving DecidableEq, Repr

namespace LoggingError

def message : LoggingError → String
  | fileNotOpened => "Failed to open log file"
  | alreadyInstalled => "Logging already initialized"

end LoggingError

namespace LogLevel

def describe : LogLevel → String
  | trace => "Trace"
  | debug => "Debug"
  | info => "Info"
  | warn => "Warn"
  | error => "Error"

end LogLevel

namespace SpanEvents

def describe (events : SpanEvents) : String :=
  "SpanEvents \x7b new: " ++ toString events.new ++ ", close: " ++ toString events.close ++ " \x7d"

end SpanEvents

namespace LoggingBuilder

/-- Compact lines on the standard output, of level info and above. -/
def default : LoggingBuilder where
  directives := []
  level := .info
  spanEvents := .none
  format := .compact
  output := .stdout
  withTarget := true
  withThreadIds := false
  withFileLocation := false
  filePath := none
  rotation := .never

/-- The directives of a table of filters, in the order of their texts. -/
def directivesOf (filters : Table LogLevel) : List String :=
  (filters.entries.map fun (module, level) => module ++ "=" ++ level.name).mergeSort (· ≤ ·)

def ofConfig (config : LoggingConfig) : LoggingBuilder where
  directives := directivesOf config.filters
  level := config.level
  spanEvents := config.spanEvents
  format := config.format
  output := config.output
  withTarget := true
  withThreadIds := config.threadIds
  withFileLocation := config.fileLocation
  filePath := config.filePath
  rotation := config.rotation

/-- Adds a directive after those that are there. -/
def addDirective (builder : LoggingBuilder) (directive : String) : LoggingBuilder :=
  { builder with directives := builder.directives ++ [directive] }

def describe (builder : LoggingBuilder) : String :=
  "LoggingBuilder \x7b directives: [" ++
    ", ".intercalate (builder.directives.map Text.quote) ++
    "], level: Level(" ++ builder.level.describe ++
    "), span_events: " ++ builder.spanEvents.describe ++
    ", format: " ++ builder.format.describe ++
    ", output: " ++ builder.output.describe ++
    ", with_target: " ++ toString builder.withTarget ++
    ", with_thread_ids: " ++ toString builder.withThreadIds ++
    ", with_file_location: " ++ toString builder.withFileLocation ++
    ", file_path: " ++ filePathText ++
    ", rotation: " ++ builder.rotation.describe ++ " \x7d"
where
  /-- The diagnostic text of the path. -/
  filePathText : String :=
    match builder.filePath with
    | some path => "Some(" ++ Text.quote path ++ ")"
    | none => "None"

def directiveWarnings (builder : LoggingBuilder) : List LogEvent :=
  (builder.directives.filter (!Directive.isValid ·)).map fun directive =>
    ⟨.warn, "Ignoring invalid log directive", [("directive", directive)]⟩

/-- The name of a log file whose path gives none. -/
def usualFileName : String := "perch.log"

/-- The warning about a file output without a path. -/
def pathWarning : LogEvent :=
  ⟨.warn, "File output requested without a file path, logging to stdout", []⟩

/-- Opens the log file of a set-up, if it has one.  Says whether that could be done. -/
def openFile (builder : LoggingBuilder) (files : FileTree) : FileTree × Bool :=
  match builder.output, builder.filePath with
  | .file, some path => files.openFile ⟨path⟩ usualFileName
  | _, _ => (files, true)

/-- The warnings when the set-up is put in place. -/
def outputWarnings (builder : LoggingBuilder) : List LogEvent :=
  if builder.output = .file ∧ builder.filePath = none then [pathWarning] else []

/-- Puts a set-up in place, unless there is one. -/
def install (builder : LoggingBuilder) (installed : Bool) (files : FileTree) :
    Except LoggingError Unit × FileTree × List LogEvent :=
  let (files, opened) := builder.openFile files
  if !opened then (.error .fileNotOpened, files, builder.directiveWarnings)
  else
    (if installed then .error .alreadyInstalled else .ok (), files,
      builder.directiveWarnings ++ builder.outputWarnings)

end LoggingBuilder

/-- The report that there is a set-up already. -/
def keepingLogging : LogEvent :=
  ⟨.debug, "Global subscriber already installed, keeping it", []⟩

/-- Sets up logging as a configuration asks for, or keeps what is in place. -/
def LoggingConfig.install (config : LoggingConfig) (installed : Bool) (files : FileTree) :
    Except LoggingError Unit × FileTree × List LogEvent :=
  match (LoggingBuilder.ofConfig config).install installed files with
  | (.error .alreadyInstalled, files, events) => (.ok (), files, events ++ [keepingLogging])
  | result => result

end ChatBot
