import ChatBot.Dispatch
import ChatBot.Table

/-!
# Configuration

What can be set about a bot: its name, how much it remembers, where its replies
go, and how it logs.  Every setting has a value of its own when nothing sets it.
-/

namespace ChatBot

/-- The layouts of log lines. -/
inductive LogFormat where
  | compact
  | full
  | pretty
  | json
  deriving DecidableEq, Inhabited, Repr

namespace LogFormat

def all : List LogFormat := [compact, full, pretty, json]

def name : LogFormat → String
  | compact => "compact"
  | full => "full"
  | pretty => "pretty"
  | json => "json"

def ofName? (name : String) : Option LogFormat :=
  all.find? (·.name = name)

def describe : LogFormat → String
  | compact => "Compact"
  | full => "Full"
  | pretty => "Pretty"
  | json => "Json"

end LogFormat

/-- Where log lines go. -/
inductive LogOutput where
  | stdout
  | stderr
  | file
  deriving DecidableEq, Inhabited, Repr

namespace LogOutput

def all : List LogOutput := [stdout, stderr, file]

def name : LogOutput → String
  | stdout => "stdout"
  | stderr => "stderr"
  | file => "file"

def ofName? (name : String) : Option LogOutput :=
  all.find? (·.name = name)

def describe : LogOutput → String
  | stdout => "Stdout"
  | stderr => "Stderr"
  | file => "File"

end LogOutput

/-- How often a new log file is started. -/
inductive LogRotation where
  | never
  | hourly
  | daily
  deriving DecidableEq, Inhabited, Repr

namespace LogRotation

def all : List LogRotation := [never, hourly, daily]

def name : LogRotation → String
  | never => "never"
  | hourly => "hourly"
  | daily => "daily"

def ofName? (name : String) : Option LogRotation :=
  all.find? (·.name = name)

def describe : LogRotation → String
  | never => "Never"
  | hourly => "Hourly"
  | daily => "Daily"

end LogRotation

/-- Which turns in the life of a span are logged. -/
structure SpanEvents where
  new : Bool
  close : Bool
  deriving DecidableEq, Inhabited, Repr

namespace SpanEvents

def none : SpanEvents := ⟨false, false⟩

def lifecycle : SpanEvents := ⟨true, true⟩

end SpanEvents

/-- How a bot logs. -/
structure LoggingConfig where
  level : LogLevel
  format : LogFormat
  output : LogOutput
  filePath : Option String
  rotation : LogRotation
  spanEvents : SpanEvents
  threadIds : Bool
  fileLocation : Bool
  filters : Table LogLevel
  deriving DecidableEq, Inhabited

namespace LoggingConfig

def default : LoggingConfig where
  level := .info
  format := .compact
  output := .stdout
  filePath := none
  rotation := .never
  spanEvents := .none
  threadIds := false
  fileLocation := false
  filters := .empty

end LoggingConfig

/-- What can be set about a bot.  The sizes are as they are written; whether they
make sense is for the check to say. -/
structure Config where
  name : String
  responseCacheSize : Int
  userInfoCacheSize : Int
  threadedReplies : Bool
  broadcastThreadedReplies : Bool
  helpEnabled : Bool
  logging : LoggingConfig
  deriving DecidableEq, Inhabited

namespace Config

def default : Config where
  name := "perch"
  responseCacheSize := 5000
  userInfoCacheSize := 0
  threadedReplies := false
  broadcastThreadedReplies := false
  helpEnabled := true
  logging := .default

/-- Where replies go unless an answer says otherwise. -/
def replySettings (config : Config) : ReplySettings :=
  ⟨config.threadedReplies, config.broadcastThreadedReplies⟩

end Config

end ChatBot
