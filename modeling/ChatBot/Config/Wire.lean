import ChatBot.Config
import ChatBot.Json.Record

/-!
# The JSON form of a configuration

Every setting is written, except a log file path that is not set; any setting may
be left out when it is read.
-/

namespace ChatBot

namespace LogLevel

def toJson (level : LogLevel) : Json := .str level.name

def ofJson? (json : Json) : Option LogLevel :=
  json.choice?.bind ofName?

end LogLevel

namespace LogFormat

def toJson (format : LogFormat) : Json := .str format.name

def ofJson? (json : Json) : Option LogFormat :=
  json.choice?.bind ofName?

end LogFormat

namespace LogOutput

/-- A place for log lines is written as its name. -/
def toJson (output : LogOutput) : Json := .str output.name

def ofJson? (json : Json) : Option LogOutput :=
  json.choice?.bind ofName?

end LogOutput

namespace LogRotation

def toJson (rotation : LogRotation) : Json := .str rotation.name

def ofJson? (json : Json) : Option LogRotation :=
  json.choice?.bind ofName?

end LogRotation

namespace SpanEvents

def toJson (events : SpanEvents) : Json :=
  .obj [("new", .bool events.new), ("close", .bool events.close)]

/-- Reads span events with a given way to find fields. -/
def decode? (fields? : Json.FieldReader) (json : Json) : Option SpanEvents := do
  match ← fields? ["new", "close"] json with
  | [new, close] =>
    some {
      new := ← Json.withDefault false Json.bool? new
      close := ← Json.withDefault false Json.bool? close }
  | _ => none

def ofJson? : Json → Option SpanEvents :=
  decode? Json.fields?

end SpanEvents

namespace LoggingConfig

/-- The names of the logging settings, in order. -/
def fieldNames : List String :=
  ["level", "format", "output", "file_path", "rotation", "span_events", "thread_ids",
    "file_location", "filters"]

/-- Reads a table of levels; of several under one name the last counts. -/
def filters? : Json → Option (Table LogLevel)
  | .obj members => do
    let entries ← members.mapM fun (name, level) => do
      some (name, ← LogLevel.ofJson? level)
    some (Table.ofList entries)
  | _ => none

def toJson (logging : LoggingConfig) : Json :=
  .obj ([
    ("level", logging.level.toJson),
    ("format", logging.format.toJson),
    ("output", logging.output.toJson)] ++
    (match logging.filePath with
    | none => []
    | some path => [("file_path", .str path)]) ++ [
    ("rotation", logging.rotation.toJson),
    ("span_events", logging.spanEvents.toJson),
    ("thread_ids", .bool logging.threadIds),
    ("file_location", .bool logging.fileLocation),
    ("filters", .obj (logging.filters.entries.map fun entry => (entry.1, entry.2.toJson)))])

/-- Reads logging settings with a given way to find fields. -/
def decode? (fields? : Json.FieldReader) (json : Json) : Option LoggingConfig := do
  match ← fields? fieldNames json with
  | [level, format, output, filePath, rotation, spanEvents, threadIds, fileLocation, filters] =>
    some {
      level := ← Json.withDefault .info LogLevel.ofJson? level
      format := ← Json.withDefault .compact LogFormat.ofJson? format
      output := ← Json.withDefault .stdout LogOutput.ofJson? output
      filePath := ← Json.withDefault none (Json.nullable Json.text?) filePath
      rotation := ← Json.withDefault .never LogRotation.ofJson? rotation
      spanEvents := ← Json.withDefault .none (SpanEvents.decode? fields?) spanEvents
      threadIds := ← Json.withDefault false Json.bool? threadIds
      fileLocation := ← Json.withDefault false Json.bool? fileLocation
      filters := ← Json.withDefault .empty filters? filters }
  | _ => none

def ofJson? : Json → Option LoggingConfig :=
  decode? Json.fields?

end LoggingConfig

namespace Config

def fieldNames : List String :=
  ["name", "response_cache_size", "user_info_cache_size", "threaded_replies",
    "broadcast_threaded_replies", "help_enabled", "logging"]

def toJson (config : Config) : Json :=
  .obj [
    ("name", .str config.name),
    ("response_cache_size", .int config.responseCacheSize),
    ("user_info_cache_size", .int config.userInfoCacheSize),
    ("threaded_replies", .bool config.threadedReplies),
    ("broadcast_threaded_replies", .bool config.broadcastThreadedReplies),
    ("help_enabled", .bool config.helpEnabled),
    ("logging", config.logging.toJson)]

/-- Reads a configuration with a given way to find fields. -/
def decode? (fields? : Json.FieldReader) (json : Json) : Option Config := do
  match ← fields? fieldNames json with
  | [name, responseCacheSize, userInfoCacheSize, threadedReplies, broadcastThreadedReplies,
      helpEnabled, logging] =>
    some {
      name := ← Json.withDefault Config.default.name Json.text? name
      responseCacheSize :=
        ← Json.withDefault Config.default.responseCacheSize Json.int64? responseCacheSize
      userInfoCacheSize := ← Json.withDefault 0 Json.int64? userInfoCacheSize
      threadedReplies := ← Json.withDefault false Json.bool? threadedReplies
      broadcastThreadedReplies := ← Json.withDefault false Json.bool? broadcastThreadedReplies
      helpEnabled := ← Json.withDefault true Json.bool? helpEnabled
      logging := ← Json.withDefault .default (LoggingConfig.decode? fields?) logging }
  | _ => none

def ofJson? : Json → Option Config :=
  decode? Json.fields?

/-- Reads a configuration from layered settings, where an array that stands for a
record may go on after the last field. -/
def ofSettings? : Json → Option Config :=
  decode? Json.leadingFields?

end Config

end ChatBot
