import ChatBot.Proofs.Config.Filters
import ChatBot.Proofs.Json.Parts

/-!
# Trees that tell of a configuration

A tree tells of a configuration if it names each setting once and has its value there, in whatever
order the settings and the filters stand.  Every such tree is read as the configuration.  One such
tree over another tells of one configuration over the other: the upper one with the filters of
both, and with the log file of the lower one if it has none itself.
-/

namespace ChatBot

theorem LogFormat.ofJson?_toJson (format : LogFormat) : ofJson? format.toJson = some format := by
  cases format <;> rfl

theorem LogOutput.ofJson?_toJson (output : LogOutput) : ofJson? output.toJson = some output := by
  cases output <;> rfl

theorem LogRotation.ofJson?_toJson (rotation : LogRotation) :
    ofJson? rotation.toJson = some rotation := by
  cases rotation <;> rfl

/-- A way to find fields that finds the parts of every record that names its members once. -/
def Json.FindsParts (find? : FieldReader) : Prop :=
  ∀ {names json parts}, HasParts names json parts → find? names json = some parts

/-- A record with what stands under one name changed. -/
def Json.mapMember (name : String) (change : Json → Json) : Json → Json
  | obj members =>
    obj (members.map fun member =>
      (member.1, if member.1 = name then change member.2 else member.2))
  | json => json

variable {find? : Json.FieldReader}

namespace SpanEvents

def ToldBy (events : SpanEvents) (json : Json) : Prop :=
  json.HasParts ["new", "close"] [some (.bool events.new), some (.bool events.close)]

variable {events upper below : SpanEvents} {json low up : Json}

theorem toldBy_toJson (events : SpanEvents) : events.ToldBy events.toJson :=
  ⟨_, rfl, by simp, rfl⟩

theorem decode?_of_toldBy (finds : Json.FindsParts find?) (told : events.ToldBy json) :
    decode? find? json = some events := by
  rw [decode?, finds told]
  rfl

theorem ToldBy.overlay (below_told : below.ToldBy low) (upper_told : upper.ToldBy up) :
    upper.ToldBy (low.overlay up) :=
  Json.HasParts.overlay below_told upper_told

end SpanEvents

namespace LoggingConfig

theorem FiltersToldBy.overlay {below upper : Table LogLevel} {low up : Json}
    (below_told : FiltersToldBy below low) (upper_told : FiltersToldBy upper up) :
    FiltersToldBy (upper.atop below) (low.overlay up) := by
  obtain ⟨lower, rfl, lower_distinct, lower_agree⟩ := below_told
  obtain ⟨members, rfl, distinct, agree⟩ := upper_told
  refine ⟨Json.overlayMembers lower members, rfl, Json.nodup_overlayMembers lower_distinct members,
    fun name => ?_⟩
  rw [Json.lookup_overlayMembers distinct, Table.lookup?_atop, agree, lower_agree]
  cases upper.lookup? name <;> cases below.lookup? name <;> rfl

/-- The values of the settings, with trees for the span events and for the filters. -/
def parts (logging : LoggingConfig) (spans filters : Json) : List (Option Json) :=
  [some logging.level.toJson, some logging.format.toJson, some logging.output.toJson,
    logging.filePath.map Json.str, some logging.rotation.toJson, some spans,
    some (.bool logging.threadIds), some (.bool logging.fileLocation), some filters]

def ToldBy (logging : LoggingConfig) (json : Json) : Prop :=
  ∃ spans filters, logging.spanEvents.ToldBy spans ∧ FiltersToldBy logging.filters filters ∧
    json.HasParts fieldNames (logging.parts spans filters)

/-- One log over another: the upper one with the filters of both, and with the file of the lower
one if it has none itself. -/
def atop (upper below : LoggingConfig) : LoggingConfig :=
  { upper with
    filePath := upper.filePath.or below.filePath
    filters := upper.filters.atop below.filters }

variable {logging upper below : LoggingConfig} {json low up : Json}

theorem decode?_of_toldBy (finds : Json.FindsParts find?) (told : logging.ToldBy json) :
    decode? find? json = some logging := by
  obtain ⟨spans, filters, spans_told, filters_told, has⟩ := told
  have path : Json.withDefault none (Json.nullable Json.text?) (logging.filePath.map Json.str) =
      some logging.filePath := by
    cases logging.filePath <;> rfl
  rw [decode?, finds has]
  simp [parts, path, Json.withDefault_some, Json.bool?, LogLevel.ofJson?_toJson,
    LogFormat.ofJson?_toJson, LogOutput.ofJson?_toJson, LogRotation.ofJson?_toJson,
    SpanEvents.decode?_of_toldBy finds spans_told, filters?_of_toldBy filters_told]

/-- The tree of a log with its filters in a given order. -/
def listed (logging : LoggingConfig) (entries : List (String × LogLevel)) : Json :=
  logging.toJson.mapMember "filters" fun _ => filtersTree entries

theorem listed_entries (logging : LoggingConfig) :
    logging.listed logging.filters.entries = logging.toJson := by
  rw [listed, toJson]
  cases logging.filePath <;> rfl

theorem toldBy_listed {entries : List (String × LogLevel)}
    (perm : entries.Perm logging.filters.entries) : logging.ToldBy (logging.listed entries) := by
  refine ⟨_, _, logging.spanEvents.toldBy_toJson, filtersToldBy_filtersTree perm, ?_⟩
  rw [listed, toJson, parts]
  cases logging.filePath with
  | none => exact ⟨_, rfl, by simp, rfl⟩
  | some path => exact ⟨_, rfl, by simp, rfl⟩

theorem parts_atop (below upper : LoggingConfig) (below_spans below_filters spans filters : Json) :
    List.zipWith Json.overPart (below.parts below_spans below_filters)
        (upper.parts spans filters) =
      (upper.atop below).parts (below_spans.overlay spans) (below_filters.overlay filters) := by
  have paths : Json.overPart (below.filePath.map Json.str) (upper.filePath.map Json.str) =
      (upper.filePath.or below.filePath).map Json.str := by
    cases upper.filePath <;> cases below.filePath <;> rfl
  simp only [parts, List.zipWith_cons_cons, List.zipWith_nil_left, paths]
  rfl

theorem ToldBy.overlay (below_told : below.ToldBy low) (upper_told : upper.ToldBy up) :
    (upper.atop below).ToldBy (low.overlay up) := by
  obtain ⟨below_spans, below_filters, told_spans, told_filters, below_has⟩ := below_told
  obtain ⟨spans, filters, spans_told, filters_told, has⟩ := upper_told
  refine ⟨_, _, told_spans.overlay spans_told, told_filters.overlay filters_told, ?_⟩
  rw [← parts_atop]
  exact below_has.overlay has

end LoggingConfig

namespace Config

def parts (config : Config) (logging : Json) : List (Option Json) :=
  [some (.str config.name), some (.int config.responseCacheSize),
    some (.int config.userInfoCacheSize), some (.bool config.threadedReplies),
    some (.bool config.broadcastThreadedReplies), some (.bool config.helpEnabled), some logging]

def ToldBy (config : Config) (json : Json) : Prop :=
  ∃ logging, config.logging.ToldBy logging ∧ json.HasParts fieldNames (config.parts logging)

def atop (upper below : Config) : Config :=
  { upper with logging := upper.logging.atop below.logging }

/-- The tree of a configuration with its filters in a given order. -/
def listed (config : Config) (entries : List (String × LogLevel)) : Json :=
  config.toJson.mapMember "logging" fun _ => config.logging.listed entries

theorem listed_entries (config : Config) :
    config.listed config.logging.filters.entries = config.toJson := by
  rw [listed, LoggingConfig.listed_entries]
  rfl

theorem toldBy_listed {entries : List (String × LogLevel)} {config : Config}
    (perm : entries.Perm config.logging.filters.entries) :
    config.ToldBy (config.listed entries) :=
  ⟨_, config.logging.toldBy_listed perm, _, rfl, by simp, rfl⟩

theorem toldBy_toJson (config : Config) : config.ToldBy config.toJson := by
  rw [← listed_entries]
  exact toldBy_listed (List.Perm.refl _)

/-- Whether the sizes are numbers of a signed 64-bit word. -/
def SizesFit (config : Config) : Prop :=
  (-9223372036854775808 ≤ config.responseCacheSize ∧
      config.responseCacheSize ≤ 9223372036854775807) ∧
    -9223372036854775808 ≤ config.userInfoCacheSize ∧
      config.userInfoCacheSize ≤ 9223372036854775807

instance (config : Config) : Decidable config.SizesFit :=
  inferInstanceAs (Decidable (_ ∧ _))

variable {config upper below : Config} {json low up : Json}

/-- A configuration is read from every tree that tells of it. -/
theorem decode?_of_toldBy (finds : Json.FindsParts find?) (told : config.ToldBy json)
    (fit : config.SizesFit) : decode? find? json = some config := by
  obtain ⟨logging, logging_told, has⟩ := told
  obtain ⟨⟨response_low, response_high⟩, users_low, users_high⟩ := fit
  have response := Json.intWithin?_int response_low response_high
  have users := Json.intWithin?_int users_low users_high
  rw [decode?, finds has]
  simp [parts, Json.withDefault_some, Json.text?, Json.bool?, Json.int64?, response, users,
    LoggingConfig.decode?_of_toldBy finds logging_told]

theorem ToldBy.overlay (below_told : below.ToldBy low) (upper_told : upper.ToldBy up) :
    (upper.atop below).ToldBy (low.overlay up) := by
  obtain ⟨below_logging, told_logging, below_has⟩ := below_told
  obtain ⟨logging, logging_told, has⟩ := upper_told
  exact ⟨_, told_logging.overlay logging_told, below_has.overlay has⟩

theorem ToldBy.overlay_nil (told : config.ToldBy json) :
    config.ToldBy (Json.overlay (.obj []) json) := by
  obtain ⟨logging, logging_told, has⟩ := told
  exact ⟨logging, logging_told, has.overlay_nil⟩

end Config

end ChatBot
