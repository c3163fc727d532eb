import ChatBot.Proofs.Config.Reading
import ChatBot.Proofs.Json.RoundTrip
import ChatBot.Proofs.Json.Sorted
import ChatBot.Wire

/-!
# Values as they were written

Answers, outgoing messages, users and configurations are read back from the texts that they are
written as.  What is left out of a text, or written as nothing, is what was empty or not set, and is
that again when the text is read.
-/

namespace ChatBot

namespace Json

/-! ## Exact trees -/

theorem areExact_iff {items : List Json} :
    areExact items = true ↔ ∀ item ∈ items, item.isExact = true := by
  induction items with
  | nil => simp [areExact]
  | cons item rest ih => rw [areExact, Bool.and_eq_true, ih, List.forall_mem_cons]

theorem haveExactValues_iff {members : List (String × Json)} :
    haveExactValues members = true ↔ ∀ member ∈ members, member.2.isExact = true := by
  induction members with
  | nil => simp [haveExactValues]
  | cons member rest ih =>
      obtain ⟨name, value⟩ := member
      rw [haveExactValues, Bool.and_eq_true, ih, List.forall_mem_cons]

theorem isExact_ofOption {α : Type} (encode : α → Json)
    (exact_of : ∀ value, (encode value).isExact = true) (value : Option α) :
    (ofOption encode value).isExact = true := by
  cases value with
  | none => rfl
  | some value => exact exact_of value

/-- A value is read back from the text of an exact tree that it is decoded from. -/
theorem read_write_bind {α : Type} {decode : Json → Option α} {tree : Json} {value : α}
    (exactly : tree.isExact = true) (decoded : decode tree = some value) :
    (read tree.write).bind decode = some value := by
  rw [read_write exactly]
  exact decoded

theorem nullable_ofOption {α : Type} (encode : α → Json) (decode : Json → Option α)
    (decoded : ∀ value, nullable decode (encode value) = some (some value)) (value : Option α) :
    nullable decode (ofOption encode value) = some value := by
  cases value with
  | none => rfl
  | some value => exact decoded value

theorem ofOption_eq_null_iff {α : Type} (encode : α → Json) (told : ∀ value, encode value ≠ null)
    {value : Option α} : ofOption encode value = null ↔ value = none := by
  cases value with
  | none => exact iff_of_true rfl rfl
  | some value => exact iff_of_false (told value) (Option.some_ne_none value)

/-! ## Blocks -/

section Blocks

variable {item : Json} {items blocks : List Json} {members : List (String × Json)}

theorem depth_le_depthOfItems (among : item ∈ items) : item.depth ≤ depthOfItems items := by
  induction items with
  | nil => cases among
  | cons first rest ih =>
      rw [depthOfItems]
      rcases List.mem_cons.mp among with rfl | later
      · exact Nat.le_max_left _ _
      · exact Nat.le_trans (ih later) (Nat.le_max_right _ _)

theorem depth_le_depthOfMembers {member : String × Json} (among : member ∈ members) :
    member.2.depth ≤ depthOfMembers members := by
  induction members with
  | nil => cases among
  | cons first rest ih =>
      rw [depthOfMembers]
      rcases List.mem_cons.mp among with rfl | later
      · exact Nat.le_max_left _ _
      · exact Nat.le_trans (ih later) (Nat.le_max_right _ _)

theorem mapM_eq_some_self {f : Json → Option Json} (each : ∀ item ∈ items, f item = some item) :
    items.mapM f = some items := by
  induction items with
  | nil => rfl
  | cons item rest ih =>
      obtain ⟨first, others⟩ := List.forall_mem_cons.mp each
      simp only [List.mapM_cons, first, ih others]
      rfl

/-- The part for blocks, missing when there are none. -/
def blockPart (blocks : List Json) : Option Json :=
  if blocks.isEmpty then none else some (arr blocks)

theorem blockPart_eq_none_iff : blockPart blocks = none ↔ blocks = [] := by
  cases blocks with
  | nil => exact iff_of_true rfl rfl
  | cons block rest => exact iff_of_false (Option.some_ne_none _) (List.cons_ne_nil block rest)

/-- The record of a text, of blocks, and of a part under one more name. -/
def textRecord (text : String) (blocks : List Json) (name : String) (part : Option Json) : Json :=
  obj (("text", str text) :: blockMembers blocks ++ (part.map fun value => (name, value)).toList)

variable {text name : String} {part : Option Json}

/-- A block has room in a record that is not too deep. -/
theorem depth_add_two_le {block : Json} (among : block ∈ blocks) :
    block.depth + 2 ≤ (textRecord text blocks name part).depth := by
  have some_block : blocks.isEmpty = false :=
    List.isEmpty_eq_false_iff_exists_mem.mpr ⟨block, among⟩
  have below : block.depth ≤ depthOfItems blocks := depth_le_depthOfItems among
  have inside : (arr blocks).depth ≤ depthOfMembers
      (("text", str text) :: blockMembers blocks ++
        (part.map fun value => (name, value)).toList) :=
    @depth_le_depthOfMembers _ ("blocks", arr blocks) (by simp [blockMembers, some_block])
  rw [depth] at inside
  rw [textRecord, depth]
  omega

/-- Blocks are read as they are if they are sorted and the record around them is not too deep. -/
theorem blocks?_blockPart (values : ∀ block ∈ blocks, block.isExact = true ∧ block.IsSorted)
    (shallow : (textRecord text blocks name part).depth ≤ maxDepth) :
    blocks? (blockPart blocks) = some blocks := by
  have each : ∀ block ∈ blocks, anyValue? 2 block = some block := by
    intro block among
    obtain ⟨exactly, sorted⟩ := values block among
    have room : block.depth + 2 ≤ maxDepth := Nat.le_trans (depth_add_two_le among) shallow
    rw [anyValue?, isReadable_of_isExact exactly, normalize_of_isSorted sorted]
    simp [room]
  cases blocks with
  | nil => rfl
  | cons block rest => exact mapM_eq_some_self each

theorem hasParts_textRecord (other : name ∉ ["text", "blocks"]) :
    (textRecord text blocks name part).HasParts ["text", "blocks", name]
      [some (str text), blockPart blocks, part] := by
  simp only [List.mem_cons, List.not_mem_nil, or_false, not_or] at other
  obtain ⟨not_text, not_blocks⟩ := other
  unfold textRecord blockMembers blockPart
  refine ⟨_, rfl, ?_, ?_⟩
  · cases part <;> split <;> simp [Ne.symm not_text, Ne.symm not_blocks]
  · cases part <;> split <;>
      simp [lookup_cons_eq_ite, not_text, not_blocks, Ne.symm not_blocks]

theorem at?_textRecord (other : name ∉ ["text", "blocks"]) :
    (textRecord text blocks name part).at? ["blocks"] = blockPart blocks ∧
      (textRecord text blocks name part).at? [name] = part := by
  have has := @hasParts_textRecord blocks text name part other
  have parts := has.map_at?
  simp only [List.map_cons, List.map_nil, List.cons.injEq, and_true] at parts
  exact parts.2

theorem isExact_textRecord (values : ∀ block ∈ blocks, block.isExact = true ∧ block.IsSorted)
    (exact_part : ∀ value ∈ part, value.isExact = true) :
    (textRecord text blocks name part).isExact = true := by
  have exact_blocks : areExact blocks = true :=
    areExact_iff.mpr fun block among => (values block among).1
  refine haveExactValues_iff.mpr fun member among => ?_
  rcases List.mem_append.mp among with earlier | last
  · rcases List.mem_cons.mp earlier with rfl | written
    · rfl
    · unfold blockMembers at written
      split at written
      · cases written
      · obtain rfl := List.mem_singleton.mp written
        exact exact_blocks
  · obtain ⟨value, given, rfl⟩ := Option.map_eq_some_iff.mp (Option.mem_toList.mp last)
    exact exact_part value given

end Blocks

end Json

/-! ## Answers and messages -/

namespace AnswerOptions

theorem ofJson?_toJson (options : AnswerOptions) : ofJson? options.toJson = some options := by
  have optional := Json.nullable_ofOption Json.bool Json.bool? fun _ => rfl
  rw [ofJson?, toJson, Json.fields?_obj (by simp)]
  simp [List.lookup_cons, Json.withDefault, optional]

theorem isExact_toJson (options : AnswerOptions) : options.toJson.isExact = true := by
  have optional := Json.isExact_ofOption Json.bool fun _ => rfl
  simp [toJson, Json.isExact, Json.haveExactValues, optional]

end AnswerOptions

namespace Answer

variable {answer : Answer}

theorem toJson_eq (answer : Answer) : answer.toJson =
    Json.textRecord answer.text answer.blocks "options" (some answer.options.toJson) :=
  rfl

theorem at?_parts (answer : Answer) :
    answer.toJson.at? ["blocks"] = Json.blockPart answer.blocks ∧
      answer.toJson.at? ["options"] = some answer.options.toJson := by
  rw [toJson_eq]
  exact Json.at?_textRecord (by decide)

theorem isExact_toJson (values : ∀ block ∈ answer.blocks, block.isExact = true ∧ block.IsSorted) :
    answer.toJson.isExact = true := by
  rw [toJson_eq]
  refine Json.isExact_textRecord values fun value given => ?_
  obtain rfl := Option.some.inj given
  exact answer.options.isExact_toJson

theorem ofJson?_toJson (values : ∀ block ∈ answer.blocks, block.isExact = true ∧ block.IsSorted)
    (shallow : answer.toJson.depth ≤ Json.maxDepth) : ofJson? answer.toJson = some answer := by
  rw [toJson_eq] at shallow ⊢
  rw [ofJson?, (Json.hasParts_textRecord (by decide)).fields?_eq]
  simp [Json.required, Json.text?, Json.blocks?_blockPart values shallow, Json.withDefault_some,
    AnswerOptions.ofJson?_toJson]

end Answer

namespace OutgoingMessage

variable {message : OutgoingMessage}

theorem toJson_eq (message : OutgoingMessage) : message.toJson =
    Json.textRecord message.text message.blocks "thread"
      (message.thread.map ThreadTarget.toJson) := by
  rw [toJson]
  cases message.thread <;> rfl

theorem at?_parts (message : OutgoingMessage) :
    message.toJson.at? ["blocks"] = Json.blockPart message.blocks ∧
      message.toJson.at? ["thread"] = message.thread.map ThreadTarget.toJson := by
  rw [toJson_eq]
  exact Json.at?_textRecord (by decide)

theorem isExact_toJson (values : ∀ block ∈ message.blocks, block.isExact = true ∧ block.IsSorted) :
    message.toJson.isExact = true := by
  rw [toJson_eq]
  refine Json.isExact_textRecord values fun value given => ?_
  obtain ⟨target, -, rfl⟩ := Option.map_eq_some_iff.mp given
  rfl

theorem ofJson?_toJson (values : ∀ block ∈ message.blocks, block.isExact = true ∧ block.IsSorted)
    (shallow : message.toJson.depth ≤ Json.maxDepth) : ofJson? message.toJson = some message := by
  rw [toJson_eq] at shallow ⊢
  have thread : Json.withDefault none (Json.nullable ThreadTarget.ofJson?)
      (message.thread.map ThreadTarget.toJson) = some message.thread := by
    cases message.thread <;> rfl
  rw [ofJson?, (Json.hasParts_textRecord (by decide)).fields?_eq]
  simp [Json.required, Json.text?, Json.blocks?_blockPart values shallow, thread]

end OutgoingMessage

/-! ## Users and configurations -/

namespace UserInfo

theorem ofJson?_toJson (user : UserInfo) : ofJson? user.toJson = some user := by
  have optional := Json.nullable_ofOption Json.str Json.text? fun _ => rfl
  rw [ofJson?, toJson, Json.fields?_obj (by simp)]
  simp [List.lookup_cons, Json.required, Json.text?, Json.withDefault, optional]

theorem isExact_toJson (user : UserInfo) : user.toJson.isExact = true := by
  have optional := Json.isExact_ofOption Json.str fun _ => rfl
  simp [toJson, Json.isExact, Json.haveExactValues, optional]

end UserInfo

theorem LoggingConfig.isExact_listed (logging : LoggingConfig)
    (entries : List (String × LogLevel)) : (logging.listed entries).isExact = true := by
  have filters : (filtersTree entries).isExact = true := by
    refine Json.haveExactValues_iff.mpr fun member among => ?_
    obtain ⟨entry, -, rfl⟩ := List.mem_map.mp among
    rfl
  rw [listed, toJson]
  cases logging.filePath <;>
    simp [Json.mapMember, Json.isExact, Json.haveExactValues, LogLevel.toJson, LogFormat.toJson,
      LogOutput.toJson, LogRotation.toJson, SpanEvents.toJson, filters]

namespace Config

variable {config : Config}

theorem at?_filePath (config : Config) :
    config.toJson.at? ["logging", "file_path"] = config.logging.filePath.map Json.str := by
  have logging : config.toJson.at? ["logging", "file_path"] =
      config.logging.toJson.at? ["file_path"] := rfl
  rw [logging, LoggingConfig.toJson]
  cases config.logging.filePath <;> rfl

theorem isExact_listed (fit : config.SizesFit) (entries : List (String × LogLevel)) :
    (config.listed entries).isExact = true := by
  obtain ⟨⟨response_low, response_high⟩, users_low, users_high⟩ := fit
  have response : Json.inIntRange config.responseCacheSize = true := by
    simp only [Json.inIntRange, Bool.and_eq_true, decide_eq_true_eq]
    omega
  have users : Json.inIntRange config.userInfoCacheSize = true := by
    simp only [Json.inIntRange, Bool.and_eq_true, decide_eq_true_eq]
    omega
  simp [listed, toJson, Json.mapMember, Json.isExact, Json.haveExactValues, response, users,
    LoggingConfig.isExact_listed]

theorem read_write_listed (fit : config.SizesFit) {entries : List (String × LogLevel)}
    (perm : entries.Perm config.logging.filters.entries) :
    (Json.read (config.listed entries).write).bind ofJson? = some config :=
  Json.read_write_bind (isExact_listed fit entries)
    (decode?_of_toldBy (fun has => has.fields?_eq) (toldBy_listed perm) fit)

end Config

/-- Answers and outgoing messages with any blocks whose texts are not nested too deeply, users, and
configurations are read back from their texts as they were, a configuration also when its filters
are written in another order.  A block is a tree as a reader keeps it: without decimals, with
integers of 64 bits, and with the members of its objects in order, each once.  What has no place in
a text is what is empty or not set: blocks, the thread of a message, the file of a log.  What is
written as nothing is what is not set: the options of an answer, the real name of a user. -/
theorem restored_from_text :
    (∀ answer : Answer, (∀ block ∈ answer.blocks, block.isExact = true ∧ block.IsSorted) →
      answer.toJson.depth ≤ Json.maxDepth →
        (Json.read answer.toJson.write).bind Answer.ofJson? = some answer ∧
        (answer.toJson.at? ["blocks"] = none ↔ answer.blocks = []) ∧
        (answer.toJson.at? ["options", "threaded"] = some .null ↔ answer.options.threaded = none) ∧
        (answer.toJson.at? ["options", "broadcast"] = some .null ↔
          answer.options.broadcast = none)) ∧
    (∀ message : OutgoingMessage,
      (∀ block ∈ message.blocks, block.isExact = true ∧ block.IsSorted) →
      message.toJson.depth ≤ Json.maxDepth →
        (Json.read message.toJson.write).bind OutgoingMessage.ofJson? = some message ∧
        (message.toJson.at? ["blocks"] = none ↔ message.blocks = []) ∧
        (message.toJson.at? ["thread"] = none ↔ message.thread = none)) ∧
    (∀ user : UserInfo,
      (Json.read user.toJson.write).bind UserInfo.ofJson? = some user ∧
      (user.toJson.at? ["real_name"] = some .null ↔ user.realName = none)) ∧
    ∀ config : Config, config.SizesFit →
      (Json.read config.toJson.write).bind Config.ofJson? = some config ∧
      (∀ entries, entries.Perm config.logging.filters.entries →
        (Json.read (config.listed entries).write).bind Config.ofJson? = some config) ∧
      (config.toJson.at? ["logging", "file_path"] = none ↔ config.logging.filePath = none) := by
  refine ⟨fun answer values shallow => ⟨?_, ?_, ?_, ?_⟩, fun message values shallow => ⟨?_, ?_, ?_⟩,
    fun user => ⟨?_, ?_⟩, fun config fit => ⟨?_, fun entries perm => ?_, ?_⟩⟩
  · exact Json.read_write_bind (answer.isExact_toJson values) (answer.ofJson?_toJson values shallow)
  · rw [answer.at?_parts.1, Json.blockPart_eq_none_iff]
  · rw [Json.at?_cons, answer.at?_parts.2]
    exact Option.some_inj.trans (Json.ofOption_eq_null_iff Json.bool fun _ => nofun)
  · rw [Json.at?_cons, answer.at?_parts.2]
    exact Option.some_inj.trans (Json.ofOption_eq_null_iff Json.bool fun _ => nofun)
  · exact Json.read_write_bind (message.isExact_toJson values)
      (message.ofJson?_toJson values shallow)
  · rw [message.at?_parts.1, Json.blockPart_eq_none_iff]
  · rw [message.at?_parts.2, Option.map_eq_none_iff]
  · exact Json.read_write_bind user.isExact_toJson user.ofJson?_toJson
  · exact Option.some_inj.trans (Json.ofOption_eq_null_iff Json.str fun _ => nofun)
  · rw [← config.listed_entries]
    exact config.read_write_listed fit (List.Perm.refl _)
  · exact config.read_write_listed fit perm
  · rw [config.at?_filePath, Option.map_eq_none_iff]

/-- Blocks with a text of all kinds of characters and with the greatest integers, a message in a
thread, a user without a real name, and a log with its filters in another order. -/
theorem restored_from_text_block :
    let block : Json :=
      .obj [("a \"key\"\n", .arr [.int 18446744073709551615, .int (-9223372036854775808), .null]),
        ("b", .str "\\ \t \x01 ü 🦀"), ("c", .obj [])]
    let answer : Answer := ⟨"", [block, .bool true], ⟨none, some false⟩⟩
    let message : OutgoingMessage := ⟨"hi", [], some ⟨⟨"1.0"⟩, true⟩⟩
    let user : UserInfo := ⟨"U1", "ann", none⟩
    let config : Config := { Config.default with
      logging := { LoggingConfig.default with
        filters := .ofList [("reader", .warn), ("writer", .debug)] } }
    (Json.read answer.toJson.write).bind Answer.ofJson? = some answer ∧
      (Json.read message.toJson.write).bind OutgoingMessage.ofJson? = some message ∧
      (Json.read user.toJson.write).bind UserInfo.ofJson? = some user ∧
      (Json.read (config.listed [("writer", .debug), ("reader", .warn)]).write).bind
        Config.ofJson? = some config := by
  intro block answer message user config
  obtain ⟨answers, messages, users, configs⟩ := restored_from_text
  have block_sorted : block.IsSorted := by
    refine ⟨?_, ⟨trivial, trivial, trivial, trivial⟩, trivial, ⟨List.Pairwise.nil, trivial⟩,
      trivial⟩
    unfold Ascending
    decide
  have blocks : ∀ item ∈ answer.blocks, item.isExact = true ∧ item.IsSorted := by
    intro item among
    rcases List.mem_cons.mp among with rfl | later
    · exact ⟨by decide, block_sorted⟩
    · obtain rfl := List.mem_singleton.mp later
      exact ⟨rfl, trivial⟩
  exact ⟨(answers answer blocks (by decide)).1, (messages message nofun (by decide)).1,
    (users user).1, (configs config (by decide)).2.1 _ (by decide)⟩

end ChatBot
