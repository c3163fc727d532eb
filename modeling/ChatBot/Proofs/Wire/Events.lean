import ChatBot.Proofs.Json.Record
import ChatBot.Proofs.Json.RoundTrip
import ChatBot.Wire

/-!
# Events as they were written

What is decoded from the JSON form of a message, of a change or of an event is what was encoded.
The text of an event is the text of its tree, so an event is read back from its text, and no two
events share one.
-/

namespace ChatBot

namespace Json

theorem nat64?_toNat (n : UInt64) : nat64? (int n.toNat) = some n.toNat := by
  have bound := n.toNat_lt
  rw [nat64?, intWithin?_int (by omega) (by omega)]
  rfl

theorem int32?_toInt (n : Int32) : int32? (int n.toInt) = some n.toInt :=
  intWithin?_int n.le_toInt (by have := n.toInt_lt; omega)

end Json

namespace Message

theorem ofJson?_toJson (message : Message) : ofJson? message.toJson = some message := by
  rw [ofJson?, toJson, Json.fields?_obj (by simp)]
  simp [List.lookup_cons, Json.withDefault, Json.required, Json.text?, Timestamp.toJson,
    Timestamp.ofJson?]

end Message

namespace MessageChange

theorem ofJson?_toJson (change : MessageChange) : ofJson? change.toJson = some change := by
  cases change with
  | changed message =>
      simp [ofJson?, toJson, Json.taggedChoice?, Json.fields?_obj, List.lookup_cons, Json.required,
        Message.ofJson?_toJson]
  | deleted timestamp =>
      simp [ofJson?, toJson, Json.taggedChoice?, Json.fields?_obj, List.lookup_cons, Json.required,
        Timestamp.toJson, Timestamp.ofJson?, Json.text?]

/-- A change is not written as nothing. -/
theorem nullable_toJson (change : MessageChange) :
    Json.nullable ofJson? change.toJson = some (some change) := by
  cases change with
  | changed message => exact congrArg (Option.map some) (ofJson?_toJson (.changed message))
  | deleted timestamp => exact congrArg (Option.map some) (ofJson?_toJson (.deleted timestamp))

end MessageChange

namespace MessageEvent

theorem ofJson?_toMembers (event : MessageEvent) : ofJson? (.obj event.toMembers) = some event := by
  obtain ⟨channel, user, text, timestamp, replyTo, change⟩ := event
  cases change with
  | none =>
      rw [ofJson?, toMembers, Json.fields?_obj (by simp)]
      simp [List.lookup_cons, Json.withDefault, Json.text?, Timestamp.toJson, Timestamp.ofJson?,
        Json.nat64?_toNat]
  | some change =>
      rw [ofJson?, toMembers, Json.fields?_obj (by simp)]
      simp [List.lookup_cons, Json.withDefault, Json.text?, Timestamp.toJson, Timestamp.ofJson?,
        Json.nat64?_toNat, MessageChange.nullable_toJson]

end MessageEvent

namespace Event

theorem ofContent?_toMembers (event : Event) :
    ofContent? event.name (.obj event.toMembers) = some event := by
  cases event with
  | connected => simp [ofContent?, name, toMembers, Json.fields?_obj]
  | message event =>
      simp [ofContent?, name, toMembers, MessageEvent.ofJson?_toMembers]
  | latencyReport milliseconds =>
      simp [ofContent?, name, toMembers, Json.fields?_obj, List.lookup_cons, Json.required,
        Json.nat64?_toNat]
  | transportError code text =>
      simp [ofContent?, name, toMembers, Json.fields?_obj, List.lookup_cons, Json.required,
        Json.int32?_toInt, Json.text?]
  | invalidCredentials => simp [ofContent?, name, toMembers, Json.fields?_obj]
  | termination => simp [ofContent?, name, toMembers, Json.fields?_obj]

/-- No event has a member of its own that is called like the member for its kind. -/
theorem type_notMem_toMembers (event : Event) : "type" ∉ event.toMembers.map Prod.fst := by
  cases event with
  | message event =>
      obtain ⟨channel, user, text, timestamp, replyTo, change⟩ := event
      cases change <;> simp [toMembers, MessageEvent.toMembers]
  | connected => simp [toMembers]
  | latencyReport milliseconds => simp [toMembers]
  | transportError code text => simp [toMembers]
  | invalidCredentials => simp [toMembers]
  | termination => simp [toMembers]

theorem splitKind?_toJson (event : Event) :
    splitKind? event.toJson = some (event.name, .obj event.toMembers) := by
  have other : ∀ member ∈ event.toMembers, member.1 ≠ "type" := by
    intro member among same
    exact type_notMem_toMembers event (List.mem_map.mpr ⟨member, among, same⟩)
  have kinds : event.toMembers.filter (·.1 = "type") = [] := by
    rw [List.filter_eq_nil_iff]
    exact fun member among => by simpa using other member among
  have rest : event.toMembers.filter (·.1 ≠ "type") = event.toMembers := by
    rw [List.filter_eq_self]
    exact fun member among => decide_eq_true (other member among)
  simp only [splitKind?, toJson, List.filter_cons, kinds, rest]
  rfl

theorem isExact_toJson (event : Event) : event.toJson.isExact = true := by
  cases event with
  | message event =>
      obtain ⟨channel, user, text, timestamp, replyTo, change⟩ := event
      rcases change with _ | message | timestamp
      all_goals
        simp [toJson, toMembers, MessageEvent.toMembers, MessageChange.toJson, Message.toJson,
          Timestamp.toJson, Json.isExact, Json.haveExactValues, Json.inIntRange_toNat]
  | connected => rfl
  | latencyReport milliseconds =>
      simp [toJson, toMembers, Json.isExact, Json.haveExactValues, Json.inIntRange_toNat]
  | transportError code text =>
      simp [toJson, toMembers, Json.isExact, Json.haveExactValues, Json.inIntRange_toInt]
  | invalidCredentials => rfl
  | termination => rfl

theorem depth_toJson_le (event : Event) : event.toJson.depth ≤ 4 := by
  cases event with
  | message event =>
      obtain ⟨channel, user, text, timestamp, replyTo, change⟩ := event
      rcases change with _ | message | timestamp
      all_goals
        simp [toJson, toMembers, MessageEvent.toMembers, MessageChange.toJson, Message.toJson,
          Timestamp.toJson, Json.depth, Json.depthOfMembers]
  | connected => decide
  | latencyReport milliseconds => simp [toJson, toMembers, Json.depth, Json.depthOfMembers]
  | transportError code text => simp [toJson, toMembers, Json.depth, Json.depthOfMembers]
  | invalidCredentials => decide
  | termination => decide

theorem ofJson?_toJson (event : Event) : ofJson? event.toJson = some event := by
  have readable : event.toJson.isReadable = true := Json.isReadable_of_isExact event.isExact_toJson
  have shallow : event.toJson.depth ≤ Json.maxDepth :=
    Nat.le_trans event.depth_toJson_le (by decide)
  simp [ofJson?, readable, shallow, splitKind?_toJson, ofContent?_toMembers]

/-- Whatever an event says, reading the text that it is written as gives the event again.  So two
events that are written alike are the same. -/
theorem wire_roundTrip :
    (∀ event : Event, read event.write = some event) ∧ Function.Injective write := by
  have readBack (event : Event) : read event.write = some event := by
    rw [read, write, Json.read_write event.isExact_toJson]
    exact event.ofJson?_toJson
  refine ⟨readBack, fun first second same => ?_⟩
  have both : some first = some second := by rw [← readBack first, same, readBack]
  exact Option.some.inj both

end Event

end ChatBot
