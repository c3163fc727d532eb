import ChatBot.Proofs.Json.Record
import ChatBot.Wire

/-!
# Events in whatever order their members stand

An event is read from an object by the member that names its kind and by the members that the kind
has parts for, wherever they stand.  All else in the object has only to be readable and within the
depth limit.
-/

namespace ChatBot

/-! ## Changed messages -/

theorem Message.ofJson?_perm {members members' : List (String × Json)}
    (perm : members.Perm members') : ofJson? (.obj members) = ofJson? (.obj members') := by
  rw [ofJson?, ofJson?, Json.fields?_perm perm]

namespace MessageChange

/-- The tree of an edit: a message, given by its members, among other members. -/
def editTree (before after inner : List (String × Json)) : Json :=
  .obj [("message_changed", .obj (before ++ ("message", .obj inner) :: after))]

variable {before after inner inner' : List (String × Json)}

theorem isReadable_editTree (perm : inner.Perm inner') :
    (editTree before after inner).isReadable = (editTree before after inner').isReadable := by
  simp only [editTree, Json.isReadable, Json.haveReadableValues,
    Json.haveReadableValues_perm List.perm_middle, Json.haveReadableValues_perm perm]

theorem depth_editTree (perm : inner.Perm inner') :
    (editTree before after inner).depth = (editTree before after inner').depth := by
  simp only [editTree, Json.depth, Json.depthOfMembers, Json.depthOfMembers_perm List.perm_middle,
    Json.depthOfMembers_perm perm]

/-- A changed message is read from the part for the message, and from nothing else. -/
theorem exists_ofJson?_eq : ∃ ofParts : List (Option Json) → Option MessageChange,
    (∀ members, ofJson? (.obj [("message_changed", .obj members)]) =
      (Json.fields? ["message"] (.obj members)).bind ofParts) ∧
    ∀ part, ofParts [part] = (Json.required Message.ofJson? part).bind (some <| .changed ·) :=
  ⟨_, fun _ => rfl, fun _ => rfl⟩

theorem ofJson?_editTree (perm : inner.Perm inner') :
    ofJson? (editTree before after inner) = ofJson? (editTree before after inner') := by
  obtain ⟨ofParts, content_eq, message_eq⟩ := exists_ofJson?_eq
  rw [editTree, editTree, content_eq, content_eq, Json.fields?_perm List.perm_middle,
    Json.fields?_perm List.perm_middle, Json.fields?_obj_cons, Json.fields?_obj_cons]
  split
  · simp [message_eq, Json.required, Message.ofJson?_perm perm]
  · rfl

end MessageChange

/-- The members of an edited message may stand in any order. -/
theorem MessageEvent.ofJson?_editTree {inner inner' : List (String × Json)}
    (perm : inner.Perm inner') (before after rest : List (String × Json)) :
    ofJson? (.obj (("subtype", MessageChange.editTree before after inner) :: rest)) =
      ofJson? (.obj (("subtype", MessageChange.editTree before after inner') :: rest)) := by
  have change_eq :
      Json.nullable MessageChange.ofJson? (MessageChange.editTree before after inner) =
        Json.nullable MessageChange.ofJson? (MessageChange.editTree before after inner') :=
    congrArg (Option.map some) (MessageChange.ofJson?_editTree perm)
  simp only [ofJson?, Json.fields?_obj_cons]
  split
  · simp [Json.withDefault, change_eq]
  · rfl

namespace Event

/-! ## The kind of an event and its parts -/

/-- The names of the parts of the events of a kind. -/
def fieldNames (kind : String) : List String :=
  if kind = "message" then ["channel", "user", "text", "timestamp", "reply_to", "subtype"]
  else if kind = "latency_report" then ["latency_ms"]
  else if kind = "transport_error" then ["code", "message"]
  else []

/-- The member for the kind of an event is no part of it. -/
theorem type_notMem_fieldNames (kind : String) : "type" ∉ fieldNames kind := by
  unfold fieldNames
  split
  · decide
  · split
    · decide
    · split <;> decide

/-- The content of an event is read from the parts that its kind names, and from nothing else. -/
theorem exists_ofContent?_eq (kind : String) : ∃ ofParts : List (Option Json) → Option Event,
    ∀ content, ofContent? kind content = (content.fields? (fieldNames kind)).bind ofParts := by
  by_cases message : kind = "message"
  · subst message
    exact ⟨_, fun content => Option.map_bind⟩
  by_cases latency : kind = "latency_report"
  · subst latency
    exact ⟨_, fun content => rfl⟩
  by_cases error : kind = "transport_error"
  · subst error
    exact ⟨_, fun content => rfl⟩
  have nothing : fieldNames kind = [] := by simp [fieldNames, message, latency, error]
  rw [nothing]
  unfold ofContent?
  split
  · exact ⟨_, fun content => Option.map_eq_bind⟩
  · split
    · exact ⟨_, fun content => Option.map_eq_bind⟩
    · split
      · exact ⟨_, fun content => Option.map_eq_bind⟩
      · exact ⟨fun _ => none, fun content => (Option.bind_fun_none _).symm⟩

/-- The kind that the members of an object give: there is one member for it, and it is a text. -/
def kind? (members : List (String × Json)) : Option String :=
  match members.filter (·.1 = "type") with
  | [(_, .str kind)] => some kind
  | _ => none

/-- The members of an object besides those for its kind. -/
def others (members : List (String × Json)) : List (String × Json) :=
  members.filter (·.1 ≠ "type")

variable {members members' : List (String × Json)}

theorem splitKind?_obj (members : List (String × Json)) :
    splitKind? (.obj members) = (kind? members).map (·, .obj (others members)) := by
  rw [splitKind?, kind?, others]
  generalize members.filter (·.1 = "type") = kinds
  rcases kinds with _ | ⟨⟨name, value⟩, _ | ⟨second, rest⟩⟩
  · rfl
  · cases value <;> rfl
  · cases value <;> rfl

theorem kind?_eq_some_iff {kind : String} :
    kind? members = some kind ↔ members.filter (·.1 = "type") = [("type", .str kind)] := by
  constructor
  · intro given
    unfold kind? at given
    split at given
    · next name text found =>
        have kept : (name, Json.str text) ∈ members.filter (·.1 = "type") := by simp [found]
        obtain rfl : name = "type" := by simpa using (List.mem_filter.mp kept).2
        rw [found, Option.some.inj given]
    · cases given
  · intro found
    rw [kind?, found]

theorem kind?_perm (perm : members.Perm members') : kind? members = kind? members' := by
  have kinds := perm.filter (·.1 = "type")
  refine Option.ext fun kind => ?_
  rw [kind?_eq_some_iff, kind?_eq_some_iff]
  constructor
  · intro found
    rw [found] at kinds
    exact List.perm_singleton.mp kinds.symm
  · intro found
    rw [found] at kinds
    exact List.perm_singleton.mp kinds

theorem ofJson?_obj (members : List (String × Json)) :
    ofJson? (.obj members) =
      if Json.haveReadableValues members && Json.depthOfMembers members < Json.maxDepth then
        (kind? members).bind fun kind => ofContent? kind (.obj (others members))
      else none := by
  rw [ofJson?, splitKind?_obj, Json.isReadable, Json.depth]
  split
  · next dropped =>
      rw [Bool.not_eq_true'] at dropped
      exact (if_neg (Bool.eq_false_iff.mp dropped)).symm
  · next kept =>
      rw [Bool.not_eq_true', Bool.not_eq_false] at kept
      refine .trans ?_ (if_pos kept).symm
      cases kind? members <;> rfl

theorem ofJson?_perm (perm : members.Perm members') :
    ofJson? (.obj members) = ofJson? (.obj members') := by
  rw [ofJson?_obj, ofJson?_obj, Json.haveReadableValues_perm perm, Json.depthOfMembers_perm perm,
    kind?_perm perm]
  refine if_congr Iff.rfl (Option.bind_congr fun kind _ => ?_) rfl
  obtain ⟨ofParts, content_eq⟩ := exists_ofContent?_eq kind
  rw [content_eq, content_eq, others, others, Json.fields?_perm (perm.filter _)]

/-- A member with a name that nobody asks for makes no difference, wherever it stands. -/
theorem ofJson?_insert {before after : List (String × Json)} {key : String} {value : Json}
    (notKind : key ≠ "type")
    (unasked : ∀ kind, ("type", .str kind) ∈ before ++ after → key ∉ fieldNames kind)
    (readable : value.isReadable = true) (shallow : value.depth < Json.maxDepth) :
    ofJson? (.obj (before ++ (key, value) :: after)) = ofJson? (.obj (before ++ after)) := by
  rw [ofJson?_perm List.perm_middle, ofJson?_obj, ofJson?_obj]
  have kind_eq : kind? ((key, value) :: (before ++ after)) = kind? (before ++ after) := by
    simp [kind?, notKind]
  have others_eq : others ((key, value) :: (before ++ after)) =
      (key, value) :: others (before ++ after) := by
    simp [others, notKind]
  have readable_eq : Json.haveReadableValues ((key, value) :: (before ++ after)) =
      Json.haveReadableValues (before ++ after) := by
    rw [Json.haveReadableValues, readable, Bool.true_and]
  have depth_iff : Json.depthOfMembers ((key, value) :: (before ++ after)) < Json.maxDepth ↔
      Json.depthOfMembers (before ++ after) < Json.maxDepth := by
    rw [Json.depthOfMembers, Nat.max_lt, and_iff_right shallow]
  rw [kind_eq, others_eq, readable_eq, decide_eq_decide.mpr depth_iff]
  refine if_congr Iff.rfl (Option.bind_congr fun kind given => ?_) rfl
  obtain ⟨ofParts, content_eq⟩ := exists_ofContent?_eq kind
  have there : ("type", Json.str kind) ∈ before ++ after :=
    (List.mem_filter.mp (by rw [kind?_eq_some_iff.mp given]; exact List.mem_singleton_self _)).1
  rw [content_eq, content_eq, Json.fields?_cons_of_notMem (unasked kind there)]

/-- An event whose kind is given twice is none. -/
theorem ofJson?_of_repeated_kind (repeated : 2 ≤ members.countP (·.1 = "type")) :
    ofJson? (.obj members) = none := by
  rw [ofJson?_obj]
  have unknown : kind? members = none := by
    rw [Option.eq_none_iff_forall_ne_some]
    intro kind given
    rw [List.countP_eq_length_filter, kind?_eq_some_iff.mp given] at repeated
    exact absurd repeated (by simp)
  rw [unknown, Option.bind_none, ite_self]

/-- An event that has one of its parts twice is none. -/
theorem ofJson?_of_repeated_field {kind name : String} (given : ("type", .str kind) ∈ members)
    (asked : name ∈ fieldNames kind) (repeated : 2 ≤ members.countP (·.1 = name)) :
    ofJson? (.obj members) = none := by
  rw [ofJson?_obj]
  refine (congrArg (ite _ · none) ?_).trans (ite_self _)
  rw [Option.bind_eq_none_iff]
  intro kind' given'
  -- There is one member for the kind, so it is the one at hand.
  have kept : ("type", Json.str kind) ∈ members.filter (·.1 = "type") := by simp [given]
  rw [kind?_eq_some_iff.mp given', List.mem_singleton] at kept
  obtain ⟨-, same⟩ := Prod.mk.inj kept
  obtain rfl := Json.str.inj same
  obtain ⟨ofParts, content_eq⟩ := exists_ofContent?_eq kind
  have notKind : name ≠ "type" := fun same => type_notMem_fieldNames kind (same ▸ asked)
  have still : (others members).countP (·.1 = name) = members.countP (·.1 = name) := by
    rw [others, List.countP_filter]
    refine List.countP_congr fun member _ => ?_
    simp only [decide_eq_true_eq, Bool.and_eq_true]
    exact ⟨And.left, fun same => ⟨same, same ▸ notKind⟩⟩
  rw [content_eq, Json.fields?_of_repeated asked (still ▸ repeated), Option.bind_none]

/-- The members of an edited message may stand in any order. -/
theorem ofJson?_editTree {inner inner' : List (String × Json)} (perm : inner.Perm inner')
    (first last before after : List (String × Json)) :
    ofJson? (.obj (before ++ ("subtype", MessageChange.editTree first last inner) :: after)) =
      ofJson?
        (.obj (before ++ ("subtype", MessageChange.editTree first last inner') :: after)) := by
  rw [ofJson?_perm List.perm_middle, ofJson?_perm List.perm_middle, ofJson?_obj, ofJson?_obj]
  simp only [Json.haveReadableValues, Json.depthOfMembers, MessageChange.isReadable_editTree perm,
    MessageChange.depth_editTree perm]
  refine if_congr Iff.rfl ?_ rfl
  have kind_eq (inner : List (String × Json)) :
      kind? (("subtype", MessageChange.editTree first last inner) :: (before ++ after)) =
        kind? (before ++ after) := by
    simp [kind?]
  have others_eq (inner : List (String × Json)) :
      others (("subtype", MessageChange.editTree first last inner) :: (before ++ after)) =
        ("subtype", MessageChange.editTree first last inner) :: others (before ++ after) := by
    simp [others]
  rw [kind_eq, kind_eq, others_eq, others_eq]
  refine Option.bind_congr fun kind _ => ?_
  by_cases isMessage : kind = "message"
  · subst isMessage
    exact congrArg (Option.map message) (MessageEvent.ofJson?_editTree perm first last _)
  · -- No other kind has a part of that name.
    have unasked : "subtype" ∉ fieldNames kind := by
      unfold fieldNames
      rw [if_neg isMessage]
      split
      · decide
      · split <;> decide
    obtain ⟨ofParts, content_eq⟩ := exists_ofContent?_eq kind
    rw [content_eq, content_eq, Json.fields?_cons_of_notMem unasked,
      Json.fields?_cons_of_notMem unasked]

/-- What an event is read as from the members of an object does not depend on their order, nor on
that of the members of an edited message.  A member that is neither for the kind nor a part of the
events of that kind makes no difference, as long as it is readable and within the depth limit.
Where the kind or one of its parts is given twice, there is no event. -/
theorem orderless :
    (∀ {members members' : List (String × Json)}, members.Perm members' →
      ofJson? (.obj members) = ofJson? (.obj members')) ∧
    (∀ {inner inner' : List (String × Json)}, inner.Perm inner' → ∀ before after first last,
      ofJson? (.obj (before ++ ("subtype", MessageChange.editTree first last inner) :: after)) =
        ofJson? (.obj (before ++ ("subtype", MessageChange.editTree first last inner') :: after))) ∧
    (∀ {before after : List (String × Json)} {key : String} {value : Json}, key ≠ "type" →
      (∀ kind, ("type", .str kind) ∈ before ++ after → key ∉ fieldNames kind) →
      value.isReadable = true → value.depth < Json.maxDepth →
        ofJson? (.obj (before ++ (key, value) :: after)) = ofJson? (.obj (before ++ after))) ∧
    (∀ {members : List (String × Json)}, 2 ≤ members.countP (·.1 = "type") →
      ofJson? (.obj members) = none) ∧
    ∀ {members : List (String × Json)} {kind name : String}, ("type", .str kind) ∈ members →
      name ∈ fieldNames kind → 2 ≤ members.countP (·.1 = name) → ofJson? (.obj members) = none :=
  ⟨ofJson?_perm, fun perm before after first last => ofJson?_editTree perm first last before after,
    ofJson?_insert, ofJson?_of_repeated_kind, ofJson?_of_repeated_field⟩

/-- An edit whose kind is given in the third place: read backwards, with the edited message read
backwards, with one more member, with a second kind and with a second channel. -/
theorem orderless_edit :
    let edit := MessageChange.editTree [] [("note", .null)]
    let said := [("user", .str "ann"), ("text", .str "edited"), ("timestamp", .str "1.0")]
    let channel := [("channel", Json.str "general")]
    let after := [("type", Json.str "message"), ("timestamp", .str "2.0")]
    let members := channel ++ ("subtype", edit said) :: after
    let event := message
      ⟨"general", "", "", ⟨"2.0"⟩, 0, some (.changed ⟨"", "ann", "edited", ⟨"1.0"⟩⟩)⟩
    ofJson? (.obj members.reverse) = some event ∧
      ofJson? (.obj (channel ++ ("subtype", edit said.reverse) :: after)) = some event ∧
      ofJson? (.obj (members ++ [("team", .arr [.null])])) = some event ∧
      ofJson? (.obj (members ++ [("type", .str "message")])) = none ∧
      ofJson? (.obj (channel ++ members)) = none := by
  intro edit said channel after members event
  obtain ⟨permuted, inside, more, twice, again⟩ := orderless
  have plain : ofJson? (.obj members) = some event := by decide +kernel
  have unasked : ∀ kind, ("type", .str kind) ∈ members ++ [] → "team" ∉ fieldNames kind := by
    intro kind given
    obtain rfl : kind = "message" := by
      simpa [members, channel, after] using given
    decide
  have stated : ("type", Json.str "message") ∈ channel ++ members := by
    simp [members, channel, after]
  have asked : "channel" ∈ fieldNames "message" := by decide
  refine ⟨?_, ?_, ?_, twice (by decide +kernel), again stated asked (by decide +kernel)⟩
  · rw [permuted members.reverse_perm, plain]
  · rw [← plain]
    exact inside said.reverse_perm channel after [] [("note", .null)]
  · rw [more (by decide) unasked rfl (by decide), List.append_nil, plain]

end Event

end ChatBot
