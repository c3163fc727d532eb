import ChatBot.Config.Wrapped
import ChatBot.Proofs.Json.Overlay
import ChatBot.Toml.Document

/-!
# Keys of a TOML document

What a document is read as names each key of its tables once, and so does what is left of it when
wrapped values are taken out.  Tables under construction keep to that with every statement.
-/

namespace ChatBot

namespace Json

/-- What a reader takes from the start of a text, if it finds anything, is a good tree. -/
def Yields (good : Json → Prop) (result : Option (Json × List Char)) : Prop :=
  ∀ value rest, result = some (value, rest) → good value

namespace Yields

variable {good : Json → Prop}

theorem none : Yields good none := by
  intro value rest found
  cases found

theorem some {value : Json} (fine : good value) (rest : List Char) :
    Yields good (some (value, rest)) := by
  intro value' rest' found
  obtain ⟨rfl, -⟩ := Prod.mk.inj (Option.some.inj found)
  exact fine

theorem bind {α : Type} {first : Option α} {next : α → Option (Json × List Char)}
    (fine : ∀ part, first = Option.some part → Yields good (next part)) :
    Yields good (first.bind next) := by
  intro value rest found
  obtain ⟨part, read, found⟩ := Option.bind_eq_some_iff.mp found
  exact fine part read value rest found

theorem map {α : Type} {first : Option α} {next : α → Json × List Char}
    (fine : ∀ part, first = Option.some part → good (next part).1) :
    Yields good (first.map next) := by
  intro value rest found
  obtain ⟨part, read, same⟩ := Option.map_eq_some_iff.mp found
  have good_part := fine part read
  rw [same] at good_part
  exact good_part

theorem or {first second : Option (Json × List Char)} (fine : Yields good first)
    (fine' : Yields good second) : Yields good (first.or second) := by
  cases first with
  | none => exact fine'
  | some found => exact fine

end Yields

end Json

namespace Toml

open Json (NamesOnce Yields)

/-! ## Leaves -/

theorem namesOnce_integerLeaf? {n : Int} {leaf : Json} (made : integerLeaf? n = some leaf) :
    leaf.NamesOnce := by
  rw [integerLeaf?] at made
  split at made
  · obtain rfl := Option.some.inj made
    trivial
  · cases made

theorem namesOnce_decimalLeaf? {negative : Bool} {digits : List Char} {exponent : Int}
    {leaf : Json} (made : decimalLeaf? negative digits exponent = some leaf) : leaf.NamesOnce := by
  simp only [decimalLeaf?] at made
  split at made
  · obtain rfl := Option.some.inj made
    trivial
  · split at made
    · obtain rfl := Option.some.inj made
      trivial
    · cases made

theorem yields_integerInBase? (base : Nat) (text : List Char) :
    Yields NamesOnce (integerInBase? base text) :=
  .bind fun _ _ => .bind fun _ made => .some (namesOnce_integerLeaf? made) _

theorem yields_magnitude? (negative : Bool) (text : List Char) :
    Yields NamesOnce (magnitude? negative text) := by
  have whole (digits rest : List Char) :
      Yields NamesOnce (magnitude?.integerOf negative digits rest) :=
    .bind fun _ made => .some (namesOnce_integerLeaf? made) _
  have decimal (digits : List Char) (exponent : Int) (rest : List Char) :
      Yields NamesOnce
        ((decimalLeaf? negative digits exponent).bind fun leaf => some (leaf, rest)) :=
    .bind fun _ made => .some (namesOnce_decimalLeaf? made) _
  refine .bind fun ⟨digits, rest⟩ _ => ?_
  dsimp only
  split
  · refine .bind fun ⟨fraction, rest⟩ _ => ?_
    dsimp only
    split
    · split
      · exact .bind fun _ _ => decimal _ _ _
      · exact decimal _ _ _
    · exact decimal _ _ _
  · split
    · exact .bind fun _ _ => decimal _ _ _
    · exact whole _ _
  · exact whole _ _

theorem yields_specialNumber? (text : List Char) : Yields NamesOnce (specialNumber? text) := by
  unfold specialNumber?
  split
  · exact .some trivial _
  · exact .some trivial _
  · exact .none

theorem yields_number? (text : List Char) : Yields NamesOnce (number? text) := by
  unfold number?
  split
  · exact yields_integerInBase? 16 _
  · exact yields_integerInBase? 8 _
  · exact yields_integerInBase? 2 _
  · exact .or (yields_specialNumber? _) (yields_magnitude? _ _)
  · exact .or (yields_specialNumber? _) (yields_magnitude? _ _)
  · exact .or (yields_specialNumber? _) (yields_magnitude? _ _)

theorem yields_dateTime? (text : List Char) : Yields NamesOnce (dateTime? text) :=
  .bind fun _ _ => .some ⟨List.nodup_singleton _, trivial, trivial⟩ _

/-! ## Tables under construction -/

namespace Entries

/-- Entries name their keys once, as the members of an object. -/
def NamesOnce (entries : Entries) : Prop :=
  (Json.obj (membersOf entries)).NamesOnce

theorem membersOf_set (entries : Entries) (name : String) (node : Node) :
    membersOf (entries.set name node) = Json.setMember name node.toJson (membersOf entries) := by
  induction entries with
  | nil => rfl
  | cons entry rest ih =>
      obtain ⟨other, old⟩ := entry
      simp only [set, membersOf, Json.setMember]
      split
      · rfl
      · rw [membersOf, ih]

theorem lookup_membersOf (entries : Entries) (name : String) :
    (membersOf entries).lookup name = (entries.lookup name).map Node.toJson := by
  induction entries with
  | nil => rfl
  | cons entry rest ih =>
      obtain ⟨other, node⟩ := entry
      rw [membersOf, List.lookup_cons, List.lookup_cons, ih]
      split <;> rfl

variable {entries : Entries} {name : String} {node : Node}

theorem NamesOnce.set (once : entries.NamesOnce) (node_once : node.toJson.NamesOnce) :
    (entries.set name node).NamesOnce := by
  rw [NamesOnce, membersOf_set]
  exact Json.namesOnce_setMember once node_once

theorem NamesOnce.of_lookup (once : entries.NamesOnce) (found : entries.lookup name = some node) :
    node.toJson.NamesOnce :=
  Json.NamesOnce.of_lookup once (by rw [lookup_membersOf, found]; rfl)

/-- A change of one table keeps the keys of all others distinct. -/
theorem NamesOnce.within {byKey : Bool} {change : Origin → Entries → Option Entries}
    (kept : ∀ {origin inner changed}, change origin inner = some changed →
      Entries.NamesOnce inner → Entries.NamesOnce changed)
    {path : List String} {origin : Origin} {entries changed : Entries}
    (done : entries.within byKey change path origin = some changed)
    (once : entries.NamesOnce) : changed.NamesOnce := by
  induction path generalizing origin entries changed with
  | nil => exact kept done once
  | cons name path ih =>
      rw [Entries.within] at done
      split at done
      · obtain ⟨inner, made, same⟩ := Option.bind_eq_some_iff.mp done
        obtain rfl := Option.some.inj same
        exact once.set (ih made Json.namesOnce_obj_nil)
      · cases done
      · next origin inner found =>
          split at done
          · cases done
          · obtain ⟨inner', made, same⟩ := Option.bind_eq_some_iff.mp done
            obtain rfl := Option.some.inj same
            exact once.set (ih made (once.of_lookup found))
      · next earlier last found =>
          obtain ⟨last', made, same⟩ := Option.bind_eq_some_iff.mp done
          obtain rfl := Option.some.inj same
          exact once.set trivial

variable {path : List String} {changed : Entries}

theorem NamesOnce.addPair {value : Json} (value_once : value.NamesOnce)
    (done : entries.addPair path name value = some changed) (once : entries.NamesOnce) :
    changed.NamesOnce := by
  refine NamesOnce.within (fun {origin inner changed} made inner_once => ?_) done once
  split at made
  · split at made
    · obtain rfl := Option.some.inj made
      exact inner_once.set value_once
    · cases made
  · cases made

theorem NamesOnce.addTable (done : entries.addTable path name = some changed)
    (once : entries.NamesOnce) : changed.NamesOnce := by
  refine NamesOnce.within (fun {origin inner changed} made inner_once => ?_) done once
  split at made
  · obtain rfl := Option.some.inj made
    exact inner_once.set Json.namesOnce_obj_nil
  · next old found =>
      obtain rfl := Option.some.inj made
      have old_once := inner_once.of_lookup found
      exact inner_once.set old_once
  · cases made

theorem NamesOnce.addElement (done : entries.addElement path name = some changed)
    (once : entries.NamesOnce) : changed.NamesOnce := by
  refine NamesOnce.within (fun {origin inner changed} made inner_once => ?_) done once
  split at made
  · obtain rfl := Option.some.inj made
    exact inner_once.set trivial
  · obtain rfl := Option.some.inj made
    exact inner_once.set trivial
  · cases made

end Entries

/-! ## Values -/

theorem foldlM_keeps {α β : Type} {step : β → α → Option β} (keeps : β → Prop) {items : List α}
    (kept : ∀ item ∈ items, ∀ before after, step before item = some after →
      keeps before → keeps after)
    {start last : β} (done : items.foldlM step start = some last) (begun : keeps start) :
    keeps last := by
  induction items generalizing start with
  | nil =>
      obtain rfl := Option.some.inj done
      exact begun
  | cons item rest ih =>
      obtain ⟨first, others⟩ := List.forall_mem_cons.mp kept
      rw [List.foldlM_cons] at done
      obtain ⟨next, taken, done⟩ := Option.bind_eq_some_iff.mp done
      exact ih others done (first start next taken begun)

theorem namesOnce_inlineTable? {pairs : List Pair} {table : Json}
    (once : ∀ pair ∈ pairs, pair.value.NamesOnce) (made : inlineTable? pairs = some table) :
    table.NamesOnce := by
  obtain ⟨entries, done, same⟩ := Option.bind_eq_some_iff.mp made
  obtain rfl := Option.some.inj same
  exact foldlM_keeps Entries.NamesOnce
    (fun pair among _ _ added before => before.addPair (once pair among) added) done
    Json.namesOnce_obj_nil

/-- What is read with so much fuel names its keys once: values, and those of pairs. -/
structure ReadsOnce (fuel : Nat) : Prop where
  value : ∀ depth text, Yields NamesOnce (value? fuel depth text)
  pairs : ∀ {depth text pairs rest}, pairs? fuel depth text = some (pairs, rest) →
    ∀ pair ∈ pairs, pair.value.NamesOnce

theorem readsOnce (fuel : Nat) : ReadsOnce fuel := by
  induction fuel with
  | zero =>
      refine ⟨fun depth text => ?_, fun found => ?_⟩
      · rw [value?]
        exact .none
      · rw [pairs?] at found
        cases found
  | succ fuel ih =>
      refine ⟨fun depth text => ?_, fun {depth text pairs rest} found => ?_⟩
      · unfold value?
        split
        · split
          · exact .none
          · exact .bind fun _ _ => .some trivial _
        · split
          · exact .none
          · split
            · exact .some Json.namesOnce_obj_nil _
            · exact .bind fun _ read => .bind fun _ made =>
                .some (namesOnce_inlineTable? (ih.pairs read) made) _
        · exact .map fun _ _ => trivial
        · exact .map fun _ _ => trivial
        · exact .some trivial _
        · exact .some trivial _
        · exact .or (yields_dateTime? _) (yields_number? _)
      · rw [pairs?] at found
        obtain ⟨⟨key, afterKey⟩, -, found⟩ := Option.bind_eq_some_iff.mp found
        obtain ⟨afterSign, -, found⟩ := Option.bind_eq_some_iff.mp found
        obtain ⟨⟨value, afterValue⟩, read, found⟩ := Option.bind_eq_some_iff.mp found
        have once : value.NamesOnce := ih.value _ _ value afterValue read
        dsimp only at found
        split at found
        · obtain ⟨⟨others, afterPairs⟩, more, same⟩ := Option.bind_eq_some_iff.mp found
          obtain ⟨rfl, rfl⟩ := Prod.mk.inj (Option.some.inj same)
          exact List.forall_mem_cons.mpr ⟨once, ih.pairs more⟩
        · obtain ⟨rfl, rfl⟩ := Prod.mk.inj (Option.some.inj found)
          exact List.forall_mem_singleton.mpr once
        · cases found

/-! ## Documents -/

namespace Statement

/-- A statement adds no value that names a key twice. -/
def NamesOnce : Statement → Prop
  | .table _ | .element _ => True
  | .pair added => added.value.NamesOnce

end Statement

theorem namesOnce_statement? {text rest : List Char} {statement : Statement}
    (read : statement? text = some (statement, rest)) : statement.NamesOnce := by
  unfold statement? at read
  split at read
  · obtain ⟨⟨key, after⟩, -, read⟩ := Option.bind_eq_some_iff.mp read
    dsimp only at read
    split at read
    · obtain ⟨after, -, same⟩ := Option.bind_eq_some_iff.mp read
      obtain ⟨rfl, -⟩ := Prod.mk.inj (Option.some.inj same)
      trivial
    · cases read
  · obtain ⟨⟨key, after⟩, -, read⟩ := Option.bind_eq_some_iff.mp read
    dsimp only at read
    split at read
    · obtain ⟨after, -, same⟩ := Option.bind_eq_some_iff.mp read
      obtain ⟨rfl, -⟩ := Prod.mk.inj (Option.some.inj same)
      trivial
    · cases read
  · obtain ⟨⟨key, after⟩, -, read⟩ := Option.bind_eq_some_iff.mp read
    obtain ⟨afterSign, -, read⟩ := Option.bind_eq_some_iff.mp read
    obtain ⟨⟨value, afterValue⟩, found, read⟩ := Option.bind_eq_some_iff.mp read
    obtain ⟨after, -, same⟩ := Option.bind_eq_some_iff.mp read
    obtain ⟨rfl, -⟩ := Prod.mk.inj (Option.some.inj same)
    exact (readsOnce _).value _ _ value afterValue found

theorem namesOnce_statements? {fuel : Nat} {text : List Char} {statements : List Statement}
    (read : statements? fuel text = some statements) :
    ∀ statement ∈ statements, statement.NamesOnce := by
  induction fuel generalizing text statements with
  | zero => cases read
  | succ fuel ih =>
      rw [statements?] at read
      obtain ⟨rest, -, read⟩ := Option.bind_eq_some_iff.mp read
      dsimp only at read
      split at read
      · obtain rfl := Option.some.inj read
        exact List.forall_mem_nil _
      · obtain ⟨⟨statement, after⟩, first, read⟩ := Option.bind_eq_some_iff.mp read
        obtain ⟨others, more, same⟩ := Option.bind_eq_some_iff.mp read
        obtain rfl := Option.some.inj same
        exact List.forall_mem_cons.mpr ⟨namesOnce_statement? first, ih more⟩

theorem namesOnce_add {draft after : Draft} {statement : Statement}
    (fine : statement.NamesOnce) (added : draft.add statement = some after)
    (once : draft.entries.NamesOnce) : after.entries.NamesOnce := by
  cases statement with
  | table key =>
      obtain ⟨entries, made, same⟩ := Option.bind_eq_some_iff.mp added
      obtain rfl := Option.some.inj same
      exact once.addTable made
  | element key =>
      obtain ⟨entries, made, same⟩ := Option.bind_eq_some_iff.mp added
      obtain rfl := Option.some.inj same
      exact once.addElement made
  | pair pair =>
      obtain ⟨entries, made, same⟩ := Option.bind_eq_some_iff.mp added
      obtain rfl := Option.some.inj same
      exact .within (fun inner_made inner_once => inner_once.addPair fine inner_made) made once

/-- A document that can be read names each key of its tables once. -/
theorem namesOnce_read {text : String} {tree : Json} (found : read text = some tree) :
    tree.NamesOnce := by
  obtain ⟨statements, parsed, found⟩ := Option.bind_eq_some_iff.mp found
  obtain ⟨draft, built, same⟩ := Option.bind_eq_some_iff.mp found
  obtain rfl := Option.some.inj same
  exact foldlM_keeps (fun draft => draft.entries.NamesOnce)
    (fun statement among _ _ added before =>
      namesOnce_add (namesOnce_statements? parsed statement among) added before)
    built Json.namesOnce_obj_nil

end Toml

/-! ## Wrapped values -/

namespace Wrapped

theorem map_fst_unwrapMembers? {members unwrapped : List (String × Json)}
    (found : unwrapMembers? members = some unwrapped) :
    unwrapped.map Prod.fst = members.map Prod.fst := by
  induction members generalizing unwrapped with
  | nil =>
      obtain rfl := Option.some.inj found
      rfl
  | cons member rest ih =>
      obtain ⟨key, value⟩ := member
      rw [unwrapMembers?] at found
      obtain ⟨value', -, found⟩ := Option.bind_eq_some_iff.mp found
      obtain ⟨rest', others, same⟩ := Option.bind_eq_some_iff.mp found
      obtain rfl := Option.some.inj same
      rw [List.map_cons, List.map_cons, ih others]

mutual

theorem namesOnce_unwrap? : ∀ {json unwrapped : Json}, json.NamesOnce →
    unwrap? json = some unwrapped → unwrapped.NamesOnce
  | .obj members, unwrapped, ⟨distinct, values⟩, found => by
      obtain ⟨inner, all, found⟩ := Option.bind_eq_some_iff.mp found
      have once : (Json.obj inner).NamesOnce :=
        ⟨map_fst_unwrapMembers? all ▸ distinct, haveNamesOnce_unwrapMembers? values all⟩
      unfold ofMembers? at found
      split at found
      · cases found
      · next value _ inside =>
          obtain rfl := Option.some.inj found
          exact once.of_lookup inside
      · obtain rfl := Option.some.inj found
        exact once
  | .arr items, unwrapped, _, found => by
      obtain ⟨inner, -, rfl⟩ := Option.map_eq_some_iff.mp found
      trivial
  | .null, _, once, found | .bool _, _, once, found | .int _, _, once, found
  | .decimal _ _, _, once, found | .str _, _, once, found | .unreadable, _, once, found => by
      obtain rfl := Option.some.inj found
      exact once

theorem haveNamesOnce_unwrapMembers? : ∀ {members unwrapped : List (String × Json)},
    Json.HaveNamesOnce members → unwrapMembers? members = some unwrapped →
      Json.HaveNamesOnce unwrapped
  | [], _, _, found => by
      obtain rfl := Option.some.inj found
      trivial
  | (key, value) :: rest, _, ⟨once, others⟩, found => by
      rw [unwrapMembers?] at found
      obtain ⟨value', first, found⟩ := Option.bind_eq_some_iff.mp found
      obtain ⟨rest', more, same⟩ := Option.bind_eq_some_iff.mp found
      obtain rfl := Option.some.inj same
      exact ⟨namesOnce_unwrap? once first, haveNamesOnce_unwrapMembers? others more⟩

end

/-- Settings without wrapped values name each key once if the tree around them does. -/
theorem namesOnce_settings? {json settings : Json} (once : json.NamesOnce)
    (found : settings? json = some settings) : settings.NamesOnce := by
  cases json with
  | obj members =>
      obtain ⟨inner, all, rfl⟩ := Option.map_eq_some_iff.mp found
      exact ⟨map_fst_unwrapMembers? all ▸ once.1, haveNamesOnce_unwrapMembers? once.2 all⟩
  | _ => cases found

end Wrapped

end ChatBot
