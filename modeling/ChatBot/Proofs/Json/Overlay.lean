import ChatBot.Json.Overlay
import ChatBot.Proofs.Table.Lookup
import Mathlib.Data.List.Induction

/-!
# What layered trees say

Where each of several layers names the members of its objects once, what they say together can be
read off member by member: at every path stands what the highest layer says that sets the path.
A layer sets a path if something stands there, or if something other than an object stands on the
way and so takes the place of whatever the layers below have there.
-/

namespace ChatBot

namespace Json

/-! ## Trees that name their members once -/

mutual

/-- A tree names each member of its objects once, as far as other objects lead to them. -/
def NamesOnce : Json → Prop
  | obj members => (members.map Prod.fst).Nodup ∧ HaveNamesOnce members
  | _ => True

def HaveNamesOnce : List (String × Json) → Prop
  | [] => True
  | (_, value) :: rest => NamesOnce value ∧ HaveNamesOnce rest

end

theorem haveNamesOnce_iff {members : List (String × Json)} :
    HaveNamesOnce members ↔ ∀ member ∈ members, member.2.NamesOnce := by
  induction members with
  | nil => simp [HaveNamesOnce]
  | cons member rest ih =>
      obtain ⟨name, value⟩ := member
      rw [HaveNamesOnce, ih, List.forall_mem_cons]

theorem namesOnce_obj_nil : (obj []).NamesOnce :=
  ⟨List.nodup_nil, trivial⟩

section SetMember

variable {name : String} {value : Json} {members : List (String × Json)}

theorem lookup_setMember_self : (setMember name value members).lookup name = some value := by
  induction members with
  | nil => exact List.lookup_cons_self
  | cons member rest ih =>
      obtain ⟨first, old⟩ := member
      rw [setMember]
      split
      · exact List.lookup_cons_self
      · next different => rw [lookup_cons_of_ne (Ne.symm different), ih]

theorem lookup_setMember_of_ne {other : String} (apart : other ≠ name) :
    (setMember name value members).lookup other = members.lookup other := by
  induction members with
  | nil => exact lookup_cons_of_ne apart value []
  | cons member rest ih =>
      obtain ⟨first, old⟩ := member
      rw [setMember]
      split
      · next same =>
          subst same
          rw [lookup_cons_of_ne apart, lookup_cons_of_ne apart]
      · rw [List.lookup_cons, List.lookup_cons, ih]

theorem mem_setMember {member : String × Json} (among : member ∈ setMember name value members) :
    member = (name, value) ∨ member ∈ members := by
  induction members with
  | nil => exact Or.inl (List.mem_singleton.mp among)
  | cons first rest ih =>
      obtain ⟨other, old⟩ := first
      rw [setMember] at among
      split at among
      · rcases List.mem_cons.mp among with same | later
        · exact Or.inl same
        · exact Or.inr (List.mem_cons_of_mem _ later)
      · rcases List.mem_cons.mp among with rfl | later
        · exact Or.inr List.mem_cons_self
        · exact (ih later).imp_right (List.mem_cons_of_mem _)

theorem nodup_setMember (distinct : (members.map Prod.fst).Nodup) :
    ((setMember name value members).map Prod.fst).Nodup := by
  induction members with
  | nil => simp [setMember]
  | cons first rest ih =>
      obtain ⟨other, old⟩ := first
      obtain ⟨absent, distinct⟩ := List.nodup_cons.mp distinct
      rw [setMember]
      split
      · next same =>
          subst same
          exact List.nodup_cons.mpr ⟨absent, distinct⟩
      · next different =>
          refine List.nodup_cons.mpr ⟨fun among => ?_, ih distinct⟩
          obtain ⟨member, inside, same⟩ := List.mem_map.mp among
          rcases mem_setMember inside with rfl | there
          · exact different same.symm
          · exact absent (same ▸ List.mem_map_of_mem there)

theorem namesOnce_setMember (before : (obj members).NamesOnce) (once : value.NamesOnce) :
    (obj (setMember name value members)).NamesOnce := by
  obtain ⟨distinct, values⟩ := before
  refine ⟨nodup_setMember distinct, haveNamesOnce_iff.mpr fun member among => ?_⟩
  rcases mem_setMember among with rfl | there
  · exact once
  · exact haveNamesOnce_iff.mp values member there

end SetMember

theorem NamesOnce.of_lookup {members : List (String × Json)} (once : (obj members).NamesOnce)
    {name : String} {value : Json} (found : members.lookup name = some value) :
    value.NamesOnce := by
  obtain ⟨before, after, rfl, -⟩ := List.lookup_eq_some_iff.mp found
  exact haveNamesOnce_iff.mp once.2 (name, value) (by simp)

mutual

theorem namesOnce_overlay {below : Json} (once : below.NamesOnce) :
    ∀ {upper : Json}, upper.NamesOnce → (overlay below upper).NamesOnce
  | obj members, upper_once => by
      cases below with
      | obj lower => exact namesOnce_overlayMembers once upper_once.2
      | _ => exact upper_once
  | null, upper_once | bool _, upper_once | int _, upper_once | decimal _ _, upper_once
  | str _, upper_once | arr _, upper_once | unreadable, upper_once => upper_once

theorem namesOnce_overlayMembers {lower : List (String × Json)} (once : (obj lower).NamesOnce) :
    ∀ {members : List (String × Json)}, HaveNamesOnce members →
      (obj (overlayMembers lower members)).NamesOnce
  | [], _ => once
  | (name, value) :: rest, ⟨value_once, rest_once⟩ => by
      rw [overlayMembers]
      cases found : lower.lookup name with
      | some old =>
          have merged := namesOnce_overlay (once.of_lookup found) value_once
          exact namesOnce_overlayMembers (namesOnce_setMember once merged) rest_once
      | none => exact namesOnce_overlayMembers (namesOnce_setMember once value_once) rest_once

end

theorem namesOnce_overlayAll {layers : List Json} (once : ∀ layer ∈ layers, layer.NamesOnce) :
    (overlayAll layers).NamesOnce := by
  suffices growing : ∀ (below : Json), below.NamesOnce → (layers.foldl overlay below).NamesOnce from
    growing _ namesOnce_obj_nil
  induction layers with
  | nil => exact fun below below_once => below_once
  | cons layer rest ih =>
      obtain ⟨first, others⟩ := List.forall_mem_cons.mp once
      exact fun below below_once => ih others _ (namesOnce_overlay below_once first)

/-! ## What stands at a path -/

/-- What stands at the end of a path of member names. -/
def at? : List String → Json → Option Json
  | [], json => some json
  | name :: path, obj members => (members.lookup name).bind (at? path)
  | _ :: _, _ => none

def isTable : Json → Bool
  | obj _ => true
  | _ => false

/-- What stands at the end of a path, unless that is an object. -/
def plainAt? (path : List String) (json : Json) : Option Json :=
  (json.at? path).filter (!·.isTable)

/-- Whether something stands at the end of a path, or something other than an object on the
way. -/
def sets : List String → Json → Bool
  | [], _ => true
  | name :: path, obj members => (members.lookup name).any (sets path)
  | _ :: _, _ => true

theorem sets_of_at? {path : List String} {json value : Json} (stands : json.at? path = some value) :
    json.sets path = true := by
  induction path generalizing json with
  | nil => rfl
  | cons name path ih =>
      cases json with
      | obj members =>
          obtain ⟨inner, found, stands⟩ := Option.bind_eq_some_iff.mp stands
          simp only [sets, found, Option.any_some, ih stands]
      | _ => rfl

theorem plainAt?_eq_none {path : List String} {json : Json} (unset : json.sets path = false) :
    json.plainAt? path = none := by
  cases stands : json.at? path with
  | none => rw [plainAt?, stands, Option.filter_none]
  | some value =>
      rw [sets_of_at? stands] at unset
      cases unset

/-- Below a tree that says nothing at a path, what is said there is said by the tree over it. -/
theorem eq_plainAt?_of_none {path : List String} {upper : Json} {below : Option Json}
    (nothing : below = none) :
    upper.plainAt? path = if upper.sets path then upper.plainAt? path else below := by
  split
  · rfl
  · next unset => rw [nothing, plainAt?_eq_none (Bool.eq_false_iff.mpr unset)]

theorem plainAt?_cons_obj {name : String} {path : List String} {members : List (String × Json)} :
    (obj members).plainAt? (name :: path) =
      (members.lookup name).bind fun value => value.plainAt? path := by
  rw [plainAt?, at?]
  cases members.lookup name with
  | none => rfl
  | some value => rfl

/-- Members over others: what is named on both sides is laid over one another, and all else
stays. -/
theorem lookup_overlayMembers {lower upper : List (String × Json)}
    (distinct : (upper.map Prod.fst).Nodup) (name : String) :
    (overlayMembers lower upper).lookup name =
      match upper.lookup name with
      | none => lower.lookup name
      | some value => some ((lower.lookup name).elim value (overlay · value)) := by
  induction upper generalizing lower with
  | nil => rfl
  | cons member rest ih =>
      obtain ⟨first, value⟩ := member
      obtain ⟨absent, distinct⟩ := List.nodup_cons.mp distinct
      have step : overlayMembers lower ((first, value) :: rest) =
          overlayMembers
            (setMember first ((lower.lookup first).elim value (overlay · value)) lower) rest := by
        rw [overlayMembers]
        cases lower.lookup first <;> rfl
      rw [step, ih distinct]
      by_cases same : name = first
      · subst same
        have later : rest.lookup name = none :=
          List.lookup_eq_none_iff.mpr fun other among => bne_iff_ne.mpr fun same =>
            absent (List.mem_map.mpr ⟨other, among, same.symm⟩)
        rw [later, lookup_setMember_self, List.lookup_cons_self]
      · rw [lookup_cons_of_ne same, lookup_setMember_of_ne same]

/-- A layer over a tree says what stands at the paths that it sets, and nothing about others. -/
theorem plainAt?_overlay {upper : Json} (once : upper.NamesOnce) (below : Json)
    (path : List String) :
    (overlay below upper).plainAt? path =
      if upper.sets path then upper.plainAt? path else below.plainAt? path := by
  induction path generalizing below upper with
  | nil =>
      cases upper with
      | obj members => cases below <;> rfl
      | _ => rfl
  | cons name path ih =>
      cases upper with
      | obj members =>
          cases below with
          | obj lower =>
              simp only [overlay, plainAt?_cons_obj, sets]
              rw [lookup_overlayMembers once.1]
              cases found : members.lookup name with
              | none => rfl
              | some value =>
                  cases lower.lookup name with
                  | none => exact eq_plainAt?_of_none rfl
                  | some old => exact ih (once.of_lookup found) old
          | _ => exact eq_plainAt?_of_none rfl
      | _ => rfl

/-- What layers say together at a path is what the last of them says that sets it. -/
theorem plainAt?_overlayAll {layers : List Json} (once : ∀ layer ∈ layers, layer.NamesOnce)
    (path : List String) :
    (overlayAll layers).plainAt? path =
      (layers.reverse.find? (·.sets path)).bind (·.plainAt? path) := by
  induction layers using List.reverseRecOn with
  | nil => cases path <;> rfl
  | append_singleton earlier last ih =>
      have earlier_once : ∀ layer ∈ earlier, layer.NamesOnce := fun layer among =>
        once layer (List.mem_append_left _ among)
      have last_once : last.NamesOnce := once last (by simp)
      rw [overlayAll, List.foldl_concat, plainAt?_overlay last_once, ← overlayAll,
        ih earlier_once, List.reverse_concat, List.find?_cons]
      cases last.sets path <;> rfl

end Json

end ChatBot
