import ChatBot.Proofs.Json.Overlay
import ChatBot.Proofs.Json.Record

/-!
# Records over one another

A record that names its members once is known by its parts.  Of two such records, one over the
other, each part is made of the two parts of its name, and so is the whole.
-/

namespace ChatBot

namespace Json

/-- A tree is a record that names its members once and has these parts under the given names. -/
def HasParts (names : List String) (json : Json) (parts : List (Option Json)) : Prop :=
  ∃ members, json = obj members ∧ (members.map Prod.fst).Nodup ∧
    names.map (fun name => members.lookup name) = parts

theorem at?_cons (name : String) (path : List String) (json : Json) :
    json.at? (name :: path) = (json.at? [name]).bind (at? path) := by
  cases json with
  | obj members => cases found : members.lookup name <;> simp [at?, found]
  | _ => rfl

/-- What a part of a record and the part of the same name in a record over it come to. -/
def overPart : Option Json → Option Json → Option Json
  | below, none => below
  | none, some upper => some upper
  | some below, some upper => some (overlay below upper)

theorem nodup_overlayMembers {lower : List (String × Json)}
    (distinct : (lower.map Prod.fst).Nodup) (upper : List (String × Json)) :
    ((overlayMembers lower upper).map Prod.fst).Nodup := by
  induction upper generalizing lower with
  | nil => exact distinct
  | cons member rest ih =>
      rw [overlayMembers]
      cases lower.lookup member.1 <;> exact ih (nodup_setMember distinct)

namespace HasParts

variable {names : List String} {json below upper : Json}
  {parts belowParts upperParts : List (Option Json)}

theorem fields?_eq (has : HasParts names json parts) : fields? names json = some parts := by
  obtain ⟨members, rfl, distinct, rfl⟩ := has
  exact fields?_obj distinct names

theorem leadingFields?_eq (has : HasParts names json parts) :
    leadingFields? names json = some parts := by
  obtain ⟨members, rfl, distinct, rfl⟩ := has
  exact fields?_obj distinct names

/-- The parts stand in the record under their names. -/
theorem map_at? (has : HasParts names json parts) :
    names.map (fun name => json.at? [name]) = parts := by
  obtain ⟨members, rfl, distinct, rfl⟩ := has
  refine List.map_congr_left fun name _ => ?_
  cases found : members.lookup name <;> simp [at?, found]

/-- Over nothing a record has the parts that it has by itself. -/
theorem overlay_nil (has : HasParts names json parts) :
    HasParts names (Json.overlay (obj []) json) parts := by
  obtain ⟨members, rfl, distinct, rfl⟩ := has
  refine ⟨overlayMembers [] members, rfl, nodup_overlayMembers (by simp) members, ?_⟩
  refine List.map_congr_left fun name _ => ?_
  rw [lookup_overlayMembers distinct]
  cases members.lookup name <;> rfl

/-- What one record over another has is made part by part. -/
theorem overlay (has_below : HasParts names below belowParts)
    (has_upper : HasParts names upper upperParts) :
    HasParts names (Json.overlay below upper) (List.zipWith overPart belowParts upperParts) := by
  obtain ⟨lower, rfl, lower_distinct, rfl⟩ := has_below
  obtain ⟨members, rfl, distinct, rfl⟩ := has_upper
  refine ⟨overlayMembers lower members, rfl, nodup_overlayMembers lower_distinct members, ?_⟩
  rw [List.zipWith_map, List.zipWith_self]
  refine List.map_congr_left fun name _ => ?_
  rw [lookup_overlayMembers distinct]
  cases members.lookup name <;> cases lower.lookup name <;> rfl

end HasParts

end Json

end ChatBot
