import ChatBot.Json.Record
import ChatBot.Proofs.Table.Lookup

/-!
# The parts of a record

A record that is written as an object has the same parts in whatever order its members stand.
Members that are not asked for do not matter, and a record with a part that stands twice has none.
-/

namespace ChatBot

namespace Json

variable {members members' : List (String × Json)}

/-- The parts of a record are found under their names, in whatever order its members stand. -/
theorem fields?_obj {members : List (String × Json)} (distinct : (members.map Prod.fst).Nodup)
    (names : List String) :
    fields? names (obj members) = some (names.map fun name => members.lookup name) := by
  have once : names.all (fun name => members.countP (·.1 = name) ≤ 1) = true := by
    rw [List.all_eq_true]
    intro name _
    have count := List.nodup_iff_count_le_one.mp distinct name
    rw [List.count, List.countP_map] at count
    exact decide_eq_true count
  rw [fields?, if_pos once]

theorem fields?_perm (perm : members.Perm members') (names : List String) :
    fields? names (obj members) = fields? names (obj members') := by
  have counts (name : String) :
      members'.countP (·.1 = name) = members.countP (·.1 = name) := (perm.countP_eq _).symm
  simp only [fields?, counts]
  split
  · next once =>
      refine congrArg some (List.map_congr_left fun name among => lookup_perm perm ?_)
      simpa using List.all_eq_true.mp once name among
  · rfl

/-- The value of the first member of a record is the part of its name; it has no influence on
whether the record has parts. -/
theorem fields?_obj_cons (names : List String) (first : String) (value : Json)
    (rest : List (String × Json)) :
    fields? names (obj ((first, value) :: rest)) =
      if names.all (fun name => rest.countP (·.1 = name) + (if first = name then 1 else 0) ≤ 1) then
        some (names.map fun name => if name = first then some value else rest.lookup name)
      else none := by
  have found : (names.map fun name => ((first, value) :: rest).lookup name) =
      names.map fun name => if name = first then some value else rest.lookup name := by
    exact List.map_congr_left fun name _ => lookup_cons_eq_ite first name value rest
  simp only [fields?, found, List.countP_cons, decide_eq_true_eq]

/-- A member that is not asked for makes no difference. -/
theorem fields?_cons_of_notMem {names : List String} {key : String} (unasked : key ∉ names)
    (value : Json) :
    fields? names (obj ((key, value) :: members)) = fields? names (obj members) := by
  have apart : ∀ name ∈ names, key ≠ name := fun name among same => unasked (same ▸ among)
  have counts : ∀ name ∈ names,
      ((key, value) :: members).countP (·.1 = name) = members.countP (·.1 = name) :=
    fun name among => List.countP_cons_of_neg (by simpa using apart name among)
  have found : (names.map fun name => ((key, value) :: members).lookup name) =
      names.map fun name => members.lookup name := by
    exact List.map_congr_left fun name among =>
      lookup_cons_of_ne (Ne.symm (apart name among)) value members
  have once : names.all (fun name => ((key, value) :: members).countP (·.1 = name) ≤ 1) =
      names.all fun name => members.countP (·.1 = name) ≤ 1 := by
    rw [Bool.eq_iff_iff, List.all_eq_true, List.all_eq_true]
    exact forall₂_congr fun name among => by rw [counts name among]
  rw [fields?, fields?, found, once]

/-- A record with a part that stands twice has no parts. -/
theorem fields?_of_repeated {names : List String} {name : String} (asked : name ∈ names)
    (repeated : 2 ≤ members.countP (·.1 = name)) : fields? names (obj members) = none := by
  rw [fields?, if_neg]
  intro once
  have atMost := of_decide_eq_true (List.all_eq_true.mp once name asked)
  omega

theorem withDefault_some {α : Type} (fallback : α) (decode : Json → Option α) (json : Json) :
    withDefault fallback decode (some json) = decode json :=
  rfl

theorem intWithin?_int {low high n : Int} (above : low ≤ n) (below : n ≤ high) :
    intWithin? low high (int n) = some n := by
  simp [intWithin?, above, below]

/-! ## Trees that are kept whole -/

theorem depthOfMembers_perm (perm : members.Perm members') :
    depthOfMembers members = depthOfMembers members' := by
  induction perm with
  | nil => rfl
  | cons member _ ih => rw [depthOfMembers, depthOfMembers, ih]
  | swap second first rest => exact Nat.max_left_comm _ _ _
  | trans _ _ ih ih' => exact ih.trans ih'

theorem haveReadableValues_perm (perm : members.Perm members') :
    haveReadableValues members = haveReadableValues members' := by
  induction perm with
  | nil => rfl
  | cons member _ ih => rw [haveReadableValues, haveReadableValues, ih]
  | swap second first rest => exact Bool.and_left_comm _ _ _
  | trans _ _ ih ih' => exact ih.trans ih'

end Json

end ChatBot
