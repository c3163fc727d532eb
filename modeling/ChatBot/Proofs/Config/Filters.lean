import ChatBot.Config.Wire
import ChatBot.Proofs.Table.Lookup
import Mathlib.Data.Set.List

/-!
# Filters of a log

The filters of a log are read from an object that names each module once, in whatever order the
modules stand.
-/

namespace ChatBot

theorem LogLevel.ofJson?_toJson (level : LogLevel) : ofJson? level.toJson = some level := by
  cases level <;> rfl

namespace LoggingConfig

/-- A tree tells of filters if it has the level of each module under its name, in whatever
order. -/
def FiltersToldBy (filters : Table LogLevel) (json : Json) : Prop :=
  ∃ members, json = .obj members ∧ (members.map Prod.fst).Nodup ∧
    ∀ name, members.lookup name = (filters.lookup? name).map LogLevel.toJson

/-- The tree of the filters that are listed. -/
def filtersTree (entries : List (String × LogLevel)) : Json :=
  .obj (entries.map fun entry => (entry.1, entry.2.toJson))

theorem lookup_map_toJson (entries : List (String × LogLevel)) (name : String) :
    (entries.map fun entry => (entry.1, entry.2.toJson)).lookup name =
      (entries.lookup name).map LogLevel.toJson := by
  induction entries with
  | nil => rfl
  | cons entry rest ih =>
      rw [List.map_cons, lookup_cons_eq_ite, lookup_cons_eq_ite, ih]
      split <;> rfl

theorem filtersToldBy_filtersTree {filters : Table LogLevel} {entries : List (String × LogLevel)}
    (perm : entries.Perm filters.entries) : FiltersToldBy filters (filtersTree entries) := by
  have distinct : (entries.map Prod.fst).Nodup :=
    (perm.map Prod.fst).nodup_iff.mpr filters.ascending.nodup
  refine ⟨_, rfl, by simpa [Function.comp_def] using distinct, fun name => ?_⟩
  rw [lookup_map_toJson]
  refine congrArg _ (Option.ext fun level => ?_)
  rw [lookup_eq_some_iff_mem distinct, perm.mem_iff,
    ← lookup_eq_some_iff_mem filters.ascending.nodup]
  rfl

theorem filters?_filtersTree (entries : List (String × LogLevel)) :
    filters? (filtersTree entries) = some (Table.ofList entries) := by
  have levels : (entries.map fun entry => (entry.1, entry.2.toJson)).mapM
      (fun member => (LogLevel.ofJson? member.2).bind fun level => some (member.1, level)) =
        some entries := by
    induction entries with
    | nil => rfl
    | cons entry rest ih =>
        simp only [List.map_cons, List.mapM_cons, ih, LogLevel.ofJson?_toJson]
        rfl
  exact congrArg (Option.bind · fun entries => some (Table.ofList entries)) levels

/-- Filters are read from every tree that tells of them. -/
theorem filters?_of_toldBy {filters : Table LogLevel} {json : Json}
    (told : FiltersToldBy filters json) : filters? json = some filters := by
  obtain ⟨members, rfl, distinct, agree⟩ := told
  have levels : ∀ member ∈ members,
      member ∈ Set.range fun entry : String × LogLevel => (entry.1, entry.2.toJson) := by
    intro (name, value) among
    have found := (lookup_eq_some_iff_mem distinct).mpr among
    rw [agree, Option.map_eq_some_iff] at found
    obtain ⟨level, -, rfl⟩ := found
    exact ⟨(name, level), rfl⟩
  have listed : members ∈ Set.range (List.map fun entry : String × LogLevel =>
      (entry.1, entry.2.toJson)) := by
    rw [Set.range_list_map]
    exact levels
  obtain ⟨entries, rfl⟩ := listed
  have entries_distinct : (entries.map Prod.fst).Nodup := by
    simpa [Function.comp_def] using distinct
  refine (filters?_filtersTree entries).trans (congrArg some (Table.eq_of_lookup? fun name => ?_))
  rw [Table.lookup?_ofList entries_distinct]
  have same := agree name
  rw [lookup_map_toJson] at same
  exact Option.map_injective (fun first second written => by
    rw [← Option.some_inj, ← LogLevel.ofJson?_toJson, written, LogLevel.ofJson?_toJson]) same

end LoggingConfig

end ChatBot
