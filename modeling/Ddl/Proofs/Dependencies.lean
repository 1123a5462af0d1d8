import Ddl.CreationOrder
import Ddl.Proofs.OrderedMap

/-! The dependencies of a table are the other tables that its keys refer to, each of them once, in
the order in which the keys first refer to them. -/

namespace Ddl

/-- The names of a list that pass a test, each once, in the order in which they first come. -/
structure FirstComes (passes : Text → Prop) (all kept : List Text) : Prop where
  /-- Those names are kept that pass. -/
  mem_iff : ∀ name, name ∈ kept ↔ passes name ∧ name ∈ all
  /-- They are kept in the order of their first places. -/
  inOrder : kept.Pairwise fun first second => all.idxOf first < all.idxOf second

namespace FirstComes

variable {passes : Text → Prop} {all kept : List Text} {name : Text}

/-- No name is kept twice. -/
theorem nodup (comes : FirstComes passes all kept) : kept.Nodup := by
  refine List.Pairwise.imp (fun ordered same => ?_) comes.inOrder
  rw [same] at ordered
  exact Nat.lt_irrefl _ ordered

/-- No names are kept of a list without names. -/
theorem nil : FirstComes passes [] [] :=
  ⟨by simp, List.Pairwise.nil⟩

/-- More names at the end leave the names that are kept in order. -/
theorem pairwise_append (comes : FirstComes passes all kept) (more : List Text) :
    kept.Pairwise fun first second =>
      (all ++ more).idxOf first < (all ++ more).idxOf second := by
  -- Names that were there are found at the same places.
  refine comes.inOrder.imp_of_mem fun isFirst isSecond ordered => ?_
  rw [List.idxOf_append, if_pos ((comes.mem_iff _).mp isFirst).2, List.idxOf_append,
    if_pos ((comes.mem_iff _).mp isSecond).2]
  exact ordered

/-- One more name that does not pass, or is kept already, changes nothing. -/
theorem append_old (comes : FirstComes passes all kept) (old : passes name → name ∈ kept) :
    FirstComes passes (all ++ [name]) kept := by
  -- The name belongs to the kept ones already, or it may not be one of them.
  refine ⟨fun other => ?_, comes.pairwise_append [name]⟩
  rw [comes.mem_iff, List.mem_append, List.mem_singleton]
  constructor
  · intro both
    exact ⟨both.1, Or.inl both.2⟩
  · intro both
    obtain ⟨passed, inside | rfl⟩ := both
    · exact ⟨passed, inside⟩
    · exact (comes.mem_iff other).mp (old passed)

/-- One more name that passes and is new is kept behind the others. -/
theorem append_new (comes : FirstComes passes all kept) (passed : passes name)
    (new : name ∉ kept) : FirstComes passes (all ++ [name]) (kept ++ [name]) := by
  have unseen : name ∉ all := fun inside => new ((comes.mem_iff name).mpr ⟨passed, inside⟩)
  refine ⟨fun other => ?_, List.pairwise_append.mpr
    ⟨comes.pairwise_append [name], List.pairwise_singleton _ _, ?_⟩⟩
  · rw [List.mem_append, List.mem_append, comes.mem_iff, List.mem_singleton]
    constructor
    · rintro (both | rfl)
      · exact ⟨both.1, Or.inl both.2⟩
      · exact ⟨passed, Or.inr rfl⟩
    · rintro ⟨passed, inside | same⟩
      · exact Or.inl ⟨passed, inside⟩
      · exact Or.inr same
  · -- Every name that was kept before stands in front of the new one.
    intro first isFirst second isSecond
    have before := ((comes.mem_iff first).mp isFirst).2
    rw [List.mem_singleton.mp isSecond, List.idxOf_append, if_pos before, List.idxOf_append,
      if_neg unseen, List.idxOf_cons_self]
    exact Nat.lt_add_left _ (List.idxOf_lt_length_of_mem before)

end FirstComes

/-- A repeat at the end of a list is left out, and a new name there is kept. -/
theorem eraseDups_append_singleton (names : List Text) (name : Text) :
    (names ++ [name]).eraseDups =
      if name ∈ names then names.eraseDups else names.eraseDups ++ [name] := by
  rw [List.eraseDups_append]
  by_cases known : name ∈ names <;> simp [List.removeAll, known, List.eraseDups_cons]

/-- When repeats are left out of the names that pass, each of these names comes once. -/
theorem firstComes_eraseDups (passes : Text → Prop) [DecidablePred passes] (all : List Text) :
    FirstComes passes all (all.filter passes).eraseDups := by
  -- The names are gone through from the first to the last.
  induction all using List.reverseRecOn with
  | nil => exact FirstComes.nil
  | append_singleton earlier name ih =>
    have known : name ∈ (earlier.filter passes).eraseDups ↔ name ∈ earlier.filter passes :=
      List.mem_eraseDups
    by_cases passed : passes name
    · have alone : [name].filter passes = [name] := by simp [passed]
      rw [List.filter_append, alone, eraseDups_append_singleton]
      split
      · rename_i inside
        exact ih.append_old fun _ => known.mpr inside
      · rename_i new
        exact ih.append_new passed (mt known.mp new)
    · have alone : [name].filter passes = [] := by simp [passed]
      rw [List.filter_append, alone, List.append_nil]
      exact ih.append_old fun holds => absurd holds passed

/-- The names of a map come in the order in which they are first inserted. -/
theorem OrderedMap.firstComes_ofList {Value : Type} (entries : List (Text × Value)) :
    FirstComes (fun _ => True) (entries.map Prod.fst) (ofList entries).names := by
  -- The entries are inserted one after another, and a known name stays at its place.
  induction entries using List.reverseRecOn with
  | nil => exact FirstComes.nil
  | append_singleton earlier entry ih =>
    rw [ofList_append_singleton, List.map_append, List.map_singleton]
    by_cases known : entry.1 ∈ (ofList earlier).names
    · rw [names_insert_of_mem known]
      exact ih.append_old fun _ => known
    · rw [names_insert_of_not_mem known]
      exact ih.append_new trivial known

namespace Table

/-- The dependencies of a table are the other tables to which its keys refer. -/
theorem mem_dependencies_iff {table : Table} {target : Text} :
    target ∈ table.dependencies ↔
      target ≠ table.name ∧ ∃ key ∈ table.foreignKeys, key.target.table = target := by
  simp only [dependencies, List.mem_eraseDups, outgoing, List.mem_filter, List.mem_map,
    decide_eq_true_eq]
  exact And.comm

/-- The names of the tables to which the keys of a table refer, one for each key. -/
def targetNames (table : Table) : List Text :=
  table.foreignKeys.map fun key => key.target.table

/-- The dependencies of a table come in the order in which its keys first refer to them. -/
theorem firstComes_dependencies (table : Table) :
    FirstComes (· ≠ table.name) table.targetNames table.dependencies :=
  firstComes_eraseDups (· ≠ table.name) table.targetNames

/-- No dependency of a table is listed twice. -/
theorem nodup_dependencies (table : Table) : table.dependencies.Nodup :=
  table.firstComes_dependencies.nodup

end Table

namespace CreationOrder

variable {tables : List Table}

/-- For distinct names the dependency map lists the tables with their dependencies as they come. -/
theorem entries_dependencyMap (distinct : (tables.map Table.name).Nodup) :
    (dependencyMap tables).entries =
      tables.map fun table => (table.name, table.dependencies) := by
  have names : ((tables.map fun table => (table.name, table.dependencies)).map Prod.fst).Nodup := by
    simpa [Function.comp_def] using distinct
  exact OrderedMap.entries_ofList names

/-- A name of a list has a last place in it. -/
theorem exists_last_table {name : Text} (given : name ∈ tables.map Table.name) :
    ∃ before table after, tables = before ++ table :: after ∧ table.name = name ∧
      name ∉ after.map Table.name := by
  -- The tables behind the first one are looked through before it.
  induction tables with
  | nil => simp at given
  | cons table rest ih =>
    by_cases again : name ∈ rest.map Table.name
    · obtain ⟨before, found, after, split, named, last⟩ := ih again
      exact ⟨table :: before, found, after, congrArg (table :: ·) split, named, last⟩
    · rw [List.map_cons, List.mem_cons] at given
      exact ⟨[], table, rest, rfl, (given.resolve_right again).symm, again⟩

/-- The last table of a name says what the name depends on. -/
theorem get?_dependencyMap {before after : List Table} {table : Table}
    (last : table.name ∉ after.map Table.name) :
    (dependencyMap (before ++ table :: after)).get? table.name = some table.dependencies := by
  rw [dependencyMap, List.map_append, List.map_cons]
  exact OrderedMap.get?_ofList_of_last (by simpa [Function.comp_def] using last)

/-- The names of the dependency map are those of the tables, in the order in which they first come,
and each has the dependencies of its last table: the other tables to which the keys of this table
refer, each once, in the order in which the keys first refer to them. -/
theorem dependencyMap_exact (tables : List Table) :
    (dependencyMap tables).names.Nodup ∧
      (∀ name, name ∈ (dependencyMap tables).names ↔ name ∈ tables.map Table.name) ∧
      ((dependencyMap tables).names.Pairwise fun first second =>
        (tables.map Table.name).idxOf first < (tables.map Table.name).idxOf second) ∧
      ∀ name ∈ (dependencyMap tables).names, ∃ before table after targets,
        tables = before ++ table :: after ∧ table.name = name ∧ name ∉ after.map Table.name ∧
        (dependencyMap tables).get? name = some targets ∧ targets.Nodup ∧ name ∉ targets ∧
        (∀ target, target ∈ targets ↔
          (∃ key ∈ table.foreignKeys, key.target.table = target) ∧ target ≠ name) ∧
        targets.Pairwise fun first second =>
          table.targetNames.idxOf first < table.targetNames.idxOf second := by
  -- The map is made from entries whose names come in the order of the tables.
  have comes := OrderedMap.firstComes_ofList
    (tables.map fun table => (table.name, table.dependencies))
  have names : (tables.map fun table => (table.name, table.dependencies)).map Prod.fst =
      tables.map Table.name := by simp [Function.comp_def]
  rw [names] at comes
  have same (name : Text) : name ∈ (dependencyMap tables).names ↔ name ∈ tables.map Table.name :=
    (comes.mem_iff name).trans (by simp)
  refine ⟨comes.nodup, same, comes.inOrder, fun name member => ?_⟩
  -- The last table of the name is the one whose entry is kept.
  obtain ⟨before, table, after, rfl, rfl, last⟩ := exists_last_table ((same name).mp member)
  have found := table.firstComes_dependencies
  refine ⟨before, table, after, table.dependencies, rfl, rfl, last, get?_dependencyMap last,
    table.nodup_dependencies, fun own => ((found.mem_iff _).mp own).1 rfl, fun target => ?_,
    found.inOrder⟩
  rw [Table.mem_dependencies_iff]
  exact And.comm

end CreationOrder

end Ddl
