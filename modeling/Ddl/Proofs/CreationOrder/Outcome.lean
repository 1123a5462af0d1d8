import Ddl.Proofs.CreationOrder.Progress
import Mathlib

/-! An order exists exactly for distinct names whose references stay inside and have no cycle. -/

namespace Ddl

namespace CreationOrder

variable {tables : List Table}

/-- No name is found for a second time exactly when names are distinct and new. -/
theorem repeated?_eq_none_iff {seen names : List Text} :
    repeated? seen names = none ↔ names.Nodup ∧ ∀ name ∈ names, name ∉ seen := by
  -- Each name joins those that the later ones must differ from.
  induction names generalizing seen with
  | nil => simp [repeated?]
  | cons head rest ih =>
    by_cases known : head ∈ seen
    · simp [repeated?, known]
    · rw [repeated?, if_neg known, ih, List.nodup_cons]
      constructor
      -- The head is among the names that the later ones differ from.
      · intro later
        obtain ⟨distinct, new⟩ := later
        refine ⟨⟨fun again => new head again List.mem_cons_self, distinct⟩, ?_⟩
        intro name member inside
        rcases List.mem_cons.mp member with same | later
        · exact known (same ▸ inside)
        · exact new name later (List.mem_cons_of_mem _ inside)
      · intro all
        obtain ⟨⟨once, distinct⟩, new⟩ := all
        refine ⟨distinct, ?_⟩
        intro name later inside
        rcases List.mem_cons.mp inside with same | inside
        · exact once (same ▸ later)
        · exact new name (List.mem_cons_of_mem _ later) inside

/-- The name that is found stands behind distinct new names, and is known or one of them. -/
theorem split_of_repeated? {seen names : List Text} {name : Text}
    (found : repeated? seen names = some name) :
    ∃ before after, names = before ++ name :: after ∧ (name ∈ seen ∨ name ∈ before) ∧
      before.Nodup ∧ ∀ other ∈ before, other ∉ seen := by
  -- The search passes over names that are new.
  induction names generalizing seen with
  | nil => simp [repeated?] at found
  | cons head rest ih =>
    by_cases known : head ∈ seen
    · simp only [repeated?, if_pos known, Option.some.injEq] at found
      subst head
      exact ⟨[], rest, rfl, Or.inl known, List.nodup_nil, by simp⟩
    · simp only [repeated?, if_neg known] at found
      obtain ⟨before, after, split, again, distinct, new⟩ := ih found
      refine ⟨head :: before, after, congrArg (head :: ·) split, ?_, ?_, ?_⟩
      · simpa [or_comm, or_assoc, or_left_comm] using again
      · exact List.nodup_cons.mpr ⟨fun member => new head member List.mem_cons_self, distinct⟩
      · intro other member inside
        rcases List.mem_cons.mp member with same | member
        · exact known (same ▸ inside)
        · exact new other member (List.mem_cons_of_mem _ inside)

/-- A name behind distinct new names is found when it is known or one of them. -/
theorem repeated?_append_cons {seen before : List Text} {name : Text} (after : List Text)
    (again : name ∈ seen ∨ name ∈ before) (distinct : before.Nodup)
    (new : ∀ other ∈ before, other ∉ seen) :
    repeated? seen (before ++ name :: after) = some name := by
  -- None of the names before it stops the search.
  induction before generalizing seen with
  | nil =>
    have known : name ∈ seen := by simpa using again
    simp [repeated?, known]
  | cons head before ih =>
    rw [List.nodup_cons] at distinct
    have unknown : head ∉ seen := new head List.mem_cons_self
    rw [List.cons_append, repeated?, if_neg unknown]
    refine ih ?_ distinct.2 ?_
    · simpa [or_comm, or_assoc, or_left_comm] using again
    · intro other member inside
      rcases List.mem_cons.mp inside with same | inside
      · exact distinct.1 (same ▸ member)
      · exact new other (List.mem_cons_of_mem _ member) inside

/-- The search for a repeated name comes before all else. -/
theorem resolve_eq_duplicate_iff {name : Text} :
    resolve tables = .error (.duplicate name) ↔
      repeated? [] (tables.map Table.name) = some name := by
  -- The other outcomes are only reached when no name is repeated.
  unfold resolve
  dsimp only
  split
  · rename_i other found
    simp [found]
  · rename_i nothing
    simp only [nothing]
    split <;> simp

/-- The name that is reported is that of the first table whose name stood before. -/
theorem resolve_eq_duplicate_iff_split {name : Text} :
    resolve tables = .error (.duplicate name) ↔
      ∃ before table after, tables = before ++ table :: after ∧ table.name = name ∧
        name ∈ before.map Table.name ∧ (before.map Table.name).Nodup := by
  rw [resolve_eq_duplicate_iff]
  constructor
  · intro found
    obtain ⟨before, after, split, again, distinct, _⟩ := split_of_repeated? found
    -- The names before and after come from the tables before and after.
    obtain ⟨front, back, parts, rfl, rest⟩ := List.map_eq_append_iff.mp split
    obtain ⟨table, behind, rfl, named, _⟩ := List.map_eq_cons_iff.mp rest
    exact ⟨front, table, behind, parts, named, by simpa using again, distinct⟩
  · intro divided
    obtain ⟨before, table, after, rfl, rfl, again, distinct⟩ := divided
    rw [List.map_append, List.map_cons]
    exact repeated?_append_cons _ (Or.inr again) distinct (by simp)

/-- Some name is reported as repeated exactly when names are not distinct. -/
theorem exists_duplicate_iff :
    (∃ name, resolve tables = .error (.duplicate name)) ↔ ¬(tables.map Table.name).Nodup := by
  -- The search finds nothing exactly when names are distinct.
  have nothing : repeated? [] (tables.map Table.name) = none ↔ (tables.map Table.name).Nodup := by
    simp [repeated?_eq_none_iff]
  simp only [resolve_eq_duplicate_iff, ← nothing]
  exact Option.ne_none_iff_exists'.symm

/-- For distinct names the outcome is decided by the number of tables that are created. -/
theorem resolve_of_nodup (distinct : (tables.map Table.name).Nodup) :
    resolve tables =
      if (finallyCreated tables).length = tables.length then .ok (finallyCreated tables)
      else .error (.circular
        ((tables.map Table.name).filter fun name => name ∉ finallyCreated tables)) := by
  -- The search for a repeated name finds none.
  have nothing : repeated? [] (tables.map Table.name) = none :=
    repeated?_eq_none_iff.mpr ⟨distinct, by simp⟩
  unfold resolve
  dsimp only
  rw [nothing]
  rfl

/-- Outcomes other than a repeated name need distinct names. -/
theorem nodup_of_resolve (other : ∀ name, resolve tables ≠ .error (.duplicate name)) :
    (tables.map Table.name).Nodup := by
  by_contra repeats
  obtain ⟨name, reported⟩ := exists_duplicate_iff.mpr repeats
  exact other name reported

/-- As many tables are created as are given exactly when all of them can be created. -/
theorem length_finallyCreated_iff (distinct : (tables.map Table.name).Nodup) :
    (finallyCreated tables).length = tables.length ↔
      ∀ name ∈ tables.map Table.name, Creatable tables name := by
  -- The created names are distinct and given, so that their number decides whether they are all.
  have inside : finallyCreated tables ⊆ tables.map Table.name := fun name created =>
    ((mem_finallyCreated_iff distinct).mp created).given
  have part := (nodup_finallyCreated distinct).subperm inside
  constructor
  · intro all name given
    have same := part.perm_of_length_le (by simp [all])
    exact (mem_finallyCreated_iff distinct).mp (same.mem_iff.mpr given)
  · intro creatable
    have covered : tables.map Table.name ⊆ finallyCreated tables := fun name given =>
      (mem_finallyCreated_iff distinct).mpr (creatable name given)
    have same := part.antisymm (distinct.subperm covered)
    simpa using same.length_eq

/-- An order is found exactly for distinct names of tables that can all be created. -/
theorem resolve_eq_ok_iff {order : List Text} :
    resolve tables = .ok order ↔ (tables.map Table.name).Nodup ∧
      (∀ name ∈ tables.map Table.name, Creatable tables name) ∧ order = finallyCreated tables := by
  -- An outcome that is no repeated name comes from distinct names.
  constructor
  · intro resolved
    have distinct : (tables.map Table.name).Nodup := nodup_of_resolve (by simp [resolved])
    rw [resolve_of_nodup distinct] at resolved
    split at resolved
    · rename_i all
      exact ⟨distinct, (length_finallyCreated_iff distinct).mp all, by simpa using resolved.symm⟩
    · simp at resolved
  · intro all
    obtain ⟨distinct, creatable, same⟩ := all
    rw [resolve_of_nodup distinct, if_pos ((length_finallyCreated_iff distinct).mpr creatable),
      same]

/-- Tables that wait for ever are reported exactly when names are distinct and there are some. -/
theorem resolve_eq_circular_iff {reported : List Text} :
    resolve tables = .error (.circular reported) ↔ (tables.map Table.name).Nodup ∧
      ¬(∀ name ∈ tables.map Table.name, Creatable tables name) ∧
      reported = (tables.map Table.name).filter fun name => name ∉ finallyCreated tables := by
  -- As before the number of created tables decides, now with the other result.
  constructor
  · intro failed
    have distinct : (tables.map Table.name).Nodup := nodup_of_resolve (by simp [failed])
    rw [resolve_of_nodup distinct] at failed
    split at failed
    · simp at failed
    · rename_i fewer
      exact ⟨distinct, fun creatable => fewer ((length_finallyCreated_iff distinct).mpr creatable),
        by simpa using failed.symm⟩
  · intro waits
    obtain ⟨distinct, stuck, same⟩ := waits
    have fewer : (finallyCreated tables).length ≠ tables.length := fun all =>
      stuck ((length_finallyCreated_iff distinct).mp all)
    rw [resolve_of_nodup distinct, if_neg fewer, same]

/-- The order holds the names of the tables. -/
theorem perm_of_resolve {order : List Text} (resolved : resolve tables = .ok order) :
    order.Perm (tables.map Table.name) := by
  -- All names can be created, and each is created once.
  obtain ⟨distinct, creatable, rfl⟩ := resolve_eq_ok_iff.mp resolved
  refine (List.perm_ext_iff_of_nodup (nodup_finallyCreated distinct) distinct).mpr fun name => ?_
  exact (mem_finallyCreated_iff distinct).trans ⟨Creatable.given, creatable name⟩

/-- A table without columns that has a foreign key to each of the given tables. -/
def referring (name : Text) (targets : List Text) : Table :=
  ⟨name, [], targets.map fun target => ⟨"id".toList, target, "id".toList⟩⟩

/-- An order holds each table once, and each table after all others that its keys refer to. -/
theorem resolve_sound {order : List Text} (resolved : resolve tables = .ok order) :
    order.Perm (tables.map Table.name) ∧ order.Nodup ∧
      ∀ table ∈ tables, ∀ key ∈ table.foreignKeys, key.target.table ≠ table.name →
        key.target.table ∈ order ∧ order.idxOf key.target.table < order.idxOf table.name := by
  have names := perm_of_resolve resolved
  obtain ⟨distinct, _, rfl⟩ := resolve_eq_ok_iff.mp resolved
  refine ⟨names, nodup_finallyCreated distinct, ?_⟩
  intro table member key keyMember other
  -- The table is created, so all that it refers to was created before.
  have refers := refersTo_of_key member keyMember other
  have first := targetsFirst_finallyCreated distinct
  have created := names.mem_iff.mpr refers.given
  exact ⟨first.mem created refers, first _ created _ refers⟩

/-- Messages refer twice to users and once to themselves, and are created after the users. -/
theorem resolve_sound_messages :
    resolve [referring "messages".toList ["users".toList, "messages".toList, "users".toList],
        referring "users".toList []] = .ok ["users".toList, "messages".toList] ∧
      ["users".toList, "messages".toList].idxOf "users".toList <
        ["users".toList, "messages".toList].idxOf "messages".toList := by
  -- The reference to the table itself is left aside, and the other one puts users first.
  have resolved : resolve [referring "messages".toList
      ["users".toList, "messages".toList, "users".toList], referring "users".toList []] =
        .ok ["users".toList, "messages".toList] := by cbv
  have ordered := (resolve_sound resolved).2.2 _ List.mem_cons_self
    ⟨"id".toList, "users".toList, "id".toList⟩ (by simp [referring]) (by decide)
  exact ⟨resolved, ordered.2⟩

/-- Tables that can be created in some order. -/
def Resolves (tables : List Table) : Prop :=
  ∃ order, resolve tables = .ok order

/-- An order is found exactly for distinct names of tables that can all be created. -/
theorem resolves_iff :
    Resolves tables ↔ (tables.map Table.name).Nodup ∧
      ∀ name ∈ tables.map Table.name, Creatable tables name := by
  -- The order itself is the one that is created.
  constructor
  · intro resolves
    obtain ⟨order, resolved⟩ := resolves
    obtain ⟨distinct, creatable, _⟩ := resolve_eq_ok_iff.mp resolved
    exact ⟨distinct, creatable⟩
  · intro all
    obtain ⟨distinct, creatable⟩ := all
    exact ⟨_, resolve_eq_ok_iff.mpr ⟨distinct, creatable, rfl⟩⟩

/-- Resolving depends on the names and on the pairs of names that refer, not on single keys. -/
theorem Resolves.congr {others : List Table}
    (names : others.map Table.name = tables.map Table.name)
    (same : ∀ name target, RefersTo others name target ↔ RefersTo tables name target)
    (resolves : Resolves tables) : Resolves others := by
  -- Names and references are all that creation depends on.
  obtain ⟨distinct, creatable⟩ := resolves_iff.mp resolves
  rw [← names] at distinct creatable
  exact resolves_iff.mpr
    ⟨distinct, fun name given => (creatable name given).congr names same⟩

/-- What comes of a list of tables is decided by repeated names, references that lead outside and
cycles of references, in this order; keys of a table to itself and further keys between the same
two tables change nothing. -/
theorem resolve_outcome (tables : List Table) :
    ((∃ name, resolve tables = .error (.duplicate name)) ↔ ¬(tables.map Table.name).Nodup) ∧
      (∀ name, resolve tables = .error (.duplicate name) ↔
        ∃ before table after, tables = before ++ table :: after ∧ table.name = name ∧
          name ∈ before.map Table.name ∧ (before.map Table.name).Nodup) ∧
      (Resolves tables ↔ (tables.map Table.name).Nodup ∧ Closed tables ∧ Acyclic tables) ∧
      ((∃ reported, resolve tables = .error (.circular reported)) ↔
        (tables.map Table.name).Nodup ∧ ¬(Closed tables ∧ Acyclic tables)) ∧
      ∀ others : List Table, others.map Table.name = tables.map Table.name →
        (∀ name target, RefersTo others name target ↔ RefersTo tables name target) →
        (Resolves others ↔ Resolves tables) := by
  -- Tables can all be created just when no reference leads outside and none of them are in a cycle.
  refine ⟨exists_duplicate_iff, fun name => resolve_eq_duplicate_iff_split, ?_, ?_, ?_⟩
  · rw [resolves_iff, forall_creatable_iff]
  · simp only [resolve_eq_circular_iff, forall_creatable_iff]
    constructor
    · intro failed
      obtain ⟨_, distinct, stuck, _⟩ := failed
      exact ⟨distinct, stuck⟩
    · intro waits
      exact ⟨_, waits.1, waits.2, rfl⟩
  · intro others names same
    constructor
    · intro resolves
      exact resolves.congr names.symm fun name target => (same name target).symm
    · intro resolves
      exact resolves.congr names same

-- A table that is not given is waited for like one on a cycle.
example : resolve [referring ['a'] [], referring ['b'] [['a'], ['x']]] =
    .error (.circular [['b']]) := by
  cbv

end CreationOrder

end Ddl
