import Ddl.Proofs.CreationOrder.Canonical
import Ddl.Proofs.Dependencies

/-! What comes of tables depends on their names and on the sets of tables that they refer to. -/

namespace Ddl

namespace CreationOrder

variable {tables others : List Table}

/-- Two tables have the same name and refer to the same other tables. -/
structure SameReferences (table other : Table) : Prop where
  /-- Their names are the same. -/
  name : table.name = other.name
  /-- Some key of the one refers to another table exactly when some key of the other one does. -/
  targets : ∀ target, target ≠ table.name →
    ((∃ key ∈ table.foreignKeys, key.target.table = target) ↔
      ∃ key ∈ other.foreignKeys, key.target.table = target)

/-- The maps list the same names, each with the same others in any order. -/
def SameUpToOrder (map other : OrderedMap (List Text)) : Prop :=
  -- The order of the names counts, and only that of the lists does not.
  List.Forall₂ (fun entry counterpart => entry.1 = counterpart.1 ∧ entry.2.Perm counterpart.2)
    map.entries other.entries

/-- Tables that refer to the same others are those of one name with the same dependencies. -/
theorem sameReferences_iff {table other : Table} :
    SameReferences table other ↔
      table.name = other.name ∧ table.dependencies.Perm other.dependencies := by
  -- Lists without repeats are permutations when they have the same members.
  have members : table.dependencies.Perm other.dependencies ↔
      ∀ target, target ∈ table.dependencies ↔ target ∈ other.dependencies :=
    List.perm_ext_iff_of_nodup table.nodup_dependencies other.nodup_dependencies
  rw [members]
  simp only [Table.mem_dependencies_iff]
  constructor
  · intro same
    refine ⟨same.name, fun target => ?_⟩
    rw [← same.name]
    exact and_congr_right (same.targets target)
  · intro same
    obtain ⟨name, targets⟩ := same
    refine ⟨name, fun target different => ?_⟩
    have both := targets target
    rw [← name] at both
    simpa [different] using both

/-- For distinct names, tables refer to the same others exactly when their dependency maps list
the same names with the same dependencies. -/
theorem forall_sameReferences_iff (distinct : (tables.map Table.name).Nodup)
    (names : tables.map Table.name = others.map Table.name) :
    List.Forall₂ SameReferences tables others ↔
      SameUpToOrder (dependencyMap tables) (dependencyMap others) := by
  -- Each table has one entry in its map.
  rw [SameUpToOrder, entries_dependencyMap distinct, entries_dependencyMap (names ▸ distinct),
    List.forall₂_map_left_iff, List.forall₂_map_right_iff]
  constructor
  · intro alike
    exact alike.imp fun _ _ same => sameReferences_iff.mp same
  · intro alike
    exact alike.imp fun _ _ same => sameReferences_iff.mpr same

/-- Tables have the same references as each other. -/
theorem SameReferences.symm {table other : Table} (same : SameReferences table other) :
    SameReferences other table := by
  refine ⟨same.name.symm, fun target different => ?_⟩
  rw [← same.name] at different
  exact (same.targets target different).symm

/-- Tables that refer to the same others as their counterparts have the same names as these. -/
theorem names_of_sameReferences (alike : List.Forall₂ SameReferences tables others) :
    tables.map Table.name = others.map Table.name := by
  induction alike with
  | nil => rfl
  | cons same _ ih => rw [List.map_cons, List.map_cons, same.name, ih]

/-- A reference is one of the counterparts, too. -/
theorem RefersTo.of_sameReferences (alike : List.Forall₂ SameReferences tables others)
    {name target : Text} (refers : RefersTo tables name target) : RefersTo others name target := by
  obtain ⟨table, member, rfl, key, keyMember, rfl, different⟩ := refersTo_iff.mp refers
  -- The table stands at some place, and its counterpart at the same one.
  obtain ⟨place, inside, here⟩ := List.getElem_of_mem member
  have inOthers : place < others.length := alike.length_eq ▸ inside
  have same : SameReferences tables[place] others[place] := alike.get inside inOthers
  rw [here] at same
  have keys := (same.targets _ different).mp ⟨key, keyMember, rfl⟩
  obtain ⟨otherKey, otherKeyMember, aimed⟩ := keys
  exact refersTo_iff.mpr ⟨others[place], List.getElem_mem inOthers, same.name.symm, otherKey,
    otherKeyMember, aimed, different⟩

/-- The last reference of a table is not behind that of a table with as many references. -/
theorem lastReference_mono {order : List Text} {name : Text}
    (refers : ∀ target, RefersTo tables name target → RefersTo others name target) :
    lastReference tables order name ≤ lastReference others order name := by
  by_contra above
  -- All references of the second table, and hence of the first, would be in front of its last one.
  obtain ⟨least, before⟩ := lastReference_lt_iff.mp (Int.not_le.mp above)
  have below := lastReference_lt_iff.mpr
    ⟨least, fun target refersTo => before target (refers target refersTo)⟩
  exact Int.lt_irrefl _ below

/-- An order is canonical for the counterparts, too. -/
theorem Canonical.of_refersTo {order : List Text}
    (names : tables.map Table.name = others.map Table.name)
    (same : ∀ name target, RefersTo tables name target ↔ RefersTo others name target)
    (canonical : Canonical tables order) : Canonical others order := by
  -- The rank of a name depends on its last reference and on its place among the names.
  have ranks : ∀ name, rank others order name = rank tables order name := by
    intro name
    have last : lastReference others order name = lastReference tables order name :=
      le_antisymm (lastReference_mono fun target => (same name target).mpr)
        (lastReference_mono fun target => (same name target).mp)
    rw [rank, rank, last, names]
  exact canonical.imp fun ordered => by rwa [ranks, ranks]

/-- The same tables are created in the same order for tables that refer to the same others. -/
theorem finallyCreated_eq (distinct : (tables.map Table.name).Nodup)
    (names : tables.map Table.name = others.map Table.name)
    (same : ∀ name target, RefersTo tables name target ↔ RefersTo others name target) :
    finallyCreated tables = finallyCreated others := by
  have otherDistinct : (others.map Table.name).Nodup := names ▸ distinct
  -- The same tables can be created, and both orders are canonical.
  have members : ∀ name, name ∈ finallyCreated others ↔ name ∈ finallyCreated tables := by
    intro name
    rw [mem_finallyCreated_iff distinct, mem_finallyCreated_iff otherDistinct]
    constructor
    · intro creatable
      exact creatable.congr names same
    · intro creatable
      exact creatable.congr names.symm fun first second => (same first second).symm
  have created := (List.perm_ext_iff_of_nodup (nodup_finallyCreated otherDistinct)
    (nodup_finallyCreated distinct)).mpr members
  refine (canonical_unique (nodup_finallyCreated distinct) (targetsFirst_finallyCreated distinct)
    (canonical_finallyCreated distinct) ?_ created).symm
  exact (canonical_finallyCreated otherDistinct).of_refersTo names.symm
    fun name target => (same name target).symm

/-- For distinct names the outcome depends on the names and on the pairs of names that refer. -/
theorem resolve_congr_of_nodup (distinct : (tables.map Table.name).Nodup)
    (names : tables.map Table.name = others.map Table.name)
    (same : ∀ name target, RefersTo tables name target ↔ RefersTo others name target) :
    resolve tables = resolve others := by
  have lengths : tables.length = others.length := by simpa using congrArg List.length names
  rw [resolve_of_nodup distinct, resolve_of_nodup (names ▸ distinct),
    finallyCreated_eq distinct names same, names, lengths]

/-- Tables have the same order, or the same fault, as others with the same names when each of them
refers to the same tables as its counterpart, and also when just the dependency maps agree; where
names are distinct, these two conditions are one. -/
theorem resolve_eq_of_sameReferences (names : tables.map Table.name = others.map Table.name)
    (alike : List.Forall₂ SameReferences tables others ∨
      SameUpToOrder (dependencyMap tables) (dependencyMap others)) :
    resolve tables = resolve others ∧
      ((tables.map Table.name).Nodup → (List.Forall₂ SameReferences tables others ↔
        SameUpToOrder (dependencyMap tables) (dependencyMap others))) := by
  refine ⟨?_, fun distinct => forall_sameReferences_iff distinct names⟩
  by_cases distinct : (tables.map Table.name).Nodup
  · have each : List.Forall₂ SameReferences tables others :=
      alike.elim id (forall_sameReferences_iff distinct names).mpr
    have back : List.Forall₂ SameReferences others tables :=
      each.flip.imp fun _ _ same => same.symm
    exact resolve_congr_of_nodup distinct names fun name target =>
      ⟨fun refers => refers.of_sameReferences each, fun refers => refers.of_sameReferences back⟩
  · -- The name that is repeated is reported without a look at the references.
    obtain ⟨name, reported⟩ := exists_duplicate_iff.mpr distinct
    have found := resolve_eq_duplicate_iff.mp reported
    rw [reported, resolve_eq_duplicate_iff.mpr (names ▸ found)]

/-- Messages that refer to users and posts wait for both, however often and in whichever order
they refer to them, and whether or not they refer to themselves. -/
theorem resolve_eq_of_sameReferences_messages :
    List.Forall₂ SameReferences
        [referring ['m'] [['u'], ['p'], ['u'], ['m']], referring ['u'] [], referring ['p'] [['u']]]
        [referring ['m'] [['p'], ['u']], referring ['u'] [['u']], referring ['p'] [['u'], ['u']]] ∧
      resolve
          [referring ['m'] [['u'], ['p'], ['u'], ['m']], referring ['u'] [],
            referring ['p'] [['u']]] =
        resolve
          [referring ['m'] [['p'], ['u']], referring ['u'] [['u']],
            referring ['p'] [['u'], ['u']]] := by
  -- Pair by pair the names are the same, and so are the references to other tables.
  have alike : List.Forall₂ SameReferences
      [referring ['m'] [['u'], ['p'], ['u'], ['m']], referring ['u'] [], referring ['p'] [['u']]]
      [referring ['m'] [['p'], ['u']], referring ['u'] [['u']],
        referring ['p'] [['u'], ['u']]] := by
    simp only [List.forall₂_cons, List.forall₂_nil_left_iff, and_true, sameReferences_iff]
    decide
  exact ⟨alike, (resolve_eq_of_sameReferences (names_of_sameReferences alike) (Or.inl alike)).1⟩

end CreationOrder

end Ddl
