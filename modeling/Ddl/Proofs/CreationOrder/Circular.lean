import Ddl.Proofs.CreationOrder.Outcome

/-! The tables that are reported when no order exists are the least ones that must be left out. -/

namespace Ddl

namespace CreationOrder

variable {tables part : List Table}

/-- Where names are distinct, a part of the tables keeps the references of its own tables. -/
theorem refersTo_of_sublist (distinct : (tables.map Table.name).Nodup)
    (sublist : part.Sublist tables) {name : Text} (given : name ∈ part.map Table.name)
    (target : Text) : RefersTo part name target ↔ RefersTo tables name target := by
  -- The name has one table, and that table is in the part.
  obtain ⟨table, member, named⟩ := List.mem_map.mp given
  have distinctPart : (part.map Table.name).Nodup := distinct.sublist (sublist.map Table.name)
  subst name
  rw [RefersTo, RefersTo, references_of_mem distinctPart member,
    references_of_mem distinct (sublist.subset member)]

/-- What can be created from a part of the tables can be created from all of them. -/
theorem Creatable.of_sublist (distinct : (tables.map Table.name).Nodup)
    (sublist : part.Sublist tables) {name : Text} (creatable : Creatable part name) :
    Creatable tables name := by
  -- The table refers to the same tables in both.
  induction creatable with
  | intro given _ ih =>
    refine Creatable.intro ((sublist.map Table.name).subset given) fun target refers => ?_
    exact ih target ((refersTo_of_sublist distinct sublist given target).mpr refers)

/-- What can be created needs no tables that cannot. -/
theorem Creatable.of_kept (distinct : (tables.map Table.name).Nodup)
    (sublist : part.Sublist tables)
    (kept : ∀ name, Creatable tables name → name ∈ part.map Table.name) {name : Text}
    (creatable : Creatable tables name) : Creatable part name := by
  -- All that the table refers to can be created as well, and so it is kept.
  induction creatable with
  | intro given targets ih =>
    have inside := kept _ (Creatable.intro given targets)
    refine Creatable.intro inside fun target refers => ?_
    exact ih target ((refersTo_of_sublist distinct sublist inside target).mp refers)

/-- The tables that are left when some names are removed. -/
def without (removed : List Text) (tables : List Table) : List Table :=
  -- The others stay in their order.
  tables.filter fun table => !removed.contains table.name

/-- A name is left when it is given and not removed. -/
theorem mem_names_without {removed : List Text} {name : Text} :
    name ∈ (without removed tables).map Table.name ↔
      name ∈ tables.map Table.name ∧ name ∉ removed := by
  -- Tables are removed by their names, all of one name together.
  simp only [without, List.mem_map, List.mem_filter, List.contains_eq_mem, Bool.not_eq_true',
    decide_eq_false_iff_not]
  constructor
  · intro inside
    obtain ⟨table, ⟨member, kept⟩, named⟩ := inside
    exact ⟨⟨table, member, named⟩, named ▸ kept⟩
  · intro inside
    obtain ⟨⟨table, member, named⟩, kept⟩ := inside
    exact ⟨table, ⟨member, named ▸ kept⟩, named⟩

/-- The names that are reported are those of the tables that cannot be created. -/
theorem mem_reported_iff {reported : List Text}
    (failed : resolve tables = .error (.circular reported)) {name : Text} :
    name ∈ reported ↔ name ∈ tables.map Table.name ∧ ¬Creatable tables name := by
  obtain ⟨distinct, _, same⟩ := resolve_eq_circular_iff.mp failed
  rw [same, List.mem_filter, decide_eq_true_eq, mem_finallyCreated_iff distinct]

/-- Without the tables that are reported the others have an order. -/
theorem resolves_without_reported {reported : List Text}
    (failed : resolve tables = .error (.circular reported)) :
    Resolves (without reported tables) := by
  -- What is left can be created from all the tables, and hence from itself.
  have distinct := (resolve_eq_circular_iff.mp failed).1
  have sublist : (without reported tables).Sublist tables := List.filter_sublist
  have left : ∀ name, name ∈ (without reported tables).map Table.name ↔
      name ∈ tables.map Table.name ∧ Creatable tables name := by
    intro name
    rw [mem_names_without, mem_reported_iff failed]
    tauto
  refine resolves_iff.mpr ⟨distinct.sublist (sublist.map Table.name), fun name given => ?_⟩
  exact ((left name).mp given).2.of_kept distinct sublist fun other creatable =>
    (left other).mpr ⟨creatable.given, creatable⟩

/-- A part of the tables that has an order holds none that is reported. -/
theorem not_reported_of_resolves {reported : List Text}
    (failed : resolve tables = .error (.circular reported)) (sublist : part.Sublist tables)
    (resolves : Resolves part) : ∀ table ∈ part, table.name ∉ reported := by
  -- What can be created among some tables can be created among all of them.
  intro table member inside
  have distinct := (resolve_eq_circular_iff.mp failed).1
  have creatable := (resolves_iff.mp resolves).2 table.name (List.mem_map_of_mem member)
  exact ((mem_reported_iff failed).mp inside).2 (creatable.of_sublist distinct sublist)

/-- The tables without these names have an order, and no part with an order has any of them. -/
def LeastRemoval (tables : List Table) (removed : List Text) : Prop :=
  -- Parts keep the tables in their order, as any sublist does.
  Resolves (without removed tables) ∧
    ∀ part : List Table, part.Sublist tables → Resolves part →
      ∀ table ∈ part, table.name ∉ removed

/-- A least removal is part of any other that leaves an order. -/
theorem LeastRemoval.subset {removed others : List Text} (least : LeastRemoval tables removed)
    (enough : Resolves (without others tables)) (given : removed ⊆ tables.map Table.name) :
    removed ⊆ others := by
  intro name inside
  by_contra kept
  -- A name that is kept would belong to a part with an order.
  have left : name ∈ (without others tables).map Table.name :=
    mem_names_without.mpr ⟨given inside, kept⟩
  obtain ⟨table, member, named⟩ := List.mem_map.mp left
  exact least.2 _ List.filter_sublist enough table member (named ▸ inside)

/-- The report names, once each and in input order, exactly the tables from which references lead
outside or never end, and these are the only least removal. -/
theorem resolve_circular_exact {reported : List Text}
    (failed : resolve tables = .error (.circular reported)) :
    reported ≠ [] ∧ reported.Nodup ∧ reported.Sublist (tables.map Table.name) ∧
      (∀ name, name ∈ reported ↔ name ∈ tables.map Table.name ∧
        (LeadsOutside tables name ∨ Endless tables name)) ∧
      (∀ name, Endless tables name ↔ LeadsIntoCycle tables name) ∧
      ∀ removed : List Text, removed.Sublist (tables.map Table.name) →
        (LeastRemoval tables removed ↔ removed = reported) := by
  -- What is reported are the names that were not created, which are those that cannot be.
  obtain ⟨distinct, stuck, same⟩ := resolve_eq_circular_iff.mp failed
  have inOrder : reported.Sublist (tables.map Table.name) := by
    rw [same]
    exact List.filter_sublist
  have least : LeastRemoval tables reported :=
    ⟨resolves_without_reported failed, fun _ sublist => not_reported_of_resolves failed sublist⟩
  refine ⟨?_, distinct.sublist inOrder, inOrder, ?_, fun name => endless_iff_leadsIntoCycle, ?_⟩
  · -- Some table cannot be created, and it is reported.
    intro empty
    apply stuck
    intro name given
    by_contra waits
    have inside := (mem_reported_iff failed).mpr ⟨given, waits⟩
    rw [empty] at inside
    exact List.not_mem_nil inside
  · intro name
    rw [mem_reported_iff failed, creatable_iff]
    tauto
  · intro removed sublist
    constructor
    -- Two least removals are parts of each other, and both stand in input order.
    · intro other
      have subset := other.subset least.1 sublist.subset
      have superset := least.subset other.1 inOrder.subset
      have names : removed.Perm reported :=
        (List.perm_ext_iff_of_nodup (distinct.sublist sublist) (distinct.sublist inOrder)).mpr
          fun name => ⟨fun inside => subset inside, fun inside => superset inside⟩
      exact (distinct.perm_iff_eq_of_sublist sublist inOrder).mp names
    · intro equal
      exact equal ▸ least

/-- Two tables on a cycle, one that waits for them, one that waits for a table that is not given,
and two that wait for neither. -/
def waitingTables : List Table :=
  [referring ['a'] [['b'], ['e']], referring ['c'] [['a'], ['a']], referring ['e'] [],
    referring ['d'] [['x'], ['e']], referring ['b'] [['a']], referring ['f'] [['f'], ['e']]]

/-- The first, the second, the fourth and the fifth of these tables must be left out. -/
theorem resolve_circular_exact_waiting :
    resolve waitingTables = .error (.circular [['a'], ['c'], ['d'], ['b']]) ∧
      LeastRemoval waitingTables [['a'], ['c'], ['d'], ['b']] := by
  -- The third of the tables can be created, and so it is not removed.
  have failed : resolve waitingTables = .error (.circular [['a'], ['c'], ['d'], ['b']]) := by
    cbv
  obtain ⟨_, _, sublist, _, _, least⟩ := resolve_circular_exact failed
  exact ⟨failed, (least _ sublist).mpr rfl⟩

end CreationOrder

end Ddl
