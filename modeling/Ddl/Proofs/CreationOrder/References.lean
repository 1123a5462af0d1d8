import Ddl.CreationOrder
import Mathlib.Data.Fintype.Pigeonhole
import Mathlib.Data.Fintype.Sets
import Mathlib.Logic.Relation

/-! A table can be created unless its references lead outside the tables or never end. -/

namespace Ddl

namespace CreationOrder

open Relation

variable {tables : List Table}

/-- The names of other tables that the tables of a name refer to, one for each foreign key. -/
def references (tables : List Table) (name : Text) : List Text :=
  -- Where names are distinct there is at most one such table.
  (tables.filter fun table => table.name = name).flatMap Table.outgoing

/-- A table of the first name has a foreign key to a table of the second, other name. -/
def RefersTo (tables : List Table) (name target : Text) : Prop :=
  -- References of a table to itself are not among these.
  target ∈ references tables name

/-- References are the foreign keys that leave their table. -/
theorem refersTo_iff {name target : Text} :
    RefersTo tables name target ↔ ∃ table ∈ tables, table.name = name ∧
      ∃ key ∈ table.foreignKeys, key.target.table = target ∧ target ≠ name := by
  -- Both sides pick a table and then one of its foreign keys.
  simp only [RefersTo, references, Table.outgoing, List.mem_flatMap, List.mem_filter,
    List.mem_map, decide_eq_true_eq]
  constructor
  · intro refers
    obtain ⟨table, ⟨member, named⟩, ⟨key, keyMember, aimed⟩, other⟩ := refers
    exact ⟨table, member, named, key, keyMember, aimed, named ▸ other⟩
  · intro refers
    obtain ⟨table, member, named, key, keyMember, aimed, other⟩ := refers
    exact ⟨table, ⟨member, named⟩, ⟨key, keyMember, aimed⟩, named.symm ▸ other⟩

/-- A foreign key to another table is a reference. -/
theorem refersTo_of_key {table : Table} (member : table ∈ tables) {key : ForeignKey}
    (keyMember : key ∈ table.foreignKeys) (other : key.target.table ≠ table.name) :
    RefersTo tables table.name key.target.table :=
  refersTo_iff.mpr ⟨table, member, rfl, key, keyMember, rfl, other⟩

/-- Only tables that are given refer to others. -/
theorem RefersTo.given {name target : Text} (refers : RefersTo tables name target) :
    name ∈ tables.map Table.name := by
  -- The table with the foreign key has the name.
  obtain ⟨table, member, named, _⟩ := refersTo_iff.mp refers
  exact List.mem_map.mpr ⟨table, member, named⟩

/-- No table refers to itself in this sense. -/
theorem RefersTo.ne {name target : Text} (refers : RefersTo tables name target) :
    target ≠ name := by
  obtain ⟨_, _, _, _, _, _, other⟩ := refersTo_iff.mp refers
  exact other

/-- Where names are distinct, the references of a name are those of its one table. -/
theorem references_of_mem (distinct : (tables.map Table.name).Nodup) {table : Table}
    (member : table ∈ tables) : references tables table.name = table.outgoing := by
  -- The one table with the name is kept, and no table after it has the name again.
  induction tables with
  | nil => simp at member
  | cons head rest ih =>
    rw [List.map_cons, List.nodup_cons] at distinct
    rcases List.mem_cons.mp member with same | later
    · subst table
      -- The names are distinct, so that no other table has this one.
      have others : rest.filter (fun other => other.name = head.name) = [] := by
        rw [List.filter_eq_nil_iff]
        intro other present
        have different : other.name ≠ head.name := fun same =>
          distinct.1 (same ▸ List.mem_map_of_mem present)
        simpa using different
      simp [references, others]
    · have different : head.name ≠ table.name := fun same =>
        distinct.1 (same ▸ List.mem_map_of_mem later)
      rw [references, List.filter_cons_of_neg (by simpa using different)]
      exact ih distinct.2 later

/-- Each name of the list comes after all that its table refers to. -/
def TargetsFirst (tables : List Table) (order : List Text) : Prop :=
  -- A name that is not in the list would have its place behind the end.
  ∀ name ∈ order, ∀ target, RefersTo tables name target →
    order.idxOf target < order.idxOf name

/-- What comes before a name of the list is in the list. -/
theorem TargetsFirst.mem {order : List Text} (first : TargetsFirst tables order)
    {name target : Text} (member : name ∈ order) (refers : RefersTo tables name target) :
    target ∈ order := by
  have earlier := first name member target refers
  exact List.idxOf_lt_length_iff.mp (earlier.trans (List.idxOf_lt_length_of_mem member))

/-- Every reference leads to a table that is given. -/
def Closed (tables : List Table) : Prop :=
  -- A reference of a table to itself does so anyway.
  ∀ table ∈ tables, ∀ key ∈ table.foreignKeys, key.target.table ≠ table.name →
    key.target.table ∈ tables.map Table.name

/-- No chain of references leads back to its start. -/
def Acyclic (tables : List Table) : Prop :=
  ∀ name, ¬TransGen (RefersTo tables) name name

/-- Some chain of references leads from the table to a name that no table has. -/
def LeadsOutside (tables : List Table) (name : Text) : Prop :=
  ∃ target, TransGen (RefersTo tables) name target ∧ target ∉ tables.map Table.name

/-- Some chain of references from the table can be followed for ever. -/
def Endless (tables : List Table) (name : Text) : Prop :=
  ∃ chain : Nat → Text, chain 0 = name ∧
    ∀ index, RefersTo tables (chain index) (chain (index + 1))

/-- References lead from the table to two different tables that lead to each other. -/
def LeadsIntoCycle (tables : List Table) (name : Text) : Prop :=
  ∃ first second, first ≠ second ∧ ReflTransGen (RefersTo tables) name first ∧
    ReflTransGen (RefersTo tables) first second ∧ ReflTransGen (RefersTo tables) second first

/-- Tables that can be created one after another, each after all that it refers to. -/
inductive Creatable (tables : List Table) : Text → Prop
  /-- A table that is given can be created when all that it refers to can. -/
  | intro {name : Text} (given : name ∈ tables.map Table.name)
      (targets : ∀ target, RefersTo tables name target → Creatable tables target) :
      Creatable tables name

/-- Only tables that are given can be created. -/
theorem Creatable.given {name : Text} (creatable : Creatable tables name) :
    name ∈ tables.map Table.name := by
  cases creatable with
  | intro given _ => exact given

/-- What a creatable table leads to is creatable. -/
theorem Creatable.of_reachable {name target : Text} (creatable : Creatable tables name)
    (leads : ReflTransGen (RefersTo tables) name target) : Creatable tables target := by
  -- Each reference on the way leaves a creatable table.
  induction leads with
  | refl => exact creatable
  | tail _ refers ih =>
    cases ih with
    | intro _ targets => exact targets _ refers

/-- No chain of references leads from a creatable table back to it. -/
theorem Creatable.not_cyclic {name : Text} (creatable : Creatable tables name) :
    ¬TransGen (RefersTo tables) name name := by
  -- The first table on the way back would be creatable and lie on the same cycle.
  induction creatable with
  | intro _ _ ih =>
    intro cycle
    obtain ⟨next, refers, back⟩ := TransGen.head'_iff.mp cycle
    exact ih next refers (TransGen.tail' back refers)

/-- References from a creatable table never lead outside. -/
theorem Creatable.not_leadsOutside {name : Text} (creatable : Creatable tables name) :
    ¬LeadsOutside tables name := by
  intro outside
  obtain ⟨target, leads, absent⟩ := outside
  exact absent (creatable.of_reachable leads.to_reflTransGen).given

/-- What leads into a cycle leads to a table from which references lead back to it. -/
theorem LeadsIntoCycle.returns {name : Text} (into : LeadsIntoCycle tables name) :
    ∃ first, ReflTransGen (RefersTo tables) name first ∧
      TransGen (RefersTo tables) first first := by
  -- The two tables of the cycle are different, so at least one reference is on the way round.
  obtain ⟨first, second, different, leads, there, back⟩ := into
  rcases reflTransGen_iff_eq_or_transGen.mp there with same | forth
  · exact absurd same.symm different
  · exact ⟨first, leads, forth.trans_left back⟩

/-- References from a creatable table never lead into a cycle. -/
theorem Creatable.not_leadsIntoCycle {name : Text} (creatable : Creatable tables name) :
    ¬LeadsIntoCycle tables name := by
  intro into
  obtain ⟨first, leads, cycle⟩ := into.returns
  exact (creatable.of_reachable leads).not_cyclic cycle

/-- A property that some reference always keeps gives a chain that never ends. -/
theorem endless_of_onward (holds : Text → Prop) {name : Text} (here : holds name)
    (onward : ∀ name, holds name → ∃ target, RefersTo tables name target ∧ holds target) :
    Endless tables name := by
  -- Each table with the property chooses the next one.
  choose next refers kept using onward
  let chain : Nat → { name // holds name } :=
    Nat.rec ⟨name, here⟩ fun _ current => ⟨next current.1 current.2, kept current.1 current.2⟩
  exact ⟨fun index => (chain index).1, rfl, fun index => refers (chain index).1 (chain index).2⟩

/-- A chain of references connects each of its tables to all later ones. -/
theorem reaches_of_chain {chain : Nat → Text}
    (linked : ∀ index, RefersTo tables (chain index) (chain (index + 1))) (start length : Nat) :
    ReflTransGen (RefersTo tables) (chain start) (chain (start + length)) := by
  -- One reference after another is put at the end.
  induction length with
  | zero => exact ReflTransGen.refl
  | succ length ih => exact ih.tail (linked (start + length))

/-- A chain that never ends comes to one of the finitely many tables twice. -/
theorem exists_repeat_of_chain {chain : Nat → Text}
    (linked : ∀ index, RefersTo tables (chain index) (chain (index + 1))) :
    ∃ early length, chain early = chain (early + 1 + length) := by
  let visited : Nat → { name // name ∈ tables.map Table.name } :=
    fun index => ⟨chain index, (linked index).given⟩
  obtain ⟨one, other, different, meet⟩ := Finite.exists_ne_map_eq_of_infinite visited
  have same : chain one = chain other := congrArg Subtype.val meet
  -- The distance between the two visits is counted from the earlier one.
  rcases Nat.lt_or_gt_of_ne different with earlier | later
  · exact ⟨one, other - one - 1, by rw [same]; congr 1; omega⟩
  · exact ⟨other, one - other - 1, by rw [← same]; congr 1; omega⟩

/-- References can be followed for ever exactly from the tables that lead into a cycle. -/
theorem endless_iff_leadsIntoCycle {name : Text} :
    Endless tables name ↔ LeadsIntoCycle tables name := by
  constructor
  · intro endless
    obtain ⟨chain, start, linked⟩ := endless
    subst name
    -- Between two visits of the same table the chain goes round a cycle.
    obtain ⟨early, length, same⟩ := exists_repeat_of_chain linked
    have reached := reaches_of_chain linked 0 early
    rw [Nat.zero_add] at reached
    have back := reaches_of_chain linked (early + 1) length
    rw [← same] at back
    exact ⟨chain early, chain (early + 1), (linked early).ne.symm, reached,
      ReflTransGen.single (linked early), back⟩
  · intro into
    -- From every table that leads into a cycle some reference stays on the way or on the cycle.
    apply endless_of_onward (LeadsIntoCycle tables) into
    intro name into
    obtain ⟨first, second, different, leads, there, back⟩ := into
    rcases ReflTransGen.cases_head leads with same | ⟨target, refers, leads⟩
    · subst first
      rcases ReflTransGen.cases_head there with same | ⟨target, refers, there⟩
      · exact absurd same different
      · exact ⟨target, refers, second, name, different.symm, there, back,
          ReflTransGen.head refers there⟩
    · exact ⟨target, refers, first, second, different, leads, there, back⟩

/-- A table can be created unless its references lead outside or never end. -/
theorem creatable_iff {name : Text} :
    Creatable tables name ↔ name ∈ tables.map Table.name ∧
      ¬(LeadsOutside tables name ∨ Endless tables name) := by
  constructor
  -- Everything a creatable table leads to is creatable, which none of the two allows.
  · intro creatable
    refine ⟨creatable.given, ?_⟩
    intro stuck
    rcases stuck with outside | endless
    · exact creatable.not_leadsOutside outside
    · exact creatable.not_leadsIntoCycle (endless_iff_leadsIntoCycle.mp endless)
  · intro free
    obtain ⟨given, neither⟩ := free
    by_contra stuck
    -- A table that cannot be created refers to another such table, for ever.
    refine neither (or_iff_not_imp_left.mpr fun inside => ?_)
    apply endless_of_onward (fun name => name ∈ tables.map Table.name ∧
      ¬Creatable tables name ∧ ¬LeadsOutside tables name) ⟨given, stuck, inside⟩
    intro name here
    obtain ⟨given, stuck, inside⟩ := here
    -- Were all of its references creatable, the table would be as well.
    obtain ⟨target, refers, stuckTarget⟩ :
        ∃ target, RefersTo tables name target ∧ ¬Creatable tables target := by
      by_contra allCreatable
      push Not at allCreatable
      exact stuck (Creatable.intro given allCreatable)
    refine ⟨target, refers, ?_, stuckTarget, ?_⟩
    · by_contra absent
      exact inside ⟨target, TransGen.single refers, absent⟩
    · intro outside
      obtain ⟨last, leads, absent⟩ := outside
      exact inside ⟨last, TransGen.head refers leads, absent⟩

/-- Every reference of closed tables leads to a table that is given. -/
theorem Closed.target_given (closed : Closed tables) {name target : Text}
    (refers : RefersTo tables name target) : target ∈ tables.map Table.name := by
  obtain ⟨table, member, rfl, key, keyMember, rfl, other⟩ := refersTo_iff.mp refers
  exact closed table member key keyMember other

/-- All tables can be created exactly when their references stay inside and have no cycle. -/
theorem forall_creatable_iff :
    (∀ name ∈ tables.map Table.name, Creatable tables name) ↔ Closed tables ∧ Acyclic tables := by
  constructor
  · intro creatable
    -- The target of a reference can be created too, so it is given and leads back to no table.
    refine ⟨?_, ?_⟩
    · intro table member key keyMember other
      have refers := refersTo_of_key member keyMember other
      exact ((creatable _ refers.given).of_reachable (ReflTransGen.single refers)).given
    · intro name cycle
      obtain ⟨next, refers, _⟩ := TransGen.head'_iff.mp cycle
      exact (creatable name refers.given).not_cyclic cycle
  · intro sound name given
    obtain ⟨closed, acyclic⟩ := sound
    -- Neither of the two ways of being stuck is left.
    refine creatable_iff.mpr ⟨given, ?_⟩
    intro stuck
    rcases stuck with ⟨target, leads, absent⟩ | endless
    · obtain ⟨_, _, refers⟩ := TransGen.tail'_iff.mp leads
      exact absent (closed.target_given refers)
    · obtain ⟨first, _, cycle⟩ := (endless_iff_leadsIntoCycle.mp endless).returns
      exact acyclic first cycle

/-- Which tables can be created is decided by their names and the pairs of names that refer. -/
theorem Creatable.congr {others : List Table}
    (names : others.map Table.name = tables.map Table.name)
    (same : ∀ name target, RefersTo others name target ↔ RefersTo tables name target)
    {name : Text} (creatable : Creatable tables name) : Creatable others name := by
  -- All targets can be created among the other tables by induction.
  induction creatable with
  | intro given _ ih =>
    refine Creatable.intro (names ▸ given) fun target refers => ?_
    exact ih target ((same _ target).mp refers)

end CreationOrder

end Ddl
