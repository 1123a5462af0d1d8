import Ddl.Proofs.CreationOrder.SameReferences
import Ddl.Proofs.Plan.Replay

/-! Tables that stand in the order in which they are created are created in that order again. -/

namespace Ddl

namespace CreationOrder

variable {tables others : List Table} {order : List Text}

/-- Tables refer to the same others in any arrangement. -/
theorem refersTo_perm (rearranged : others.Perm tables) {name target : Text} :
    RefersTo others name target ↔ RefersTo tables name target := by
  simp only [refersTo_iff, rearranged.mem_iff]

/-- What can be created does not depend on the order of the tables. -/
theorem Creatable.perm (rearranged : others.Perm tables) {name : Text}
    (creatable : Creatable tables name) : Creatable others name := by
  induction creatable with
  | intro given _ ih =>
    -- What a table waits for is the same, and so is what can be created before it.
    refine .intro ((rearranged.map Table.name).mem_iff.mpr given) fun target refers => ?_
    exact ih target ((refersTo_perm rearranged).mp refers)

/-- Whether there is an order does not depend on how the tables are arranged. -/
theorem Resolves.perm (rearranged : others.Perm tables) (resolves : Resolves tables) :
    Resolves others := by
  obtain ⟨distinct, creatable⟩ := resolves_iff.mp resolves
  -- Names stay distinct, and each of them stays creatable.
  have names := rearranged.map Table.name
  refine resolves_iff.mpr ⟨names.nodup_iff.mpr distinct, fun name given => ?_⟩
  exact (creatable name (names.mem_iff.mp given)).perm rearranged

/-- Nor does it matter for the last references in an order. -/
theorem lastReference_perm (rearranged : others.Perm tables) (name : Text) :
    lastReference others order name = lastReference tables order name :=
  le_antisymm (lastReference_mono fun _ => (refersTo_perm rearranged).mp)
    (lastReference_mono fun _ => (refersTo_perm rearranged).mpr)

/-- A canonical order is canonical for the tables in this order, too. -/
theorem Canonical.of_named (canonical : Canonical tables order) (distinct : order.Nodup)
    (rearranged : others.Perm tables) (named : others.map Table.name = order) :
    Canonical others order := by
  have places := pairwise_idxOf_of_sublist distinct (List.Sublist.refl _)
  refine places.imp_of_mem fun isFirst isSecond earlier => ?_
  -- Last references never move back, and where two agree the place among the tables decides.
  have last := lastReference_le_of_idxOf_le canonical isFirst isSecond earlier.le
  rw [rank, rank, lastReference_perm rearranged, lastReference_perm rearranged, named,
    Prod.lex_def]
  exact last.lt_or_eq.imp_right fun same => ⟨same, earlier⟩

/-- Tables in the order that was found for them have this order. -/
theorem resolve_of_named (resolved : resolve tables = .ok order)
    (rearranged : others.Perm tables) (named : others.map Table.name = order) :
    resolve others = .ok order := by
  obtain ⟨other, again⟩ := Resolves.perm rearranged ⟨order, resolved⟩
  have names : order.Perm other := named ▸ (perm_of_resolve again).symm
  -- Both orders are canonical for the tables as they stand now, and only one order is.
  obtain ⟨distinct, -, rfl⟩ := resolve_eq_ok_iff.mp resolved
  have canonical : Canonical others (finallyCreated tables) :=
    (canonical_finallyCreated distinct).of_named (nodup_finallyCreated distinct) rearranged named
  obtain ⟨otherDistinct, -, rfl⟩ := resolve_eq_ok_iff.mp again
  rw [again, canonical_unique (nodup_finallyCreated otherDistinct)
    (targetsFirst_finallyCreated otherDistinct) (canonical_finallyCreated otherDistinct) canonical
    names]

/-- The tables of a plan stand in the order in which they are created. -/
theorem resolve_tables_of_plan {plan : Plan} (planned : Plan.ofTables tables = .ok plan) :
    resolve plan.tables = .ok plan.order := by
  have replays := Plan.replays_of_ofTables planned
  obtain ⟨order, resolved, rfl⟩ := Plan.ofTables_eq_ok_iff.mp planned
  exact resolve_of_named resolved replays.permuted replays.named.symm

/-- Tables can be put into the order that is found for them, in one way only, and then the same
order is found again. This is how the tables of a plan stand. -/
theorem resolve_idempotent :
    (∀ (tables : List Table) (order : List Text), resolve tables = .ok order →
      (∃! others : List Table, others.Perm tables ∧ others.map Table.name = order) ∧
      ∀ others : List Table, others.Perm tables → others.map Table.name = order →
        resolve others = .ok order) ∧
    ∀ (limit? : Option Int) (statements : List Text) (plan : Plan),
      Plan.ofStatements limit? statements = .ok plan → resolve plan.tables = .ok plan.order := by
  refine ⟨fun tables order resolved => ⟨?_, fun _ => resolve_of_named resolved⟩,
    fun limit? statements plan planned => ?_⟩
  · -- Distinct names leave no choice in how the tables are put into the order.
    have distinct := (resolve_eq_ok_iff.mp resolved).1
    have names := perm_of_resolve resolved
    refine ⟨_, ⟨Plan.perm_filterMap_byName distinct names,
      Plan.map_name_filterMap_byName distinct fun name => names.mem_iff.mp⟩, ?_⟩
    rintro others ⟨rearranged, named⟩
    -- Each table is the one that is found under its name.
    have found : ∀ table ∈ others,
        ((Plan.byName tables).get? ∘ Table.name) table = some table :=
      fun table member => Plan.get?_byName distinct (rearranged.mem_iff.mp member)
    rw [← named, List.filterMap_map, List.filterMap_congr found, List.filterMap_some]
  · obtain ⟨tables, -, built⟩ := Plan.ofStatements_eq_ok planned
    exact resolve_tables_of_plan built

/-- Two statements, of which the first one refers to the table of the second one. -/
def referringStatements : List Text :=
  ["CREATE TABLE b (c INT REFERENCES a(k))".toList, "CREATE TABLE a (k INT)".toList]

/-- The diamond is resolved again from its own order, and a plan from its tables. -/
theorem resolve_idempotent_diamond :
    resolve [referring ['e'] [], referring ['a'] [], referring ['c'] [['a'], ['a']],
        referring ['b'] [['b'], ['a']], referring ['d'] [['b'], ['c'], ['b']]] =
      .ok [['e'], ['a'], ['c'], ['b'], ['d']] ∧
    ∃ plan, Plan.ofStatements none referringStatements = .ok plan ∧
      plan.order = [['a'], ['b']] ∧ resolve plan.tables = .ok plan.order := by
  -- The first half is about a list of tables, and the second about a plan that is read from
  -- statements.
  have resolved : resolve diamondTables = .ok [['e'], ['a'], ['c'], ['b'], ['d']] := by
    cbv
  refine ⟨(resolve_idempotent.1 _ _ resolved).2 _ ?_ rfl, ?_⟩
  · decide +kernel
  · have order : (Plan.ofStatements none referringStatements).toOption.map Plan.order =
        some [['a'], ['b']] := by decide +kernel
    cases planned : Plan.ofStatements none referringStatements with
    | error error => simp [planned, Except.toOption] at order
    | ok plan =>
      have again := resolve_idempotent.2 _ _ _ planned
      exact ⟨plan, rfl, by simpa [planned, Except.toOption] using order, again⟩

end CreationOrder

end Ddl
