import Ddl.Proofs.CreationOrder.Lookups

/-! Every round creates one table, and the counts tell what is awaited before and in each round. -/

namespace Ddl

namespace CreationOrder

variable {tables : List Table} {state : State}

/-- The state before a round, where rounds count from zero, if it comes to this round. -/
def atRound? (tables : List Table) : Nat → Option State
  | 0 => some (State.start tables)
  | round + 1 => (atRound? tables round).bind (State.step? tables)

/-- Rounds go from one reachable state to the next. -/
theorem reachable_of_atRound? {round : Nat} (come : atRound? tables round = some state) :
    Reachable tables state := by
  -- Before the first round the run begins, and each round takes a step.
  induction round generalizing state with
  | zero =>
    obtain rfl := Option.some.inj come
    exact Reachable.start
  | succ round ih =>
    obtain ⟨before, earlier, stepped⟩ := Option.bind_eq_some_iff.mp come
    exact (ih earlier).step stepped

/-- A step creates one table. -/
theorem length_created_step {next : State} (stepped : state.step? tables = some next) :
    next.created.length = state.created.length + 1 := by
  -- To settle references changes counts, and not what is created.
  unfold State.step? at stepped
  split at stepped
  · simp at stepped
  · rw [← Option.some.inj stepped, State.created_foldl_release, List.length_append,
      List.length_singleton]

/-- Before a round as many tables are created as rounds are over. -/
theorem length_created_of_atRound? {round : Nat} (come : atRound? tables round = some state) :
    state.created.length = round := by
  -- Each round adds one table.
  induction round generalizing state with
  | zero =>
    obtain rfl := Option.some.inj come
    rfl
  | succ round ih =>
    obtain ⟨before, earlier, stepped⟩ := Option.bind_eq_some_iff.mp come
    rw [length_created_step stepped, ih earlier]

/-- The rounds come to the last state of a run that begins before one of them. -/
theorem exists_atRound?_run {round : Nat} (come : atRound? tables round = some state) :
    ∃ last, atRound? tables last = some (state.run tables) := by
  -- As long as a step is possible there is a further round.
  fun_induction State.run tables state generalizing round with
  | case1 state finished => exact ⟨round, come⟩
  | case2 state next stepped ih =>
    have further : atRound? tables (round + 1) = some next := by
      rw [atRound?, come, Option.bind_some, stepped]
    exact ih further

/-- There is no round after one that is not come to. -/
theorem atRound?_of_none {round later : Nat} (ended : atRound? tables round = none)
    (ordered : round ≤ later) : atRound? tables later = none := by
  induction later, ordered using Nat.le_induction with
  | base => exact ended
  | succ later _ ih => rw [atRound?, ih, Option.bind_none]

/-- A table awaits its foreign keys to other tables that are not created. -/
theorem awaited_eq_countP (distinct : (tables.map Table.name).Nodup) {table : Table}
    (member : table ∈ tables) (created : List Text) :
    awaited tables created table.name = table.foreignKeys.countP fun key =>
      key.target.table ≠ table.name ∧ key.target.table ∉ created := by
  -- The references of the table are those of its keys that lead to another one.
  rw [awaited, references_of_mem distinct member, Table.outgoing, List.countP_filter,
    List.countP_map]
  congr 1
  funext key
  simp [Bool.and_comm]

/-- What holds before a round. -/
structure Balanced (tables : List Table) (state : State) : Prop where
  /-- There is a count for each table and for nothing else. -/
  names : state.waiting.names = tables.map Table.name
  /-- The count is the number of foreign keys to other tables that are not created. -/
  counted : ∀ table ∈ tables, state.waiting.get? table.name =
    some ((table.foreignKeys.countP fun key =>
      key.target.table ≠ table.name ∧ key.target.table ∉ state.created : Nat) : Int)
  /-- Only tables that are given are created, so that keys to others count for ever. -/
  given : ∀ name ∈ state.created, name ∈ tables.map Table.name
  /-- No table is created twice, ready twice, or both. -/
  once : (state.created ++ state.ready).Nodup
  /-- Those are created or ready whose count is zero. -/
  zero_iff : ∀ name, name ∈ state.created ++ state.ready ↔ state.waiting.get? name = some 0

/-- The counts tell what is awaited in every state on the way. -/
theorem Reachable.balanced (distinct : (tables.map Table.name).Nodup)
    (reachable : Reachable tables state) : Balanced tables state := by
  have sound := reachable.sound distinct
  have names := reachable.waiting_names distinct
  refine ⟨names, fun table member => ?_, fun name created => ?_, sound.distinct, fun name => ?_⟩
  · rw [sound.counted _ (List.mem_map_of_mem member), awaited_eq_countP distinct member]
  · exact sound.given name (List.mem_append_left _ created)
  · by_cases given : name ∈ tables.map Table.name
    · rw [sound.counted name given, Option.some.injEq, Int.natCast_eq_zero]
      exact sound.listed_iff name given
    · -- A name that no table has is not listed and has no count.
      have uncounted : state.waiting.get? name = none := by
        rw [← Option.not_isSome_iff_eq_none, OrderedMap.isSome_get?_iff, names]
        exact given
      rw [uncounted]
      exact iff_of_false (fun listed => given (sound.given name listed)) (by simp)

/-- What holds in a round, after some of the references to its table are settled. -/
structure Midway (state middle : State) : Prop where
  /-- No count is negative. -/
  nonnegative : ∀ name count, middle.waiting.get? name = some count → 0 ≤ count
  /-- Tables become ready behind those that were created or ready before the round. -/
  grown : state.created ++ state.ready <+: middle.created ++ middle.ready
  /-- No table becomes ready for a second time. -/
  once : (middle.created ++ middle.ready).Nodup

/-- A reference that is settled makes tables ready behind the others. -/
theorem ready_prefix_foldl_release (names : List Text) (state : State) :
    state.ready <+: (names.foldl State.release state).ready := by
  -- Each name that is settled adds at most itself, at the end.
  induction names generalizing state with
  | nil => exact List.prefix_refl _
  | cons name rest ih =>
    refine List.IsPrefix.trans ?_ (ih (state.release name))
    cases found : state.waiting.get? name with
    | none => simp [State.release, found]
    | some count =>
      rw [State.ready_release found]
      exact List.prefix_append _ _

/-- A table has no more references to the next one than it awaits. -/
theorem count_dependents_le (distinct : (tables.map Table.name).Nodup) {created : List Text}
    {current name : Text} (new : current ∉ created) (given : name ∈ tables.map Table.name) :
    (dependents tables current).count name ≤ awaited tables created name := by
  have settled := awaited_append tables new name
  rw [dependents_eq distinct, count_flatMap_replicate distinct _ given]
  omega

/-- In a round counts go down to zero at most, and each table becomes ready at most once. -/
theorem Reachable.midway (distinct : (tables.map Table.name).Nodup)
    (reachable : Reachable tables state) {current : Text} {later settled : List Text}
    (ready : state.ready = current :: later) (part : settled <+: dependents tables current) :
    Midway state (settled.foldl State.release
      { state with ready := later, created := state.created ++ [current] }) := by
  have sound := reachable.sound distinct
  let front : State := { state with ready := later, created := state.created ++ [current] }
  -- The current table goes from the ready ones to those that are created.
  have listed : front.created ++ front.ready = state.created ++ state.ready := by
    simp [front, ready]
  have new : current ∉ state.created := by
    have apart := sound.distinct
    rw [State.listed, ready] at apart
    exact not_mem_front apart
  refine ⟨fun name count found => ?_, ?_, ?_⟩
  · rw [State.get?_foldl_release] at found
    obtain ⟨before, known, rfl⟩ := Option.map_eq_some_iff.mp found
    -- Only a part of the references to the table is settled.
    have given : name ∈ tables.map Table.name := by
      rw [← reachable.waiting_names distinct, ← OrderedMap.isSome_get?_iff]
      exact Option.isSome_iff_exists.mpr ⟨before, known⟩
    have start : before = awaited tables state.created name :=
      Option.some.inj (known.symm.trans (sound.counted name given))
    have fewer := part.sublist.count_le name
    have bounded := count_dependents_le distinct new given
    omega
  · rw [State.created_foldl_release, ← listed]
    exact (List.prefix_append_right_inj _).mpr (ready_prefix_foldl_release settled front)
  · -- What is listed in the middle begins the list after the round, where no name is repeated.
    obtain ⟨rest, split⟩ := part
    have stepped : state.step? tables =
        some ((dependents tables current).foldl State.release front) := by
      rw [State.step?, ready]
    have whole := (reachable.step stepped).sound distinct |>.distinct
    rw [← split, List.foldl_append] at whole
    have begins := ready_prefix_foldl_release rest (settled.foldl State.release front)
    rw [State.listed, State.created_foldl_release] at whole
    exact whole.sublist (((List.prefix_append_right_inj _).mpr begins).sublist)

/-- No look-up fails in a round, and what holds in a round holds after each of them. -/
theorem Reachable.settled (distinct : (tables.map Table.name).Nodup) {graph : Graph}
    (follows : Graph.Follows (tables.map Table.name) (Graph.references tables) graph)
    (reachable : Reachable tables state) {current : Text} {later : List Text}
    (ready : state.ready = current :: later) :
    ∃ released, graph.dependents.get? current = some released ∧
      ∀ settled, settled <+: released → ∃ middle, settled.foldlM State.settle
        { state with ready := later, created := state.created ++ [current] } = .ok middle ∧
          Midway state middle := by
  have given : current ∈ tables.map Table.name := by
    apply (reachable.sound distinct).given
    simp [State.listed, ready]
  refine ⟨dependents tables current, follows.get?_dependents given, fun settled part => ?_⟩
  -- Those that refer to a table are tables themselves, and have counts.
  have counted : ∀ name ∈ settled, name ∈ state.waiting.names := by
    intro name member
    rw [reachable.waiting_names distinct]
    exact mem_names_of_mem_dependents (part.subset member)
  exact ⟨_, State.foldlM_settle counted, reachable.midway distinct ready part⟩

/-- No more tables are created than are given. -/
theorem Balanced.length_created_le (balanced : Balanced tables state) :
    state.created.length ≤ tables.length := by
  have once := (List.nodup_append.mp balanced.once).1
  simpa using (once.subperm balanced.given).length_le

/-- Distinct tables have a graph, and as long as tables are ready their rounds go on without a
look-up that fails; the counts tell what is awaited before each round, none is negative in it and
no table becomes ready twice, and there are no more rounds than tables. -/
theorem rounds_balanced (distinct : (tables.map Table.name).Nodup) :
    ∃ graph, Graph.ofTables tables = .ok graph ∧ graph.start = State.start tables ∧
      (∀ round state, atRound? tables round = some state →
        Balanced tables state ∧ state.advance graph.dependents = .ok (state.step? tables) ∧
        ∀ current later, state.ready = current :: later →
          ∃ released, graph.dependents.get? current = some released ∧
            ∀ settled, settled <+: released → ∃ middle, settled.foldlM State.settle
              { state with ready := later, created := state.created ++ [current] } = .ok middle ∧
                Midway state middle) ∧
      ∃ rounds ≤ tables.length,
        atRound? tables rounds = some ((State.start tables).run tables) ∧
        ((State.start tables).run tables).ready = [] ∧
        ∀ later, rounds < later → atRound? tables later = none := by
  -- The rounds follow the graph, and each state before one of them is reached from the start.
  obtain ⟨graph, built, follows⟩ := Graph.ofTables_of_nodup distinct
  refine ⟨graph, built, follows.start_eq distinct, fun round state come => ?_, ?_⟩
  · have reachable := reachable_of_atRound? come
    exact ⟨reachable.balanced distinct, reachable.advance_eq distinct follows,
      fun current later ready => reachable.settled distinct follows ready⟩
  · -- The last round is the one before which no table is ready.
    have first : atRound? tables 0 = some (State.start tables) := rfl
    obtain ⟨rounds, come⟩ := exists_atRound?_run first
    have fewer := ((reachable_of_atRound? come).balanced distinct).length_created_le
    rw [length_created_of_atRound? come] at fewer
    have idle := ready_run tables (State.start tables)
    have ended : atRound? tables (rounds + 1) = none := by
      rw [atRound?, come, Option.bind_some, State.step?, idle]
    exact ⟨rounds, fewer, come, idle, fun later further => atRound?_of_none ended further⟩

/-- Messages refer twice to users and once to a table that is not given. -/
def parallelTables : List Table :=
  [referring "messages".toList ["users".toList, "users".toList, "groups".toList],
    referring "users".toList ["users".toList]]

/-- In the end the table that is not given is still awaited, and not the users any more. -/
theorem rounds_balanced_parallel :
    (parallelTables.map Table.name).Nodup ∧
      ∃ rounds ≤ 2, ∃ last, atRound? parallelTables rounds = some last ∧
        last.created = ["users".toList] ∧ last.waiting.get? "messages".toList = some 1 := by
  have distinct : (parallelTables.map Table.name).Nodup := by decide
  obtain ⟨graph, -, -, before, rounds, fewer, come, -⟩ := rounds_balanced distinct
  have created : finallyCreated parallelTables = ["users".toList] := by cbv
  refine ⟨distinct, rounds, fewer, _, come, created, ?_⟩
  -- The count is that of the keys to other tables that are not created.
  have counted := (before rounds _ come).1.counted _ List.mem_cons_self
  rw [← finallyCreated, created] at counted
  exact counted

end CreationOrder

end Ddl
