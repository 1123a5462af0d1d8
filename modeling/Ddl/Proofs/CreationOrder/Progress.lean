import Ddl.Proofs.CreationOrder.Settling

/-! The counts agree with the tables created at every step, so all that can be created is. -/

namespace Ddl

namespace CreationOrder

variable {tables : List Table}

/-- The names in the order of creation, as far as it is known. -/
def State.listed (state : State) : List Text :=
  state.created ++ state.ready

/-- What holds between the counts, the ready tables and the created ones at every step. -/
structure Sound (tables : List Table) (state : State) : Prop where
  /-- Each count is the number of references to tables not yet created. -/
  counted : ∀ name ∈ tables.map Table.name,
    state.waiting.get? name = some (awaited tables state.created name : Int)
  /-- Only tables that are given become ready. -/
  given : ∀ name ∈ state.listed, name ∈ tables.map Table.name
  /-- Those tables are ready or created that wait for nothing. -/
  listed_iff : ∀ name ∈ tables.map Table.name,
    name ∈ state.listed ↔ awaited tables state.created name = 0
  /-- No table becomes ready twice. -/
  distinct : state.listed.Nodup
  /-- A table comes after all that it refers to. -/
  ordered : TargetsFirst tables state.listed

/-- A state on the way from the start to the end of the run. -/
inductive Reachable (tables : List Table) : State → Prop
  /-- The way begins before any table is created. -/
  | start : Reachable tables (State.start tables)
  /-- It goes on as long as a table is ready. -/
  | step {state next : State} (reachable : Reachable tables state)
      (stepped : state.step? tables = some next) : Reachable tables next

/-- At the start each table waits for all its references. -/
theorem get?_waiting_start (distinct : (tables.map Table.name).Nodup) {name : Text}
    (given : name ∈ tables.map Table.name) :
    (State.start tables).waiting.get? name = some (awaited tables [] name : Int) := by
  -- Nothing is created, so every reference of the one table with the name counts.
  obtain ⟨table, member, named⟩ := List.mem_map.mp given
  subst name
  have count : awaited tables [] table.name = table.outgoing.length := by
    simp [awaited, references_of_mem distinct member]
  rw [State.start, count]
  exact OrderedMap.get?_ofList (by simpa [Function.comp_def] using distinct)
    (List.mem_map.mpr ⟨table, member, rfl⟩)

/-- Before anything is created those tables wait for nothing that refer to no other. -/
theorem filter_awaited_nil (distinct : (tables.map Table.name).Nodup) :
    ((tables.map Table.name).filter fun name => awaited tables [] name = 0) =
      (tables.filter fun table => table.outgoing = []).map Table.name := by
  rw [List.filter_map]
  refine congrArg (List.map Table.name) (List.filter_congr fun table member => ?_)
  simp [awaited, references_of_mem distinct member]

/-- At the start those tables are ready that wait for nothing, in input order. -/
theorem ready_start (distinct : (tables.map Table.name).Nodup) :
    (State.start tables).ready =
      (tables.map Table.name).filter fun name => awaited tables [] name = 0 := by
  -- The counts at the start are the numbers of references.
  have entries : (State.start tables).waiting.entries =
      tables.map fun table => (table.name, (table.outgoing.length : Int)) :=
    OrderedMap.entries_ofList (by simpa [Function.comp_def] using distinct)
  have ready : (State.start tables).ready =
      ((State.start tables).waiting.entries.filter fun entry => entry.2 = 0).map Prod.fst := rfl
  rw [filter_awaited_nil distinct, ready, entries, List.filter_map, List.map_map]
  simp [Function.comp_def]

/-- Where names are distinct, a name does not stand in front of itself. -/
theorem not_mem_front {front behind : List Text} {name : Text}
    (distinct : (front ++ name :: behind).Nodup) : name ∉ front := by
  intro inside
  have apart := (List.nodup_cons.mp (List.nodup_middle.mp distinct)).1
  exact apart (List.mem_append_left _ inside)

/-- A step creates the first ready table and makes those ready that it frees, in input order. -/
theorem step?_eq_some (distinct : (tables.map Table.name).Nodup) {state next : State}
    (sound : Sound tables state) (stepped : state.step? tables = some next) :
    ∃ current later, state.ready = current :: later ∧ current ∉ state.created ∧
      next.created = state.created ++ [current] ∧
      next.ready = later ++ freed tables state.created current ∧
      ∀ name ∈ tables.map Table.name,
        next.waiting.get? name = some (awaited tables next.created name : Int) := by
  unfold State.step? at stepped
  split at stepped
  · simp at stepped
  · rename_i current later ready
    simp only [Option.some.injEq] at stepped
    subst next
    have new : current ∉ state.created := by
      have apart := sound.distinct
      rw [State.listed, ready] at apart
      exact not_mem_front apart
    -- The counts before the references are settled are still those of the old state.
    have counted : ∀ name ∈ tables.map Table.name,
        ({ state with ready := later, created := state.created ++ [current] } :
          State).waiting.get? name = some (awaited tables state.created name : Int) :=
      sound.counted
    refine ⟨current, later, ready, new, State.created_foldl_release _ _, ?_, ?_⟩
    · -- The last reference of a table is settled here when all others were settled before.
      rw [dependents_eq distinct, State.ready_foldl_flatMap distinct _ _ counted]
      congr 1
      refine List.filter_congr fun name _ => ?_
      have settled := awaited_append tables new name
      rw [decide_eq_decide]
      omega
    · intro name given
      have settled := awaited_append tables new name
      rw [State.get?_foldl_release, State.created_foldl_release, dependents_eq distinct,
        count_flatMap_replicate distinct _ given, counted name given, Option.map_some]
      congr 1
      dsimp only
      omega

/-- A step keeps the names that are listed already and adds those that it frees. -/
theorem listed_step {state next : State} {current : Text} {later : List Text}
    (ready : state.ready = current :: later) (created : next.created = state.created ++ [current])
    (readied : next.ready = later ++ freed tables state.created current) :
    next.listed = state.listed ++ freed tables state.created current := by
  simp [State.listed, ready, created, readied]

/-- The counts, the ready tables and the created ones agree at the start. -/
theorem sound_start (distinct : (tables.map Table.name).Nodup) :
    Sound tables (State.start tables) := by
  have listed : (State.start tables).listed =
      (tables.map Table.name).filter fun name => awaited tables [] name = 0 := by
    rw [← ready_start distinct]
    rfl
  refine ⟨fun name given => get?_waiting_start distinct given, ?_, ?_, ?_, ?_⟩
  · intro name member
    rw [listed] at member
    exact (List.mem_filter.mp member).1
  · intro name given
    have created : (State.start tables).created = [] := rfl
    simp [listed, created, given]
  · rw [listed]
    exact distinct.filter _
  · -- No table that is listed refers to another.
    intro name member target refers
    rw [listed, List.mem_filter, decide_eq_true_eq, awaited_eq_zero_iff] at member
    exact absurd (member.2 target refers) (by simp)

/-- A step keeps the counts, the ready tables and the created ones in agreement. -/
theorem sound_step (distinct : (tables.map Table.name).Nodup) {state next : State}
    (sound : Sound tables state) (stepped : state.step? tables = some next) :
    Sound tables next := by
  obtain ⟨current, later, ready, new, created, readied, counted⟩ :=
    step?_eq_some distinct sound stepped
  have listed := listed_step ready created readied
  have reached : ∀ target ∈ state.created ++ [current], target ∈ state.listed := by
    intro target member
    rw [State.listed, ready]
    simp only [List.mem_append, List.mem_cons] at member ⊢
    tauto
  have waited : ∀ name ∈ freed tables state.created current, name ∉ state.listed := by
    intro name member inside
    simp only [freed, List.mem_filter, decide_eq_true_eq] at member
    have := (sound.listed_iff name member.1).mp inside
    omega
  -- What held for the listed names is shown for them with the freed ones behind them.
  refine ⟨counted, ?_, ?_, ?_, ?_⟩
  · intro name member
    rw [listed, List.mem_append] at member
    rcases member with old | free
    · exact sound.given name old
    · exact (List.mem_filter.mp free).1
  · intro name given
    have settled := awaited_append tables new name
    rw [listed, List.mem_append, sound.listed_iff name given, created]
    simp only [freed, List.mem_filter, given, true_and, decide_eq_true_eq]
    omega
  · rw [listed]
    refine List.nodup_append.mpr ⟨sound.distinct, distinct.filter _, ?_⟩
    intro name old other free same
    exact waited other free (same ▸ old)
  · intro name member target refers
    rw [listed] at member ⊢
    by_cases old : name ∈ state.listed
    · -- What was listed before stays at its place.
      rw [List.idxOf_append_of_mem (sound.ordered.mem old refers), List.idxOf_append_of_mem old]
      exact sound.ordered name old target refers
    · -- All that a freed table refers to is created by now.
      have free := (List.mem_append.mp member).resolve_left old
      have inside := reached target (((mem_freed_iff new).mp free).2 target refers)
      rw [List.idxOf_append_of_mem inside, List.idxOf_append_of_notMem old]
      exact Nat.lt_add_right _ (List.idxOf_lt_length_of_mem inside)

/-- The counts, the ready tables and the created ones agree in every state on the way. -/
theorem Reachable.sound (distinct : (tables.map Table.name).Nodup) {state : State}
    (reachable : Reachable tables state) : Sound tables state := by
  induction reachable with
  | start => exact sound_start distinct
  | step _ stepped ih => exact sound_step distinct ih stepped

/-- The last state can be reached from every state before it. -/
theorem Reachable.run {state : State} (reachable : Reachable tables state) :
    Reachable tables (state.run tables) := by
  -- The run takes one step after another.
  fun_induction State.run tables state with
  | case1 state finished => exact reachable
  | case2 state next stepped ih => exact ih (reachable.step stepped)

/-- No table is ready in the last state. -/
theorem ready_run (tables : List Table) (state : State) : (state.run tables).ready = [] := by
  -- The run goes on as long as a step is possible, which it is while a table is ready.
  fun_induction State.run tables state with
  | case1 state finished =>
    unfold State.step? at finished
    split at finished
    · assumption
    · simp at finished
  | case2 state next stepped ih => exact ih

/-- The names of the tables that are created in the end, in order. -/
def finallyCreated (tables : List Table) : List Text :=
  ((State.start tables).run tables).created

/-- In the end the tables that are listed are those that are created. -/
theorem listed_run (tables : List Table) :
    ((State.start tables).run tables).listed = finallyCreated tables := by
  simp [State.listed, ready_run, finallyCreated]

/-- The counts, the ready tables and the created ones agree in the end. -/
theorem sound_run (distinct : (tables.map Table.name).Nodup) :
    Sound tables ((State.start tables).run tables) :=
  Reachable.start.run.sound distinct

/-- No table is created twice. -/
theorem nodup_finallyCreated (distinct : (tables.map Table.name).Nodup) :
    (finallyCreated tables).Nodup := by
  rw [← listed_run]
  exact (sound_run distinct).distinct

/-- Each table that is created comes after all that it refers to. -/
theorem targetsFirst_finallyCreated (distinct : (tables.map Table.name).Nodup) :
    TargetsFirst tables (finallyCreated tables) := by
  rw [← listed_run]
  exact (sound_run distinct).ordered

/-- In the end exactly those tables are created that can be created at all. -/
theorem mem_finallyCreated_iff (distinct : (tables.map Table.name).Nodup) {name : Text} :
    name ∈ finallyCreated tables ↔ Creatable tables name := by
  have sound := sound_run distinct
  have first := targetsFirst_finallyCreated distinct
  constructor
  · -- The tables before a created one can be created, so this one can.
    intro created
    induction place : (finallyCreated tables).idxOf name using Nat.strong_induction_on
      generalizing name with
    | _ place ih =>
      subst place
      have given : name ∈ tables.map Table.name := by
        rw [← listed_run] at created
        exact sound.given name created
      refine Creatable.intro given fun target refers => ?_
      exact ih _ (first name created target refers) (first.mem created refers) rfl
  · -- A table whose references are all created waits for nothing.
    intro creatable
    induction creatable with
    | intro given _ ih =>
      rw [← listed_run]
      exact (sound.listed_iff _ given).mpr (awaited_eq_zero_iff.mpr ih)

end CreationOrder

end Ddl
