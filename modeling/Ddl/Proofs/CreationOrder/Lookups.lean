import Ddl.Proofs.CreationOrder.Outcome

/-! The order of creation is found without a look-up of a name that a map does not know. -/

namespace Ddl

/-- What stops a computation that looks up names. -/
inductive Stop (Error : Type) where
  /-- An error is told. -/
  | raised (error : Error)
  /-- A name is looked up that its map does not know. -/
  | missed (name : Text)

/-- The value of a name that the map has to know. -/
def OrderedMap.fetch {Value Error : Type} (map : OrderedMap Value) (name : Text) :
    Except (Stop Error) Value :=
  match map.get? name with
  | some value => .ok value
  | none => .error (.missed name)

/-- A name that the map knows is not missed. -/
theorem OrderedMap.fetch_of_get? {Value Error : Type} {map : OrderedMap Value} {name : Text}
    {value : Value} (found : map.get? name = some value) :
    (map.fetch name : Except (Stop Error) Value) = .ok value := by
  rw [fetch, found]

/-- Steps that go well, as long as something holds that each of them keeps, go well in a row. -/
theorem foldlM_of_keeps {Value Item Error : Type} (holds : Value → Prop)
    {step : Value → Item → Except Error Value} {next : Value → Item → Value} {items : List Item}
    (keeps : ∀ value, holds value → ∀ item ∈ items,
      step value item = .ok (next value item) ∧ holds (next value item))
    {start : Value} (first : holds start) :
    items.foldlM step start = .ok (items.foldl next start) := by
  -- What the first step keeps is what the later ones start with.
  induction items generalizing start with
  | nil => rfl
  | cons item rest ih =>
    obtain ⟨stepped, kept⟩ := keeps start first item List.mem_cons_self
    rw [List.foldlM_cons, stepped]
    exact ih (fun value known other later =>
      keeps value known other (List.mem_cons_of_mem _ later)) kept

namespace CreationOrder

/-- The maps by which tables are followed along their references. -/
structure Graph where
  /-- For each table those that refer to it, once for each reference. -/
  dependents : OrderedMap (List Text)
  /-- For each table the number of its references to tables not yet created. -/
  waiting : OrderedMap Int

namespace Graph

/-- The graph with one more table, which has no references yet. -/
def declare (graph : Graph) (name : Text) : Except (Stop DependencyError) Graph :=
  if (graph.dependents.get? name).isSome then .error (.raised (.duplicate name))
  else .ok ⟨graph.dependents.insert name [], graph.waiting.insert name 0⟩

/-- The map of dependents with one more reference, if its target is a table of the map. -/
def addDependent (dependents : OrderedMap (List Text)) (name target : Text) :
    Except (Stop DependencyError) (OrderedMap (List Text)) :=
  if (dependents.get? target).isSome then do
    let known ← dependents.fetch target
    return dependents.insert target (known ++ [name])
  else .ok dependents

/-- The graph with one more reference, which is given by the name of its table and its target. -/
def refer (graph : Graph) (reference : Text × Text) : Except (Stop DependencyError) Graph := do
  let dependents ← addDependent graph.dependents reference.1 reference.2
  let count ← graph.waiting.fetch reference.1
  return ⟨dependents, graph.waiting.insert reference.1 (count + 1)⟩

/-- All references, each with the name of its table. -/
def references (tables : List Table) : List (Text × Text) :=
  tables.flatMap fun table => table.outgoing.map (table.name, ·)

/-- The graph of tables, all of which are declared before any reference is followed. -/
def ofTables (tables : List Table) : Except (Stop DependencyError) Graph := do
  let declared ← (tables.map Table.name).foldlM declare ⟨.empty, .empty⟩
  (references tables).foldlM refer declared

/-- The state before any table is created. -/
def start (graph : Graph) : State :=
  { waiting := graph.waiting
    ready := (graph.waiting.entries.filter fun entry => entry.2 = 0).map Prod.fst
    created := [] }

end Graph

namespace State

/-- The state after one reference of the named table is settled, where the count of the table has to
be known, and is looked up again when it is lowered. -/
def settle (state : State) (name : Text) : Except (Stop DependencyError) State := do
  let count ← state.waiting.fetch name
  let waiting := state.waiting.insert name (count - 1)
  let left ← waiting.fetch name
  return { state with waiting, ready := if left = 0 then state.ready ++ [name] else state.ready }

/-- The state after the next table is created, if one is ready, where its dependents have to be
known. -/
def advance (dependents : OrderedMap (List Text)) (state : State) :
    Except (Stop DependencyError) (Option State) :=
  match state.ready with
  | [] => .ok none
  | name :: later => do
    let released ← dependents.fetch name
    let next ← released.foldlM settle
      { state with ready := later, created := state.created ++ [name] }
    return some next

/-- A reference that is settled is released. -/
theorem settle_eq_ok_iff {state next : State} {name : Text} :
    state.settle name = .ok next ↔ name ∈ state.waiting.names ∧ next = state.release name := by
  -- The second look-up is at the name at which a count was put before.
  rw [← OrderedMap.isSome_get?_iff, settle, release, OrderedMap.fetch]
  cases found : state.waiting.get? name with
  | none => simp [Bind.bind, Except.bind]
  | some count =>
    have again : (state.waiting.insert name (count - 1)).get? name = some (count - 1) := by
      rw [OrderedMap.get?_insert, if_pos rfl]
    simp [Bind.bind, Except.bind, Pure.pure, Except.pure, OrderedMap.fetch_of_get? again, eq_comm]

/-- References that are settled are released. -/
theorem eq_foldl_release {names : List Text} {state next : State}
    (settled : names.foldlM settle state = .ok next) : next = names.foldl release state := by
  -- Where the whole goes well, each reference on the way was settled.
  induction names generalizing state with
  | nil => exact (Except.ok.inj settled).symm
  | cons name rest ih =>
    rw [List.foldlM_cons] at settled
    cases first : state.settle name with
    | error stop => simp [first, Bind.bind, Except.bind] at settled
    | ok middle =>
      rw [first] at settled
      obtain ⟨-, rfl⟩ := settle_eq_ok_iff.mp first
      exact ih settled

/-- A release changes counts, but not the tables that have one. -/
theorem names_release (state : State) (name : Text) :
    (state.release name).waiting.names = state.waiting.names := by
  -- A count is only changed where there was one.
  unfold release
  split
  · rfl
  · rename_i count found
    have known : name ∈ state.waiting.names :=
      OrderedMap.isSome_get?_iff.mp (Option.isSome_iff_exists.mpr ⟨count, found⟩)
    exact OrderedMap.names_insert_of_mem known _

/-- So do releases one after another. -/
theorem names_foldl_release (names : List Text) (state : State) :
    (names.foldl release state).waiting.names = state.waiting.names := by
  induction names generalizing state with
  | nil => rfl
  | cons name rest ih => rw [List.foldl_cons, ih, names_release]

/-- References of tables that have counts can be settled one after another. -/
theorem foldlM_settle {names : List Text} {state : State}
    (known : ∀ name ∈ names, name ∈ state.waiting.names) :
    names.foldlM settle state = .ok (names.foldl release state) := by
  -- No reference takes a count away, so that the later ones find theirs.
  apply foldlM_of_keeps (fun other => other.waiting.names = state.waiting.names) _ rfl
  intro other same name member
  have counted : name ∈ other.waiting.names := same ▸ known name member
  exact ⟨settle_eq_ok_iff.mpr ⟨counted, rfl⟩, (names_release other name).trans same⟩

/-- An advance leaves one table less. -/
theorem remaining_of_advance {dependents : OrderedMap (List Text)} {state later : State}
    (advanced : state.advance dependents = .ok (some later)) :
    later.remaining + 1 = state.remaining := by
  -- What an advance does, when its look-ups go well, is a step.
  unfold advance at advanced
  split at advanced
  · simp at advanced
  · rename_i name rest ready
    cases found : (dependents.fetch name : Except (Stop DependencyError) _) with
    | error stop => simp [found, Bind.bind, Except.bind] at advanced
    | ok released =>
      cases settled : released.foldlM settle
          { state with ready := rest, created := state.created ++ [name] } with
      | error stop => simp [found, settled, Bind.bind, Except.bind] at advanced
      | ok next =>
        simp only [found, settled, Bind.bind, Except.bind, Pure.pure, Except.pure,
          Except.ok.injEq, Option.some.injEq] at advanced
        subst advanced
        rw [eq_foldl_release settled, remaining_foldl_release]
        simp only [remaining, ready, List.length_cons]
        omega

/-- The state in which no table is ready any more, if no look-up on the way there fails. -/
def drain (dependents : OrderedMap (List Text)) (state : State) :
    Except (Stop DependencyError) State :=
  match _advanced : state.advance dependents with
  | .error stop => .error stop
  | .ok none => .ok state
  | .ok (some later) => drain dependents later
termination_by state.remaining
decreasing_by
  have := remaining_of_advance _advanced
  omega

end State

/-- The names of tables in an order in which each follows the tables that it refers to, found by
following the graph of the tables. -/
def followGraph (tables : List Table) : Except (Stop DependencyError) (List Text) := do
  let graph ← Graph.ofTables tables
  let last ← graph.start.drain graph.dependents
  if last.created.length = tables.length then return last.created
  else .error (.raised (.circular
    (graph.dependents.names.filter fun name => !last.created.contains name)))

variable {tables : List Table} {names : List Text}

namespace Graph

/-- The declarations of distinct new names go well, and the first other name is told. -/
theorem foldlM_declare {seen : List Text} {graph : Graph}
    (known : ∀ name, name ∈ graph.dependents.names ↔ name ∈ seen) :
    names.foldlM declare graph =
      match repeated? seen names with
      | some name => .error (.raised (.duplicate name))
      | none => .ok ⟨(names.map (·, [])).foldl (fun map entry => map.insert entry.1 entry.2)
          graph.dependents, (names.map (·, 0)).foldl (fun map entry => map.insert entry.1 entry.2)
          graph.waiting⟩ := by
  -- The names that are seen are those that the graph knows.
  induction names generalizing seen graph with
  | nil => rfl
  | cons name rest ih =>
    rw [List.foldlM_cons, repeated?, declare]
    by_cases again : name ∈ seen
    · rw [if_pos again, if_pos (OrderedMap.isSome_get?_iff.mpr ((known name).mpr again))]
      rfl
    · have new : name ∉ graph.dependents.names := fun inside => again ((known name).mp inside)
      rw [if_neg again, if_neg (mt OrderedMap.isSome_get?_iff.mp new)]
      refine ih fun other => ?_
      rw [OrderedMap.names_insert_of_not_mem new, List.mem_append, List.mem_singleton, known,
        List.mem_cons, or_comm]

/-- What the maps hold when the given references of the named tables are followed. -/
structure Follows (names : List Text) (references : List (Text × Text)) (graph : Graph) :
    Prop where
  /-- The dependents are known for just these tables. -/
  dependentNames : graph.dependents.names = names
  /-- So are the counts. -/
  waitingNames : graph.waiting.names = names
  /-- The dependents of a table are where the references to it come from, in their order. -/
  dependents : ∀ name ∈ names, graph.dependents.get? name =
    some ((references.filter (·.2 = name)).map Prod.fst)
  /-- The count of a table is the number of references that come from it. -/
  counts : ∀ name ∈ names, graph.waiting.get? name =
    some (references.countP (·.1 = name) : Int)

/-- A dependent is added to the table that a reference leads to, if there is one. -/
theorem addDependent_eq_ok {dependents : OrderedMap (List Text)}
    {references : List (Text × Text)} (known : dependents.names = names)
    (held : ∀ name ∈ names, dependents.get? name =
      some ((references.filter (·.2 = name)).map Prod.fst)) (name target : Text) :
    ∃ next, addDependent dependents name target = .ok next ∧ next.names = names ∧
      ∀ other ∈ names, next.get? other =
        some (((references ++ [(name, target)]).filter (·.2 = other)).map Prod.fst) := by
  by_cases inside : target ∈ names
  · -- The new source stands behind those that were known.
    have found := held target inside
    let sources := (references.filter (·.2 = target)).map Prod.fst
    refine ⟨dependents.insert target (sources ++ [name]), ?_, ?_, ?_⟩
    · rw [addDependent, found, Option.isSome_some, if_pos rfl, OrderedMap.fetch_of_get? found]
      rfl
    · exact (OrderedMap.names_insert_of_mem (known.symm ▸ inside) _).trans known
    · intro other member
      rw [OrderedMap.get?_insert, held other member]
      by_cases same : other = target
      · simp [sources, same]
      · simp [same, Ne.symm same]
  · -- Nothing is kept of a reference that leads outside.
    refine ⟨dependents, ?_, known, fun other member => ?_⟩
    · rw [addDependent, if_neg (mt OrderedMap.isSome_get?_iff.mp (known.symm ▸ inside))]
    · have different : target ≠ other := fun same => inside (same ▸ member)
      simp [held other member, different]

/-- A reference of a table that is declared can be followed. -/
theorem Follows.refer {references : List (Text × Text)} {graph : Graph}
    (follows : Follows names references graph) {reference : Text × Text}
    (declared : reference.1 ∈ names) :
    ∃ next, graph.refer reference = .ok next ∧ Follows names (references ++ [reference]) next := by
  obtain ⟨name, target⟩ := reference
  obtain ⟨dependents, added, known, held⟩ :=
    addDependent_eq_ok follows.dependentNames follows.dependents name target
  have count := follows.counts name declared
  refine ⟨⟨dependents, graph.waiting.insert name (references.countP (·.1 = name) + 1)⟩, ?_,
    known, ?_, held, fun other member => ?_⟩
  · -- The count is there, since the table of the reference is declared.
    rw [Graph.refer, added]
    dsimp only [Bind.bind, Except.bind]
    rw [OrderedMap.fetch_of_get? count]
    rfl
  · exact (OrderedMap.names_insert_of_mem (follows.waitingNames.symm ▸ declared) _).trans
      follows.waitingNames
  · rw [OrderedMap.get?_insert, follows.counts other member]
    by_cases same : other = name
    · simp [same]
    · simp [same, Ne.symm same]

/-- References of tables that are declared can be followed one after another. -/
theorem Follows.foldlM_refer {before later : List (Text × Text)} {graph : Graph}
    (follows : Follows names before graph) (declared : ∀ reference ∈ later, reference.1 ∈ names) :
    ∃ last, later.foldlM Graph.refer graph = .ok last ∧ Follows names (before ++ later) last := by
  -- Each reference is followed in the graph that the references before it have left.
  induction later generalizing before graph with
  | nil => exact ⟨graph, rfl, by simpa using follows⟩
  | cons reference rest ih =>
    rw [List.forall_mem_cons] at declared
    obtain ⟨next, referred, kept⟩ := follows.refer declared.1
    obtain ⟨last, rested, all⟩ := ih kept declared.2
    refine ⟨last, ?_, by simpa using all⟩
    rw [List.foldlM_cons, referred]
    exact rested

/-- The tables that refer to a name are where the references to it come from. -/
theorem map_fst_filter_references (tables : List Table) (name : Text) :
    ((references tables).filter (·.2 = name)).map Prod.fst =
      CreationOrder.dependents tables name := by
  simp [references, CreationOrder.dependents, List.filter_flatMap, List.map_flatMap,
    List.filter_map, Function.comp_def]

/-- As many references come from a name as its tables have. -/
theorem countP_references (tables : List Table) (name : Text) :
    (references tables).countP (·.1 = name) = (CreationOrder.references tables name).length := by
  -- The tables are counted one after another, whether or not they have the name.
  induction tables with
  | nil => rfl
  | cons table rest ih =>
    rw [references, List.flatMap_cons, List.countP_append, ← references, ih,
      CreationOrder.references, CreationOrder.references, List.filter_cons]
    by_cases named : table.name = name <;> simp [named, List.countP_map, Function.comp_def]

/-- Before any declaration no name is known. -/
theorem not_mem_names_empty (name : Text) :
    name ∈ (⟨.empty, .empty⟩ : Graph).dependents.names ↔ name ∈ [] := by
  simp [OrderedMap.empty, OrderedMap.names]

/-- Maps of distinct names hold what holds before any reference is followed. -/
theorem follows_nil (distinct : names.Nodup) :
    Follows names [] ⟨.ofList (names.map (·, [])), .ofList (names.map (·, 0))⟩ := by
  -- Both maps have the names as their keys, in the same order.
  have keys {Value : Type} (value : Value) :
      ((names.map (·, value)).map Prod.fst) = names := by
    simp [Function.comp_def]
  refine ⟨?_, ?_, fun name member => ?_, fun name member => ?_⟩
  · rw [OrderedMap.names_ofList (by rwa [keys]), keys]
  · rw [OrderedMap.names_ofList (by rwa [keys]), keys]
  · exact OrderedMap.get?_ofList (by rwa [keys]) (List.mem_map.mpr ⟨name, member, rfl⟩)
  · exact OrderedMap.get?_ofList (by rwa [keys]) (List.mem_map.mpr ⟨name, member, rfl⟩)

/-- Each reference comes from a table that is given. -/
theorem fst_mem_of_mem_references {reference : Text × Text}
    (member : reference ∈ references tables) : reference.1 ∈ tables.map Table.name := by
  obtain ⟨table, given, leads⟩ := List.mem_flatMap.mp member
  obtain ⟨target, -, rfl⟩ := List.mem_map.mp leads
  exact List.mem_map_of_mem given

/-- Tables with distinct names have a graph, in which all their references are followed. -/
theorem ofTables_of_nodup (distinct : (tables.map Table.name).Nodup) :
    ∃ graph, ofTables tables = .ok graph ∧
      Follows (tables.map Table.name) (references tables) graph := by
  -- No name is declared twice, and then all references come from declared names.
  have nothing : repeated? [] (tables.map Table.name) = none :=
    repeated?_eq_none_iff.mpr ⟨distinct, by simp⟩
  have declared : ∀ reference ∈ references tables, reference.1 ∈ tables.map Table.name :=
    fun _ => fst_mem_of_mem_references
  obtain ⟨graph, referred, follows⟩ := (follows_nil distinct).foldlM_refer declared
  refine ⟨graph, ?_, follows⟩
  rw [ofTables, foldlM_declare not_mem_names_empty, nothing]
  exact referred

/-- The counts that are made by following the references are those of the start. -/
theorem Follows.start_eq (distinct : (tables.map Table.name).Nodup) {graph : Graph}
    (follows : Follows (tables.map Table.name) (references tables) graph) :
    graph.start = State.start tables := by
  have names : (State.start tables).waiting.names = tables.map Table.name := by
    have keys : (tables.map fun table => (table.name, (table.outgoing.length : Int))).map
        Prod.fst = tables.map Table.name := by
      simp [Function.comp_def]
    rw [State.start, OrderedMap.names_ofList (by rwa [keys]), keys]
  -- Both maps count, for the same names, the references that come from a name.
  have waiting : graph.waiting = (State.start tables).waiting := by
    refine OrderedMap.eq_of_get? (follows.waitingNames.trans names.symm) fun name member => ?_
    rw [follows.waitingNames] at member
    rw [follows.counts name member, get?_waiting_start distinct member, countP_references]
    simp [awaited]
  rw [start, waiting]
  rfl

/-- The dependents of a table that is given are the tables that refer to it. -/
theorem Follows.get?_dependents {graph : Graph}
    (follows : Follows (tables.map Table.name) (references tables) graph) {name : Text}
    (given : name ∈ tables.map Table.name) :
    graph.dependents.get? name = some (CreationOrder.dependents tables name) := by
  rw [follows.dependents name given, map_fst_filter_references]

end Graph

/-- Only tables that are given refer to others. -/
theorem mem_names_of_mem_dependents {name dependent : Text}
    (member : dependent ∈ dependents tables name) : dependent ∈ tables.map Table.name := by
  obtain ⟨table, inside, repeats⟩ := List.mem_flatMap.mp member
  obtain ⟨target, -, rfl⟩ := List.mem_map.mp repeats
  exact List.mem_map_of_mem inside

/-- There is a count for each table in every state. -/
theorem Reachable.waiting_names (distinct : (tables.map Table.name).Nodup) {state : State}
    (reachable : Reachable tables state) : state.waiting.names = tables.map Table.name := by
  induction reachable with
  | start =>
    -- The counts at the start are those that come of following the references.
    obtain ⟨graph, -, follows⟩ := Graph.ofTables_of_nodup distinct
    rw [← follows.start_eq distinct]
    exact follows.waitingNames
  | step _ stepped ih =>
    unfold State.step? at stepped
    split at stepped
    · simp at stepped
    · rw [← Option.some.inj stepped, State.names_foldl_release]
      exact ih

/-- No look-up fails when a table is created on the way from the start. -/
theorem Reachable.advance_eq (distinct : (tables.map Table.name).Nodup) {graph : Graph}
    (follows : Graph.Follows (tables.map Table.name) (Graph.references tables) graph)
    {state : State} (reachable : Reachable tables state) :
    state.advance graph.dependents = .ok (state.step? tables) := by
  have sound := reachable.sound distinct
  unfold State.advance State.step?
  cases ready : state.ready with
  | nil => rfl
  | cons name later =>
    -- Only tables that are given become ready.
    have given : name ∈ tables.map Table.name := by
      apply sound.given
      simp [State.listed, ready]
    have found := follows.get?_dependents given
    -- Each of them has a count, and so have those that refer to it.
    have counted : ∀ dependent ∈ dependents tables name, dependent ∈ state.waiting.names := by
      intro dependent member
      rw [reachable.waiting_names distinct]
      exact mem_names_of_mem_dependents member
    let front : State := { state with ready := later, created := state.created ++ [name] }
    have settled : (dependents tables name).foldlM State.settle front =
        .ok ((dependents tables name).foldl State.release front) :=
      State.foldlM_settle counted
    dsimp only
    rw [OrderedMap.fetch_of_get? found]
    dsimp only [Bind.bind, Except.bind]
    rw [settled]
    rfl

end CreationOrder

end Ddl
