import Ddl.OrderedMap
import Ddl.Table.Basic

/-! Tables are created after the tables that they refer to, as early as the input order allows. -/

namespace Ddl

/-- Why there is no order for creating tables. -/
inductive DependencyError where
  /-- Some tables wait for each other, or for one that is not given. -/
  | circular (names : List Text)
  /-- Two tables have the same name. -/
  | duplicate (name : Text)
  deriving DecidableEq

/-- What is said when there is no order for creating tables. -/
def DependencyError.message : DependencyError → Text
  | circular names =>
    "Circular dependency detected in table definitions: ".toList ++ Text.join ", ".toList names
  | duplicate name =>
    "Circular dependency detected in table definitions: duplicate table ".toList ++ name

namespace CreationOrder

/-- The tables that are created, those that can be created now, and what the others wait for. -/
structure State where
  /-- The number of references to tables not yet created, for each table. -/
  waiting : OrderedMap Int
  /-- The tables that wait for nothing, in the order in which they will be created. -/
  ready : List Text
  /-- The tables that are created, in order. -/
  created : List Text

/-- The tables that refer to the table of the given name, once for each such reference. -/
def dependents (tables : List Table) (name : Text) : List Text :=
  tables.flatMap fun table => (table.outgoing.filter (· = name)).map fun _ => table.name

namespace State

/-- The state before any table is created. -/
def start (tables : List Table) : State :=
  -- Tables without references to others can be created at once, in input order.
  let waiting := OrderedMap.ofList
    (tables.map fun table => (table.name, (table.outgoing.length : Int)))
  { waiting
    ready := (waiting.entries.filter fun entry => entry.2 = 0).map Prod.fst
    created := [] }

/-- The state after one reference of the named table is settled. -/
def release (state : State) (name : Text) : State :=
  -- The last reference to be settled makes its table ready.
  match state.waiting.get? name with
  | none => state
  | some count =>
    { state with
      waiting := state.waiting.insert name (count - 1)
      ready := if count - 1 = 0 then state.ready ++ [name] else state.ready }

/-- The state after the next table is created, if one is ready. -/
def step? (tables : List Table) (state : State) : Option State :=
  match state.ready with
  | [] => none
  | name :: later =>
    some ((dependents tables name).foldl release
      { state with ready := later, created := state.created ++ [name] })

/-- The number of tables that are ready or may become so. -/
def remaining (state : State) : Nat :=
  state.ready.length + state.waiting.entries.countP fun entry => 0 < entry.2

/-- Settling a reference moves at most one table from those that wait to those that are ready. -/
theorem remaining_release (state : State) (name : Text) :
    (state.release name).remaining = state.remaining := by
  -- The count of a table passes from one to zero exactly when the table becomes ready.
  unfold release
  split
  · rfl
  · rename_i count found
    have counted :=
      OrderedMap.countP_insertEntry (fun count : Int => decide (0 < count)) (count - 1) found
    simp only [remaining, OrderedMap.insert] at counted ⊢
    by_cases last : count - 1 = 0
    · simp only [if_pos last, List.length_append, List.length_singleton]
      -- The table leaves those that wait and joins those that are ready.
      have positive : 0 < count := by omega
      have settled : ¬0 < count - 1 := by omega
      simp only [positive, settled, decide_true, decide_false, if_true, Bool.false_eq_true,
        if_false] at counted
      omega
    · simp only [if_neg last]
      -- The table waits on as before, or it did not wait.
      by_cases positive : 0 < count
      · have still : 0 < count - 1 := by omega
        simp only [positive, still, decide_true, if_true] at counted
        omega
      · have never : ¬0 < count - 1 := by omega
        simp only [positive, never, decide_false, Bool.false_eq_true, if_false] at counted
        omega

/-- Settling references one after another leaves the number of remaining tables as it is. -/
theorem remaining_foldl_release (names : List Text) (state : State) :
    (names.foldl release state).remaining = state.remaining := by
  -- Each reference leaves it as it is.
  induction names generalizing state with
  | nil => rfl
  | cons name later ih => rw [List.foldl_cons, ih, remaining_release]

/-- Creating a table leaves one table less. -/
theorem remaining_of_step? {tables : List Table} {state later : State}
    (stepped : state.step? tables = some later) : later.remaining + 1 = state.remaining := by
  -- The created table leaves the ready ones, and settling references keeps the number.
  unfold step? at stepped
  split at stepped
  · simp at stepped
  · rename_i name rest ready
    simp only [Option.some.injEq] at stepped
    subst later
    rw [remaining_foldl_release]
    simp only [remaining, ready, List.length_cons]
    omega

/-- The state in which no table is ready any more. -/
def run (tables : List Table) (state : State) : State :=
  match _stepped : state.step? tables with
  | none => state
  | some later => run tables later
termination_by state.remaining
decreasing_by
  -- Each step leaves one table less.
  have := remaining_of_step? _stepped
  omega

end State

/-- The first name that stands in a list for the second time, after names that were seen before. -/
def repeated? : List Text → List Text → Option Text
  | _, [] => none
  | seen, name :: later => if name ∈ seen then some name else repeated? (name :: seen) later

/-- The names of tables in an order in which each follows the tables that it refers to. -/
def resolve (tables : List Table) : Except DependencyError (List Text) :=
  -- Tables that never become ready are reported in input order.
  let names := tables.map Table.name
  match repeated? [] names with
  | some name => .error (.duplicate name)
  | none =>
    let created := ((State.start tables).run tables).created
    if created.length = tables.length then .ok created
    else .error (.circular (names.filter fun name => name ∉ created))

/-- For each table the names of other tables that it refers to, in the order of the tables. -/
def dependencyMap (tables : List Table) : OrderedMap (List Text) :=
  OrderedMap.ofList (tables.map fun table => (table.name, table.dependencies))

end CreationOrder

end Ddl
