import Ddl.Plan.Json
import Ddl.Proofs.CreationOrder.Outcome
import Ddl.Proofs.Dependencies
import Ddl.Proofs.Plan.Reports

/-! The tables of a plan can be created one after another, each after all that it refers to. -/

namespace Ddl

namespace Plan

variable {tables : List Table} {plan : Plan}

/-- The tables under their names. -/
def byName (tables : List Table) : OrderedMap Table :=
  OrderedMap.ofList (tables.map fun table => (table.name, table))

/-- A plan is made of an order, and of the tables that have the names of the order. -/
theorem ofTables_eq_ok_iff :
    ofTables tables = .ok plan ↔ ∃ order, CreationOrder.resolve tables = .ok order ∧
      plan = ⟨order.filterMap (byName tables).get?, order, CreationOrder.dependencyMap tables⟩ := by
  -- The plan depends on the order alone, which may be missing.
  unfold ofTables byName
  cases resolved : CreationOrder.resolve tables with
  | error error => simp [Bind.bind, Except.bind]
  | ok order => simp [Bind.bind, Except.bind, Pure.pure, Except.pure, eq_comm]

/-- For distinct names each table is found under its name. -/
theorem get?_byName (distinct : (tables.map Table.name).Nodup) {table : Table}
    (member : table ∈ tables) : (byName tables).get? table.name = some table := by
  have names : ((tables.map fun table => (table.name, table)).map Prod.fst).Nodup := by
    simpa [Function.comp_def] using distinct
  exact OrderedMap.get?_ofList names (List.mem_map.mpr ⟨table, member, rfl⟩)

/-- The tables that are found under distinct names in any order are the given ones. -/
theorem perm_filterMap_byName (distinct : (tables.map Table.name).Nodup) {order : List Text}
    (names : order.Perm (tables.map Table.name)) :
    (order.filterMap (byName tables).get?).Perm tables := by
  -- In input order the look-ups give the tables back.
  have inOrder : (tables.map Table.name).filterMap (byName tables).get? = tables := by
    have found : ∀ table ∈ tables, ((byName tables).get? ∘ Table.name) table = some table :=
      fun table member => get?_byName distinct member
    rw [List.filterMap_map, List.filterMap_congr found, List.filterMap_some]
  -- Another order of the names gives another order of what is found.
  have found := names.filterMap (byName tables).get?
  rwa [inOrder] at found

/-- The tables that are found under names have these names. -/
theorem map_name_filterMap_byName (distinct : (tables.map Table.name).Nodup) {order : List Text}
    (given : ∀ name ∈ order, name ∈ tables.map Table.name) :
    (order.filterMap (byName tables).get?).map Table.name = order := by
  have named : ∀ name ∈ order,
      ((byName tables).get? name).map Table.name = some name := by
    intro name member
    obtain ⟨table, inside, rfl⟩ := List.mem_map.mp (given name member)
    rw [get?_byName distinct inside, Option.map_some]
  -- Each name is found, and so none is lost on the way to a table and back.
  rw [List.map_filterMap, List.filterMap_congr named, List.filterMap_some]

/-- A batch gives the plan of its tables when all its statements keep to the limit and are read. -/
theorem ofStatements_eq_ok {limit? : Option Int} {statements : List Text}
    (planned : ofStatements limit? statements = .ok plan) :
    ∃ tables, List.Forall₂ (fun statement table => Table.ofStatement statement = .ok table)
        statements tables ∧ ofTables tables = .ok plan := by
  -- A plan is not what comes of a batch with faulty statements.
  have passes : ∀ statement ∈ statements, ¬Fails limit? statement := by
    intro statement member fails
    rw [ofStatements_eq_items_iff.mpr ⟨⟨statement, member, fails⟩, rfl⟩] at planned
    simp at planned
  obtain ⟨tables, read⟩ := exists_tables passes
  refine ⟨tables, read.imp fun _ _ given => (table_eq_ok_iff.mp given).2, ?_⟩
  rw [ofStatements_of_forall read] at planned
  cases built : ofTables tables with
  | error error => simp [built, Except.mapError] at planned
  | ok other => simpa [built, Except.mapError] using planned

/-- Each name of an order that is found comes after those that its table refers to. -/
theorem targetsFirst_of_resolve {order : List Text}
    (resolved : CreationOrder.resolve tables = .ok order) :
    CreationOrder.TargetsFirst tables order := by
  obtain ⟨distinct, _, rfl⟩ := CreationOrder.resolve_eq_ok_iff.mp resolved
  exact CreationOrder.targetsFirst_finallyCreated distinct

/-- What a plan says of the tables that it is made of. -/
structure Replays (plan : Plan) (tables : List Table) : Prop where
  /-- The plan holds each of the tables once. -/
  permuted : plan.tables.Perm tables
  /-- The order lists their names. -/
  named : plan.order = plan.tables.map Table.name
  /-- The keys of a table lead to the table itself or to one that comes before it. -/
  creatable : ∀ place (inside : place < plan.tables.length),
    ∀ key ∈ plan.tables[place].foreignKeys,
      key.target.table ∈ (plan.tables.take (place + 1)).map Table.name
  /-- In JSON the tables are numbered from one on. -/
  numbered : ∃ items, plan.toJson = .object [("tables".toList, .array items),
      ("order".toList, .array (plan.order.map .string)),
      ("dependencies".toList, plan.dependenciesJson)] ∧
    items.length = plan.tables.length ∧
    ∀ place (inside : place < plan.tables.length), items[place]? =
      some (.object (plan.tables[place].jsonFields ++ [("order".toList, .integer (place + 1))]))
  /-- The dependencies are listed in input order. -/
  keys : plan.dependencies.names = tables.map Table.name
  /-- The dependencies of a table are the other tables that its keys refer to, which come earlier,
  each listed once. -/
  dependencies : ∀ table ∈ tables, ∃ targets, plan.dependencies.get? table.name = some targets ∧
    targets.Nodup ∧
    (∀ target, target ∈ targets ↔
      target ≠ table.name ∧ ∃ key ∈ table.foreignKeys, key.target.table = target) ∧
    ∀ target ∈ targets, target ∈ plan.order ∧
      plan.order.idxOf target < plan.order.idxOf table.name

/-- The item of a table in JSON has the fields of the table and its number. -/
theorem tablesJson_eq (plan : Plan) :
    ∃ items, plan.tablesJson = .array items ∧ items.length = plan.tables.length ∧
      ∀ place (inside : place < plan.tables.length), items[place]? = some (.object
        (plan.tables[place].jsonFields ++ [("order".toList, .integer (place + 1))])) := by
  refine ⟨_, rfl, by simp, fun place inside => ?_⟩
  simp [inside, numberedTable]

/-- A name that comes no later than that of a table belongs to the table or to an earlier one. -/
theorem mem_take_of_idxOf_le {found : List Table} (distinct : (found.map Table.name).Nodup)
    {place : Nat} (inside : place < found.length) {name : Text}
    (member : name ∈ found.map Table.name)
    (notLater : (found.map Table.name).idxOf name ≤
      (found.map Table.name).idxOf found[place].name) :
    name ∈ (found.take (place + 1)).map Table.name := by
  -- The table stands at the place of its name, so earlier names are among those taken.
  have inNames : place < (found.map Table.name).length := by rwa [List.length_map]
  have here := distinct.idxOf_getElem place inNames
  rw [List.getElem_map] at here
  rw [List.map_take, List.mem_take_iff_idxOf_lt member]
  omega

/-- A plan for tables can be replayed. -/
theorem replays_of_ofTables (planned : ofTables tables = .ok plan) : plan.Replays tables := by
  obtain ⟨order, resolved, rfl⟩ := ofTables_eq_ok_iff.mp planned
  have distinct := (CreationOrder.resolve_eq_ok_iff.mp resolved).1
  have names := CreationOrder.perm_of_resolve resolved
  have first := targetsFirst_of_resolve resolved
  have permuted := perm_filterMap_byName distinct names
  have named := map_name_filterMap_byName distinct fun name => names.mem_iff.mp
  -- A key that leaves its table leads to a name in front of the table's own.
  have earlier : ∀ table ∈ tables, ∀ key ∈ table.foreignKeys, key.target.table ≠ table.name →
      key.target.table ∈ order ∧ order.idxOf key.target.table < order.idxOf table.name := by
    intro table member key keyMember other
    have refers := CreationOrder.refersTo_of_key member keyMember other
    have inside := names.mem_iff.mpr refers.given
    exact ⟨first.mem inside refers, first _ inside _ refers⟩
  refine ⟨permuted, named.symm, ?_, ?_, ?_, ?_⟩
  · intro place inside key keyMember
    have member := permuted.mem_iff.mp (List.getElem_mem inside)
    have own := names.mem_iff.mpr (List.mem_map_of_mem member)
    -- A table may refer to itself, and it stands no later than itself.
    have placed : key.target.table ∈ order ∧ order.idxOf key.target.table ≤
        order.idxOf (order.filterMap (byName tables).get?)[place].name := by
      by_cases same : key.target.table = (order.filterMap (byName tables).get?)[place].name
      · rw [same]
        exact ⟨own, le_rfl⟩
      · have before := earlier _ member key keyMember same
        exact ⟨before.1, before.2.le⟩
    -- The tables stand in the order of their names, so that what is no later is among them.
    refine mem_take_of_idxOf_le (named.symm ▸ names.nodup_iff.mpr distinct) inside ?_ ?_
    · rw [named]
      exact placed.1
    · rw [named]
      exact placed.2
  · obtain ⟨items, json, numbered⟩ := tablesJson_eq
      ⟨order.filterMap (byName tables).get?, order, CreationOrder.dependencyMap tables⟩
    exact ⟨items, by rw [toJson, jsonFields, json]; rfl, numbered⟩
  · simp [OrderedMap.names, CreationOrder.entries_dependencyMap distinct]
  · intro table member
    have entries : ((tables.map fun table => (table.name, table.dependencies)).map
        Prod.fst).Nodup := by simpa [Function.comp_def] using distinct
    -- The map has one entry for each table, since names are distinct.
    refine ⟨table.dependencies,
      OrderedMap.get?_ofList entries (List.mem_map.mpr ⟨table, member, rfl⟩),
      table.nodup_dependencies, fun target => Table.mem_dependencies_iff, ?_⟩
    intro target inside
    obtain ⟨other, key, keyMember, rfl⟩ := Table.mem_dependencies_iff.mp inside
    exact earlier table member key keyMember other

/-- A plan for statements holds the table of each statement once and can be replayed: its tables
are numbered in an order in which the keys of each lead to itself or to an earlier one, and its
dependencies say which these are. -/
theorem ofStatements_replayable {limit? : Option Int} {statements : List Text}
    (planned : ofStatements limit? statements = .ok plan) :
    ∃ tables, List.Forall₂ (fun statement table => Table.ofStatement statement = .ok table)
      statements tables ∧ plan.Replays tables := by
  obtain ⟨tables, read, built⟩ := ofStatements_eq_ok planned
  exact ⟨tables, read, replays_of_ofTables built⟩

/-- A table of messages that refer to other messages and to users, and one of users. -/
def messageStatements : List Text :=
  ["CREATE TABLE messages (reply INT REFERENCES messages(id), author INT,
    CONSTRAINT c FOREIGN KEY (author) REFERENCES users (id))".toList,
    "CREATE TABLE users (id INT)".toList]

/-- The users are created before the messages. -/
theorem ofStatements_replayable_messages :
    ∃ plan tables, ofStatements (some 200) messageStatements = .ok plan ∧
      plan.order = ["users".toList, "messages".toList] ∧ plan.Replays tables := by
  -- Both statements keep to the limit, and the second one is created first.
  have order : (ofStatements (some 200) messageStatements).toOption.map Plan.order =
      some ["users".toList, "messages".toList] := by decide +kernel
  cases planned : ofStatements (some 200) messageStatements with
  | error error => simp [planned, Except.toOption] at order
  | ok plan =>
    obtain ⟨tables, _, replays⟩ := ofStatements_replayable planned
    exact ⟨plan, tables, rfl, by simpa [planned, Except.toOption] using order, replays⟩

end Plan

end Ddl
