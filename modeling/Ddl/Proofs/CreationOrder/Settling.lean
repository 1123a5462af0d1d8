import Ddl.Proofs.CreationOrder.References
import Ddl.Proofs.OrderedMap

/-! Settling references lowers the counts of their tables and makes those ready that reach zero. -/

namespace Ddl

namespace CreationOrder

variable {tables : List Table}

/-- The number of references by which the named table waits for tables not yet created. -/
def awaited (tables : List Table) (created : List Text) (name : Text) : Nat :=
  -- Each foreign key counts, and a table that is not given is never created.
  (references tables name).countP fun target => !created.contains target

/-- A table waits for nothing when all that it refers to is created. -/
theorem awaited_eq_zero_iff {created : List Text} {name : Text} :
    awaited tables created name = 0 ↔
      ∀ target, RefersTo tables name target → target ∈ created := by
  simp [awaited, RefersTo, List.countP_eq_zero]

/-- Creating a table settles all references to it and no others. -/
theorem awaited_append (tables : List Table) {created : List Text} {current : Text}
    (new : current ∉ created) (name : Text) :
    awaited tables (created ++ [current]) name + (references tables name).count current =
      awaited tables created name := by
  -- A reference that was awaited still is, or leads to the table that is created now.
  unfold awaited
  induction references tables name with
  | nil => rfl
  | cons target rest ih =>
    simp only [List.countP_cons, List.count_cons, List.contains_eq_mem, List.mem_append,
      List.mem_singleton, Bool.not_eq_true', decide_eq_false_iff_not, beq_iff_eq] at ih ⊢
    by_cases same : target = current
    · subst target
      simp only [new, or_true, not_true_eq_false, if_false, if_true, not_false_eq_true]
      omega
    · simp only [same, or_false, if_false]
      omega

/-- The names whose tables wait for nothing as soon as the current table is created. -/
def freed (tables : List Table) (created : List Text) (current : Text) : List Text :=
  -- They become ready in input order.
  (tables.map Table.name).filter fun name =>
    0 < awaited tables created name ∧ awaited tables (created ++ [current]) name = 0

/-- A table is freed when all that it refers to is created, the current table last. -/
theorem mem_freed_iff {created : List Text} {current name : Text} (new : current ∉ created) :
    name ∈ freed tables created current ↔ RefersTo tables name current ∧
      ∀ target, RefersTo tables name target → target ∈ created ++ [current] := by
  -- What is awaited is counted before the table is created and afterwards.
  have settled := awaited_append tables new name
  rw [← awaited_eq_zero_iff]
  simp only [freed, List.mem_filter, decide_eq_true_eq]
  constructor
  · intro free
    obtain ⟨_, waiting, done⟩ := free
    exact ⟨List.count_pos_iff.mp (by omega), done⟩
  · intro last
    obtain ⟨refers, done⟩ := last
    have positive : 0 < (references tables name).count current := List.count_pos_iff.mpr refers
    exact ⟨refers.given, by omega, done⟩

/-- The tables that refer to a name, as often as each one does. -/
theorem dependents_eq (distinct : (tables.map Table.name).Nodup) (name : Text) :
    dependents tables name = (tables.map Table.name).flatMap fun dependent =>
      List.replicate ((references tables dependent).count name) dependent := by
  -- The references of a name are those of its one table.
  rw [dependents, List.flatMap_map]
  refine List.flatMap_congr fun table member => ?_
  rw [references_of_mem distinct member, List.map_const', List.count_eq_length_filter]
  simp only [beq_eq_decide]

/-- A list that repeats each of several different names has each as often as it is repeated. -/
theorem count_flatMap_replicate {names : List Text} (distinct : names.Nodup)
    (times : Text → Nat) {name : Text} (member : name ∈ names) :
    (names.flatMap fun name => List.replicate (times name) name).count name = times name := by
  -- Only the part of the name itself counts.
  induction names with
  | nil => simp at member
  | cons head rest ih =>
    rw [List.nodup_cons] at distinct
    rw [List.flatMap_cons, List.count_append, List.count_replicate]
    rcases List.mem_cons.mp member with same | later
    · subst name
      have absent : head ∉ rest.flatMap fun name => List.replicate (times name) name := by
        simp only [List.mem_flatMap, List.mem_replicate, not_exists, not_and]
        intro other present _ same
        exact distinct.1 (same ▸ present)
      simp [List.count_eq_zero_of_not_mem absent]
    · have different : head ≠ name := fun same => distinct.1 (same ▸ later)
      simp [different, ih distinct.2 later]

namespace State

/-- Settling a reference creates nothing. -/
theorem created_release (state : State) (name : Text) :
    (state.release name).created = state.created := by
  unfold release
  split <;> rfl

/-- Settling a reference lowers the count of its table and no other count. -/
theorem get?_release (state : State) (name sought : Text) :
    (state.release name).waiting.get? sought =
      (state.waiting.get? sought).map (· - if sought = name then 1 else 0) := by
  -- The count is put back at the same name.
  unfold release
  split
  · rename_i unknown
    by_cases same : sought = name
    · simp [same, unknown]
    · simp [same]
  · rename_i count found
    rw [OrderedMap.get?_insert]
    by_cases same : sought = name
    · simp [same, found]
    · simp [same]

/-- A table becomes ready when its last reference is settled. -/
theorem ready_release {state : State} {name : Text} {count : Int}
    (found : state.waiting.get? name = some count) :
    (state.release name).ready = state.ready ++ if count = 1 then [name] else [] := by
  -- The count goes down by one, to zero for the last reference alone.
  unfold release
  rw [found]
  by_cases last : count = 1
  · simp [last]
  · have more : count - 1 ≠ 0 := by omega
    simp [last, more]

/-- Settling references creates nothing. -/
theorem created_foldl_release (names : List Text) (state : State) :
    (names.foldl release state).created = state.created := by
  induction names generalizing state with
  | nil => rfl
  | cons name rest ih => rw [List.foldl_cons, ih, created_release]

/-- Settling references lowers the count of each table by the number of its references. -/
theorem get?_foldl_release (names : List Text) (state : State) (sought : Text) :
    (names.foldl release state).waiting.get? sought =
      (state.waiting.get? sought).map (· - (names.count sought : Int)) := by
  -- Each reference lowers one count by one.
  induction names generalizing state with
  | nil => simp
  | cons name rest ih =>
    rw [List.foldl_cons, ih, get?_release, Option.map_map, List.count_cons]
    congr 1
    funext count
    by_cases same : sought = name
    · subst name
      simp only [Function.comp_apply, if_true, beq_self_eq_true, Int.natCast_add]
      omega
    · simp [same, Ne.symm same]

/-- Settling references of one table makes it ready when the last one is among them. -/
theorem ready_foldl_replicate {state : State} {name : Text} {count : Int}
    (found : state.waiting.get? name = some count) (times : Nat) :
    ((List.replicate times name).foldl release state).ready =
      state.ready ++ if 0 < count ∧ count ≤ times then [name] else [] := by
  -- Only the step from one to zero makes the table ready, and the count passes it at most once.
  induction times generalizing state count with
  | zero =>
    have never : ¬(0 < count ∧ count ≤ ((0 : Nat) : Int)) := by omega
    rw [if_neg never]
    simp
  | succ times ih =>
    have lowered : (state.release name).waiting.get? name = some (count - 1) := by
      simp [get?_release, found]
    rw [List.replicate_succ, List.foldl_cons, ih lowered, ready_release found, List.append_assoc]
    by_cases last : count = 1
    · subst count
      simp
    · have same : (0 < count - 1 ∧ count - 1 ≤ (times : Int)) ↔
          (0 < count ∧ count ≤ ((times + 1 : Nat) : Int)) := by omega
      simp only [if_neg last, List.nil_append, same]

/-- Settling references table by table makes those ready whose last reference is among them. -/
theorem ready_foldl_flatMap {names : List Text} (distinct : names.Nodup) (times : Text → Nat)
    (count : Text → Int) {state : State}
    (known : ∀ name ∈ names, state.waiting.get? name = some (count name)) :
    ((names.flatMap fun name => List.replicate (times name) name).foldl release state).ready =
      state.ready ++ names.filter fun name => 0 < count name ∧ count name ≤ times name := by
  -- The references of one table leave the counts of the tables after it as they are.
  induction names generalizing state with
  | nil => simp
  | cons name rest ih =>
    rw [List.nodup_cons] at distinct
    have kept : ∀ other ∈ rest,
        ((List.replicate (times name) name).foldl release state).waiting.get? other =
          some (count other) := by
      intro other member
      have different : name ≠ other := fun same => distinct.1 (same ▸ member)
      rw [get?_foldl_release, known other (List.mem_cons_of_mem _ member),
        List.count_replicate]
      simp [different]
    rw [List.flatMap_cons, List.foldl_append, ih distinct.2 kept,
      ready_foldl_replicate (known name List.mem_cons_self), List.append_assoc, List.filter_cons]
    by_cases passes : 0 < count name ∧ count name ≤ times name <;> simp [passes]

end State

end CreationOrder

end Ddl
