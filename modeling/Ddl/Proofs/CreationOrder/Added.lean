import Ddl.Proofs.CreationOrder.Circular
import Ddl.Proofs.CreationOrder.SameReferences

/-! A table that no other one refers to is put into the order of the others and leaves it as it
is. -/

namespace Ddl

namespace CreationOrder

variable {tables part : List Table} {order other kept : List Text} {first second : Text}

/-- Names of a part that keeps the order come one after the other as they do in the whole. -/
theorem idxOf_lt_iff_of_sublist {names : List Text} (distinct : names.Nodup)
    (sublist : kept.Sublist names) (isFirst : first ∈ kept) (isSecond : second ∈ kept) :
    kept.idxOf first < kept.idxOf second ↔ names.idxOf first < names.idxOf second := by
  have places := pairwise_idxOf_of_sublist distinct sublist
  have onward : ∀ {early late : Text}, early ∈ kept → late ∈ kept →
      kept.idxOf early < kept.idxOf late → names.idxOf early < names.idxOf late := by
    intro early late isEarly isLate earlier
    have ordered := List.pairwise_iff_getElem.mp places _ _ (List.idxOf_lt_length_of_mem isEarly)
      (List.idxOf_lt_length_of_mem isLate) earlier
    rwa [List.getElem_idxOf, List.getElem_idxOf] at ordered
  refine ⟨onward isFirst isSecond, fun earlier => ?_⟩
  -- Otherwise they would come in the other order in the whole too, or be the same.
  rcases Nat.lt_trichotomy (kept.idxOf first) (kept.idxOf second) with before | same | behind
  · exact before
  · rw [(List.idxOf_inj isFirst).mp same] at earlier
    exact absurd earlier (lt_irrefl _)
  · exact absurd (onward isSecond isFirst behind) (by omega)

/-- Which of two last references comes first depends on the order of the references only. -/
theorem lastReference_lt_of_places
    (places : ∀ early late, RefersTo tables first early → RefersTo tables second late →
      order.idxOf early < order.idxOf late → other.idxOf early < other.idxOf late)
    (below : lastReference tables order first < lastReference tables order second) :
    lastReference tables other first < lastReference tables other second := by
  obtain ⟨least, before⟩ := lastReference_lt_iff.mp below
  obtain ⟨late, refersLate, place⟩ := exists_lastReference (Int.add_one_le_of_lt least)
  -- The last reference of the second name is behind all of the first one in the other order, too.
  have bounded := idxOf_le_lastReference other refersLate
  refine lastReference_lt_iff.mpr ⟨by omega, fun early refersEarly => ?_⟩
  have earlier := before early refersEarly
  have ordered := places early late refersEarly refersLate (by omega)
  omega

/-- The last references of tables from a part have the same order when other names are deleted. -/
theorem lastReference_lt_iff_of_sublist (distinct : (tables.map Table.name).Nodup)
    (sublist : part.Sublist tables) (closed : Closed part) (orderDistinct : order.Nodup)
    (keptSublist : kept.Sublist order) (covers : part.map Table.name ⊆ kept)
    (isFirst : first ∈ part.map Table.name) (isSecond : second ∈ part.map Table.name) :
    lastReference part kept first < lastReference part kept second ↔
      lastReference tables order first < lastReference tables order second := by
  have last : ∀ name ∈ part.map Table.name,
      lastReference tables order name = lastReference part order name := by
    intro name given
    have same := refersTo_of_sublist distinct sublist given
    exact le_antisymm (lastReference_mono fun target => (same target).mpr)
      (lastReference_mono fun target => (same target).mp)
  -- All references lead to names that are kept.
  have places : ∀ early late, RefersTo part first early → RefersTo part second late →
      (kept.idxOf early < kept.idxOf late ↔ order.idxOf early < order.idxOf late) := by
    intro early late refersEarly refersLate
    exact idxOf_lt_iff_of_sublist orderDistinct keptSublist
      (covers (closed.target_given refersEarly)) (covers (closed.target_given refersLate))
  rw [last first isFirst, last second isSecond]
  constructor
  · exact lastReference_lt_of_places fun early late one two => (places early late one two).mp
  · exact lastReference_lt_of_places fun early late one two => (places early late one two).mpr

/-- A canonical order of tables is canonical for a closed part of them when only names of the part
are kept. -/
theorem Canonical.of_sublist (distinct : (tables.map Table.name).Nodup)
    (sublist : part.Sublist tables) (closed : Closed part) (canonical : Canonical tables order)
    (orderDistinct : order.Nodup) (keptSublist : kept.Sublist order)
    (names : ∀ name, name ∈ kept ↔ name ∈ part.map Table.name) : Canonical part kept := by
  have last : ∀ {early late : Text}, early ∈ part.map Table.name → late ∈ part.map Table.name →
      (lastReference part kept early < lastReference part kept late ↔
        lastReference tables order early < lastReference tables order late) :=
    lastReference_lt_iff_of_sublist distinct sublist closed orderDistinct keptSublist
      fun name => (names name).mpr
  refine (canonical.sublist keptSublist).imp_of_mem fun isFirst isSecond ordered => ?_
  rw [names] at isFirst isSecond
  rw [Prod.lex_def] at ordered ⊢
  -- The last references are compared as before, and so are the places among the tables.
  rcases ordered with earlier | ⟨same, before⟩
  · exact .inl ((last isFirst isSecond).mpr earlier)
  · refine .inr ⟨le_antisymm (not_lt.mp ?_) (not_lt.mp ?_), ?_⟩
    · exact fun behind => absurd ((last isSecond isFirst).mp behind) same.not_gt
    · exact fun behind => absurd ((last isFirst isSecond).mp behind) same.not_lt
    · exact (idxOf_lt_iff_of_sublist distinct (sublist.map Table.name) isFirst isSecond).mpr before

/-- Tables that refer to no others are created in the same order among others as by themselves. -/
theorem resolve_of_sublist (sublist : part.Sublist tables) (resolved : resolve part = .ok order)
    (whole : resolve tables = .ok other) : other.filter (· ∈ part.map Table.name) = order := by
  have names := perm_of_resolve resolved
  have wholeNames := perm_of_resolve whole
  obtain ⟨distinct, creatable, rfl⟩ := resolve_eq_ok_iff.mp resolved
  obtain ⟨wholeDistinct, -, rfl⟩ := resolve_eq_ok_iff.mp whole
  have unique := nodup_finallyCreated wholeDistinct
  -- Just the names of the part are kept.
  have inside : ∀ name, name ∈ (finallyCreated tables).filter (· ∈ part.map Table.name) ↔
      name ∈ part.map Table.name := by
    intro name
    rw [List.mem_filter, wholeNames.mem_iff, decide_eq_true_eq, and_iff_right_iff_imp]
    exact fun given => (sublist.map Table.name).subset given
  have permuted : ((finallyCreated tables).filter (· ∈ part.map Table.name)).Perm
      (finallyCreated part) :=
    (List.perm_ext_iff_of_nodup (unique.filter _) (nodup_finallyCreated distinct)).mpr fun name =>
      (inside name).trans names.mem_iff.symm
  -- Both orders are canonical for the part, and only one order is.
  have canonical := (canonical_finallyCreated wholeDistinct).of_sublist wholeDistinct sublist
    (forall_creatable_iff.mp creatable).1 unique List.filter_sublist inside
  exact canonical_unique (nodup_finallyCreated distinct) (targetsFirst_finallyCreated distinct)
    (canonical_finallyCreated distinct) canonical permuted

variable {front back : List Table} {table : Table}

/-- The other tables stand in the enlarged list in the same order. -/
theorem sublist_add (front back : List Table) (table : Table) :
    (front ++ back).Sublist (front ++ table :: back) :=
  (List.sublist_cons_self table back).append_left front

/-- The enlarged list has one more name. -/
theorem mem_names_add {name : Text} : name ∈ (front ++ table :: back).map Table.name ↔
    name = table.name ∨ name ∈ (front ++ back).map Table.name := by
  rw [List.map_append, List.map_cons, List.perm_middle.mem_iff, ← List.map_append, List.mem_cons]

/-- A table with a new name that refers to the others can be created when they can. -/
theorem Resolves.add_leaf (resolves : Resolves (front ++ back))
    (new : table.name ∉ (front ++ back).map Table.name)
    (inside : ∀ key ∈ table.foreignKeys,
      key.target.table = table.name ∨ key.target.table ∈ (front ++ back).map Table.name) :
    Resolves (front ++ table :: back) := by
  obtain ⟨distinct, creatable⟩ := resolves_iff.mp resolves
  have wholeDistinct : ((front ++ table :: back).map Table.name).Nodup := by
    rw [List.map_append, List.map_cons, List.nodup_middle, ← List.map_append, List.nodup_cons]
    exact ⟨new, distinct⟩
  -- What could be created is created from the same tables as before.
  have others : ∀ name ∈ (front ++ back).map Table.name,
      Creatable (front ++ table :: back) name :=
    fun name given => (creatable name given).of_sublist wholeDistinct (sublist_add front back table)
  have leaf : Creatable (front ++ table :: back) table.name := by
    refine .intro (List.mem_map_of_mem (by simp)) fun target refers => ?_
    -- Its references are those of its own foreign keys, which lead to the other tables.
    rw [RefersTo, references_of_mem wholeDistinct (by simp), Table.outgoing, List.mem_filter,
      List.mem_map] at refers
    obtain ⟨⟨key, member, rfl⟩, other⟩ := refers
    exact others _ ((inside key member).resolve_left (of_decide_eq_true other))
  refine resolves_iff.mpr ⟨wholeDistinct, fun name given => ?_⟩
  rcases mem_names_add.mp given with rfl | given
  · exact leaf
  · exact others name given

/-- A new table that refers to itself and to given tables can be put anywhere among these. The
tables then have an order, which is the one that they had before when the new name is deleted. -/
theorem resolve_add_leaf (resolved : resolve (front ++ back) = .ok order)
    (new : table.name ∉ (front ++ back).map Table.name)
    (inside : ∀ key ∈ table.foreignKeys,
      key.target.table = table.name ∨ key.target.table ∈ (front ++ back).map Table.name) :
    ∃ enlarged, resolve (front ++ table :: back) = .ok enlarged ∧
      enlarged.filter (· ≠ table.name) = order := by
  obtain ⟨enlarged, whole⟩ := Resolves.add_leaf ⟨order, resolved⟩ new inside
  refine ⟨enlarged, whole, ?_⟩
  rw [← resolve_of_sublist (sublist_add front back table) resolved whole]
  -- All names but the new one are names of the other tables.
  refine List.filter_congr fun name member => ?_
  rw [(perm_of_resolve whole).mem_iff, mem_names_add] at member
  rw [decide_eq_decide]
  exact ⟨member.resolve_left, fun given same => new (same ▸ given)⟩

/-- The diamond with a table behind its first one that refers to two others and to itself. -/
def leafTables : List Table :=
  diamondTables.take 1 ++ referring ['x'] [['a'], ['x'], ['e']] :: diamondTables.drop 1

/-- The table stands in the order between those of the diamond, which are where they were. -/
theorem resolve_add_leaf_diamond :
    resolve leafTables = .ok [['e'], ['a'], ['x'], ['c'], ['b'], ['d']] ∧
      [['e'], ['a'], ['x'], ['c'], ['b'], ['d']].filter (· ≠ ['x']) =
        [['e'], ['a'], ['c'], ['b'], ['d']] := by
  -- The leaf does not change the order of the others.
  have resolved : resolve (diamondTables.take 1 ++ diamondTables.drop 1) =
      .ok [['e'], ['a'], ['c'], ['b'], ['d']] := by
    cbv
  have whole : resolve leafTables = .ok [['e'], ['a'], ['x'], ['c'], ['b'], ['d']] := by
    cbv
  obtain ⟨enlarged, again, deleted⟩ : ∃ enlarged, resolve leafTables = .ok enlarged ∧
      enlarged.filter (· ≠ ['x']) = [['e'], ['a'], ['c'], ['b'], ['d']] :=
    resolve_add_leaf resolved (by decide) (by decide)
  obtain rfl := Except.ok.inj (whole.symm.trans again)
  exact ⟨whole, deleted⟩

end CreationOrder

end Ddl
