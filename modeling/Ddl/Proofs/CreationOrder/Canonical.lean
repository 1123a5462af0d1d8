import Ddl.Proofs.CreationOrder.Outcome

/-! Tables come in the order of their last references, and in input order where these agree. -/

namespace Ddl

namespace CreationOrder

variable {tables : List Table}

/-- The last place in an order of a table that the named one refers to, and -1 for no reference. -/
def lastReference (tables : List Table) (order : List Text) (name : Text) : Int :=
  -- Several keys to one table count as one.
  ((references tables name).map fun target => (order.idxOf target : Int)).foldr max (-1)

/-- The place of the last reference of a table, and then the place of the table in the input. -/
def rank (tables : List Table) (order : List Text) (name : Text) : Int × Nat :=
  (lastReference tables order name, (tables.map Table.name).idxOf name)

/-- Ranks grow along the order, where earlier last references come first. -/
def Canonical (tables : List Table) (order : List Text) : Prop :=
  order.Pairwise fun first second =>
    Prod.Lex (· < ·) (· < ·) (rank tables order first) (rank tables order second)

/-- A greatest value is below a bound when the least possible one and all values are. -/
theorem foldr_max_lt_iff {values : List Int} {least bound : Int} :
    values.foldr max least < bound ↔ least < bound ∧ ∀ value ∈ values, value < bound := by
  -- The bound holds for one value after another.
  induction values with
  | nil => simp
  | cons value rest ih =>
    rw [List.foldr_cons, max_lt_iff, ih]
    simp only [List.mem_cons, forall_eq_or_imp]
    tauto

/-- The last reference is before a place when all references are. -/
theorem lastReference_lt_iff {order : List Text} {name : Text} {bound : Int} :
    lastReference tables order name < bound ↔
      -1 < bound ∧ ∀ target, RefersTo tables name target → (order.idxOf target : Int) < bound := by
  rw [lastReference, foldr_max_lt_iff]
  simp [RefersTo]

/-- No reference comes after the last one. -/
theorem idxOf_le_lastReference (order : List Text) {name target : Text}
    (refers : RefersTo tables name target) :
    (order.idxOf target : Int) ≤ lastReference tables order name := by
  by_contra later
  have below := (lastReference_lt_iff.mp (Int.not_le.mp later)).2 target refers
  omega

/-- A table that refers to others refers to one at the place of the last reference. -/
theorem exists_lastReference {order : List Text} {name : Text}
    (present : 0 ≤ lastReference tables order name) :
    ∃ target, RefersTo tables name target ∧
      lastReference tables order name = order.idxOf target := by
  -- Otherwise all references would come before the last one.
  by_contra missing
  have below : lastReference tables order name < lastReference tables order name := by
    refine lastReference_lt_iff.mpr ⟨by omega, ?_⟩
    intro target refers
    have bounded := idxOf_le_lastReference order refers
    have different : lastReference tables order name ≠ order.idxOf target :=
      fun same => missing ⟨target, refers, same⟩
    omega
  exact absurd below (Int.lt_irrefl _)

/-- The rank of a table depends on the places of the tables that it refers to. -/
theorem rank_congr {order other : List Text} {name : Text}
    (same : ∀ target, RefersTo tables name target → order.idxOf target = other.idxOf target) :
    rank tables order name = rank tables other name := by
  -- Only the last reference of a table counts for its rank, and references have the same places.
  have places : (references tables name).map (fun target => (order.idxOf target : Int)) =
      (references tables name).map fun target => (other.idxOf target : Int) :=
    List.map_congr_left fun target refers => by rw [same target refers]
  rw [rank, rank, lastReference, lastReference, places]

/-- The rank of a table stays when names are added behind all that it refers to. -/
theorem rank_append {order : List Text} {name : Text}
    (inside : ∀ target, RefersTo tables name target → target ∈ order) (more : List Text) :
    rank tables (order ++ more) name = rank tables order name :=
  -- Names keep their places.
  rank_congr fun target refers => List.idxOf_append_of_mem (inside target refers)

/-- The last reference of a table is inside a list when all that it refers to is. -/
theorem lastReference_lt_length {order : List Text} {name : Text}
    (inside : ∀ target, RefersTo tables name target → target ∈ order) :
    lastReference tables order name < order.length := by
  refine lastReference_lt_iff.mpr ⟨by omega, fun target refers => ?_⟩
  exact_mod_cast List.idxOf_lt_length_of_mem (inside target refers)

/-- The last reference of a table that is freed is the table that is created just now. -/
theorem lastReference_of_mem_freed {created : List Text} {current name : Text}
    (new : current ∉ created) (member : name ∈ freed tables created current) :
    lastReference tables (created ++ [current]) name = created.length := by
  -- No reference is behind the current table, and one is to it.
  obtain ⟨refers, inside⟩ := (mem_freed_iff new).mp member
  have below := lastReference_lt_length inside
  have above := idxOf_le_lastReference (created ++ [current]) refers
  rw [List.idxOf_append_of_notMem new, List.idxOf_cons_self] at above
  simp only [List.length_append, List.length_singleton] at below
  omega

/-- Names of a part that keeps the order come in the order of their places. -/
theorem pairwise_idxOf_of_sublist {names part : List Text} (distinct : names.Nodup)
    (sublist : part.Sublist names) :
    part.Pairwise fun first second => names.idxOf first < names.idxOf second := by
  -- In the whole list the place of the element at an index is that index.
  have whole : names.Pairwise fun first second => names.idxOf first < names.idxOf second := by
    refine List.pairwise_iff_getElem.mpr fun early late isEarly isLate ordered => ?_
    rwa [distinct.idxOf_getElem early isEarly, distinct.idxOf_getElem late isLate]
  exact whole.sublist sublist

/-- A listed table refers only to tables that are created. -/
theorem Sound.target_created {state : State} (sound : Sound tables state) {name target : Text}
    (member : name ∈ state.listed) (refers : RefersTo tables name target) :
    target ∈ state.created :=
  awaited_eq_zero_iff.mp ((sound.listed_iff name (sound.given name member)).mp member)
    target refers

/-- The ranks of the names that are listed grow from the start. -/
theorem canonical_start (distinct : (tables.map Table.name).Nodup) :
    Canonical tables (State.start tables).listed := by
  -- None of these tables refers to another, so only the input order counts.
  have sound := sound_start distinct
  have sublist : (State.start tables).listed.Sublist (tables.map Table.name) := by
    show (State.start tables).ready.Sublist _
    rw [ready_start distinct]
    exact List.filter_sublist
  have last : ∀ name ∈ (State.start tables).listed, references tables name = [] := by
    intro name member
    rw [List.eq_nil_iff_forall_not_mem]
    intro target refers
    exact absurd (sound.target_created member refers) List.not_mem_nil
  have places := pairwise_idxOf_of_sublist distinct sublist
  refine places.imp_of_mem fun isFirst isSecond ordered => ?_
  rw [Prod.lex_def]
  refine Or.inr ⟨?_, ordered⟩
  simp [rank, lastReference, last _ isFirst, last _ isSecond]

/-- A step keeps the ranks growing: those that it frees wait for the table that it creates. -/
theorem canonical_step (distinct : (tables.map Table.name).Nodup) {state next : State}
    (sound : Sound tables state) (canonical : Canonical tables state.listed)
    (stepped : state.step? tables = some next) : Canonical tables next.listed := by
  obtain ⟨current, later, ready, new, created, readied, _⟩ := step?_eq_some distinct sound stepped
  have listed : state.listed = state.created ++ [current] ++ later := by
    simp [State.listed, ready]
  -- Listed tables refer to created ones, which come before the current table.
  have old : ∀ name ∈ state.listed,
      rank tables (state.listed ++ freed tables state.created current) name =
        rank tables state.listed name ∧
      (rank tables state.listed name).1 < state.created.length := by
    intro name member
    have inside : ∀ target, RefersTo tables name target → target ∈ state.created :=
      fun target refers => sound.target_created member refers
    refine ⟨rank_append (fun target refers => List.mem_append_left _ (inside target refers)) _, ?_⟩
    rw [State.listed, rank_append inside]
    exact lastReference_lt_length inside
  -- Freed tables refer to the current one and to none after it.
  have free : ∀ name ∈ freed tables state.created current,
      (rank tables (state.listed ++ freed tables state.created current) name).1 =
        state.created.length := by
    intro name member
    rw [listed, List.append_assoc, rank_append ((mem_freed_iff new).mp member).2]
    exact lastReference_of_mem_freed new member
  -- The names listed so far, the freed ones and pairs of both kinds are looked at in turn.
  rw [listed_step ready created readied, Canonical, List.pairwise_append]
  refine ⟨?_, ?_, ?_⟩
  · refine canonical.imp_of_mem fun isFirst isSecond ordered => ?_
    rwa [(old _ isFirst).1, (old _ isSecond).1]
  · have sublist : (freed tables state.created current).Sublist (tables.map Table.name) :=
      List.filter_sublist
    have places := pairwise_idxOf_of_sublist distinct sublist
    refine places.imp_of_mem fun isFirst isSecond ordered => ?_
    rw [Prod.lex_def]
    exact Or.inr ⟨(free _ isFirst).trans (free _ isSecond).symm, ordered⟩
  · intro first isFirst second isSecond
    rw [Prod.lex_def]
    refine Or.inl ?_
    rw [(old first isFirst).1, free second isSecond]
    exact (old first isFirst).2

/-- The ranks of the names that are listed grow in every state on the way. -/
theorem Reachable.canonical (distinct : (tables.map Table.name).Nodup) {state : State}
    (reachable : Reachable tables state) : Canonical tables state.listed := by
  induction reachable with
  | start => exact canonical_start distinct
  | step reachable stepped ih => exact canonical_step distinct (reachable.sound distinct) ih stepped

/-- The ranks of the names that are created grow in the end. -/
theorem canonical_finallyCreated (distinct : (tables.map Table.name).Nodup) :
    Canonical tables (finallyCreated tables) := by
  rw [← listed_run]
  exact Reachable.start.run.canonical distinct

/-- The tables that refer to no other stay the first that are listed. -/
theorem Reachable.ready_prefix (distinct : (tables.map Table.name).Nodup) {state : State}
    (reachable : Reachable tables state) : (State.start tables).ready <+: state.listed := by
  -- A step adds names behind those that are listed.
  induction reachable with
  | start => exact List.prefix_rfl
  | step reachable stepped ih =>
    obtain ⟨current, later, ready, _, created, readied, _⟩ :=
      step?_eq_some distinct (reachable.sound distinct) stepped
    rw [listed_step ready created readied]
    exact ih.trans (List.prefix_append _ _)

/-- Two canonical orders with a common front cannot go on with different names when one of the
two names refers to the front alone. -/
theorem not_canonical_both {common left right : List Text} {early late : Text}
    (before : ∀ target, RefersTo tables late target → target ∈ common)
    (canonical : Canonical tables (common ++ late :: left)) (earlyBehind : early ∈ left)
    (lateBehind : late ∈ right) : ¬Canonical tables (common ++ early :: right) := by
  intro otherCanonical
  have lateFirst := List.rel_of_pairwise_cons (List.pairwise_append.mp canonical).2.1 earlyBehind
  have earlyFirst :=
    List.rel_of_pairwise_cons (List.pairwise_append.mp otherCanonical).2.1 lateBehind
  rw [rank_append before] at lateFirst earlyFirst
  have small : (rank tables common late).1 < common.length := lastReference_lt_length before
  -- The other name has no greater rank, so it refers to the front alone as well.
  have inside : ∀ target, RefersTo tables early target → target ∈ common := by
    intro target refers
    by_contra absent
    have above : (((common ++ early :: right).idxOf target : Nat) : Int) ≤
        (rank tables (common ++ early :: right) early).1 := idxOf_le_lastReference _ refers
    rw [List.idxOf_append_of_notMem absent] at above
    rw [Prod.lex_def] at earlyFirst
    omega
  -- Both orders then give the two names the same ranks.
  rw [rank_append inside] at lateFirst earlyFirst
  rw [Prod.lex_def] at lateFirst earlyFirst
  omega

/-- A name that follows a common front in one list stands behind any other name that follows it in
a list of the same names. -/
theorem mem_behind {common left right : List Text} {early late : Text}
    (names : (common ++ early :: right).Perm (common ++ late :: left))
    (distinct : (common ++ early :: right).Nodup) (different : early ≠ late) : early ∈ left := by
  -- The name is neither in the common front nor the one that follows it.
  have inside := names.mem_iff.mp (List.mem_append_right common List.mem_cons_self)
  rcases List.mem_append.mp inside with front | rest
  · exact absurd front (not_mem_front distinct)
  · exact (List.mem_cons.mp rest).resolve_left different

/-- Two canonical orders of the same names agree when references come first in one of them. -/
theorem canonical_unique {order other : List Text} (distinct : order.Nodup)
    (first : TargetsFirst tables order) (canonical : Canonical tables order)
    (otherCanonical : Canonical tables other) (names : other.Perm order) : other = order := by
  -- The orders are compared from the front, where they have agreed so far on a common part.
  suffices agree : ∀ left common right, order = common ++ left → other = common ++ right →
      right = left by
    exact agree order [] other rfl rfl
  intro left
  induction left with
  -- Both orders have as many names, so that one ends where the other does.
  | nil =>
    intro common right front back
    have lengths := names.length_eq
    rw [front, back] at lengths
    simpa using lengths
  | cons late left ih =>
    intro common right front back
    cases right with
    | nil =>
      have lengths := names.length_eq
      rw [front, back] at lengths
      simp at lengths
    | cons early right =>
      by_cases same : early = late
      · subst early
        rw [ih (common ++ [late]) right (by simpa using front) (by simpa using back)]
      · -- The place of the one name in its order leaves it only references to the front.
        have otherDistinct := names.nodup_iff.mpr distinct
        rw [front] at names distinct first canonical
        rw [back] at names otherDistinct otherCanonical
        have before : ∀ target, RefersTo tables late target → target ∈ common := by
          intro target refers
          by_contra absent
          have place := first late (by simp) target refers
          rw [List.idxOf_append_of_notMem absent, List.idxOf_append_of_notMem
            (not_mem_front distinct), List.idxOf_cons_self] at place
          omega
        -- Each of the two names stands behind the other in one of the orders.
        have earlyBehind := mem_behind names otherDistinct same
        have lateBehind := mem_behind names.symm distinct (Ne.symm same)
        exact absurd otherCanonical (not_canonical_both before canonical earlyBehind lateBehind)

/-- Earlier names in a canonical order have no later last references. -/
theorem lastReference_le_of_idxOf_le {order : List Text} (canonical : Canonical tables order)
    {first second : Text} (isFirst : first ∈ order) (isSecond : second ∈ order)
    (ordered : order.idxOf first ≤ order.idxOf second) :
    lastReference tables order first ≤ lastReference tables order second := by
  -- The ranks grow along the order, and the last reference is their first part.
  rcases Nat.lt_or_eq_of_le ordered with earlier | same
  · have ranks := List.pairwise_iff_getElem.mp canonical _ _
      (List.idxOf_lt_length_of_mem isFirst) (List.idxOf_lt_length_of_mem isSecond) earlier
    rw [List.getElem_idxOf, List.getElem_idxOf, Prod.lex_def] at ranks
    show (rank tables order first).1 ≤ (rank tables order second).1
    omega
  · rw [(List.idxOf_inj isFirst).mp same]

/-- A chain of so many references starts at the table. -/
def HasChain (tables : List Table) : Nat → Text → Prop
  -- A chain may stop anywhere.
  | 0, _ => True
  | length + 1, name => ∃ target, RefersTo tables name target ∧ HasChain tables length target

/-- A chain has no more references than there are places before its start. -/
theorem length_le_of_hasChain {order : List Text} (first : TargetsFirst tables order)
    {length : Nat} {name : Text} (member : name ∈ order) (chain : HasChain tables length name) :
    length ≤ order.idxOf name := by
  -- Each reference leads to an earlier place.
  induction length generalizing name with
  | zero => exact Nat.zero_le _
  | succ length ih =>
    obtain ⟨target, refers, rest⟩ := chain
    have earlier := first name member target refers
    have bounded := ih (first.mem member refers) rest
    omega

/-- Each table has a longest chain of references. -/
theorem exists_longest {order : List Text} (first : TargetsFirst tables order) {name : Text}
    (member : name ∈ order) :
    ∃ longest, IsGreatest {length | HasChain tables length name} longest := by
  -- The empty chain is one of them, and the place of the start bounds all of them.
  have bounded : BddAbove {length | HasChain tables length name} := by
    refine ⟨order.idxOf name, ?_⟩
    intro length chain
    exact length_le_of_hasChain first member chain
  exact bounded.exists_isGreatest_of_nonempty ⟨0, trivial⟩

/-- Later names in a canonical order start chains at least as long. -/
theorem HasChain.of_idxOf_le {order : List Text} (canonical : Canonical tables order)
    (inside : ∀ name ∈ order, ∀ target, RefersTo tables name target → target ∈ order)
    {length : Nat} {first second : Text} (isFirst : first ∈ order) (isSecond : second ∈ order)
    (later : order.idxOf first ≤ order.idxOf second) (chain : HasChain tables length first) :
    HasChain tables length second := by
  -- The last table that the later one refers to is no earlier than the next one of the chain.
  induction length generalizing first second with
  | zero => trivial
  | succ length ih =>
    obtain ⟨target, refers, rest⟩ := chain
    have bounded := idxOf_le_lastReference order refers
    have grown := lastReference_le_of_idxOf_le canonical isFirst isSecond later
    obtain ⟨last, refersLast, place⟩ :=
      exists_lastReference ((Int.natCast_nonneg _).trans (bounded.trans grown))
    refine ⟨last, refersLast, ih (inside first isFirst target refers)
      (inside second isSecond last refersLast) ?_ rest⟩
    omega

/-- An order that is found is the only one in which ranks grow. Longest chains of references grow
along it as well, and the tables that refer to no other come first in input order. -/
theorem resolve_canonical {order : List Text} (resolved : resolve tables = .ok order) :
    Canonical tables order ∧
      (∀ other : List Text, other.Perm (tables.map Table.name) → Canonical tables other →
        other = order) ∧
      (∃ longest : Text → Nat,
        (∀ name ∈ order, IsGreatest {length | HasChain tables length name} (longest name)) ∧
          order.Pairwise fun first second => longest first ≤ longest second) ∧
      (tables.filter fun table => table.outgoing = []).map Table.name <+: order := by
  have names := perm_of_resolve resolved
  obtain ⟨distinct, _, rfl⟩ := resolve_eq_ok_iff.mp resolved
  have reachable : Reachable tables ((State.start tables).run tables) := Reachable.start.run
  -- What holds for each state that is reached holds for the last one.
  have canonical : Canonical tables (finallyCreated tables) := by
    rw [← listed_run]
    exact reachable.canonical distinct
  have unique := nodup_finallyCreated distinct
  have first := targetsFirst_finallyCreated distinct
  refine ⟨canonical, ?_, ?_, ?_⟩
  · intro other otherNames otherCanonical
    exact canonical_unique unique first canonical otherCanonical (otherNames.trans names.symm)
  · -- Later tables have the chains of earlier ones, and hence no shorter longest ones.
    have chains := fun name (member : name ∈ finallyCreated tables) => exists_longest first member
    choose! longest greatest using chains
    refine ⟨longest, greatest, ?_⟩
    have places := pairwise_idxOf_of_sublist unique (List.Sublist.refl _)
    refine places.imp_of_mem fun isFirst isSecond earlier => ?_
    have chain := (greatest _ isFirst).1
    exact (greatest _ isSecond).2 (chain.of_idxOf_le canonical
      (fun _ member _ refers => first.mem member refers) isFirst isSecond earlier.le)
  · rw [← filter_awaited_nil distinct, ← ready_start distinct, ← listed_run]
    exact reachable.ready_prefix distinct

/-- A table that refers to two others, which both refer to a fourth one, some of them repeatedly. -/
def diamondTables : List Table :=
  [referring ['d'] [['b'], ['c'], ['b']], referring ['c'] [['a'], ['a']], referring ['e'] [],
    referring ['b'] [['b'], ['a']], referring ['a'] []]

/-- Two tables refer to none, and the two that both refer to the same one keep their order. -/
theorem resolve_canonical_diamond :
    resolve diamondTables = .ok [['e'], ['a'], ['c'], ['b'], ['d']] ∧
      Canonical diamondTables [['e'], ['a'], ['c'], ['b'], ['d']] := by
  have resolved : resolve diamondTables = .ok [['e'], ['a'], ['c'], ['b'], ['d']] := by
    cbv
  exact ⟨resolved, (resolve_canonical resolved).1⟩

end CreationOrder

end Ddl
