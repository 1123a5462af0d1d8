import Ddl.Log
import Ddl.Proofs.OrderedMap
import Mathlib.Data.List.Induction

/-! A logger keeps the level of its first set-up, whatever is set up after that. -/

namespace Ddl

namespace Logger

/-- A logger that has one handler, of its own level. -/
def single (level : Nat) : Logger :=
  ⟨level, [level]⟩

/-- The set-up of a logger without handlers gives it one. -/
theorem setUp_of_bare {logger : Logger} (bare : logger.handlers = []) (levelName : Text) :
    logger.setUp levelName = single (levelOf levelName) := by
  rw [setUp, if_pos bare, single]

/-- The set-up of a logger that has its handler changes nothing. -/
theorem setUp_single (level : Nat) (levelName : Text) :
    (single level).setUp levelName = single level :=
  if_neg (List.cons_ne_nil level [])

end Logger

namespace LogRegistry

open Logger

variable {start registry : LogRegistry} {turns : List (Text × Text)}

/-- The loggers after they are set up one after another. -/
def after (registry : LogRegistry) (turns : List (Text × Text)) : LogRegistry :=
  turns.foldl (fun registry turn => registry.setUp turn.1 turn.2) registry

/-- No logger has a handler yet. -/
def Bare (registry : LogRegistry) : Prop :=
  -- The level of a logger may be any, even before it is set up.
  ∀ name, (registry.logger name).handlers = []

/-- The turns, with the names under which their loggers are kept. -/
def keyed (turns : List (Text × Text)) : List (Text × Text) :=
  turns.map fun turn => (key turn.1, turn.2)

/-- A set-up changes the logger of its name and no other. -/
theorem logger_setUp (registry : LogRegistry) (name levelName sought : Text) :
    (registry.setUp name levelName).logger sought =
      if key sought = key name then (registry.logger name).setUp levelName
      else registry.logger sought := by
  -- The logger of a name is the one that is kept under its key.
  rw [logger, setUp, OrderedMap.get?_insert]
  split <;> rfl

/-- Names that are kept alike have one logger. -/
theorem logger_congr {name other : Text} (same : key name = key other) :
    registry.logger name = registry.logger other := by
  rw [logger, logger, same]

/-- What the loggers are after some turns, told by the first turn of each of them. -/
structure Decided (start : LogRegistry) (turns : List (Text × Text))
    (registry : LogRegistry) : Prop where
  /-- The first turn of a logger gives it one handler, and the level of both. -/
  first : ∀ name levelName, (keyed turns).lookup (key name) = some levelName →
    registry.logger name = single (levelOf levelName)
  /-- Other loggers are as they were. -/
  others : ∀ name, (keyed turns).lookup (key name) = none →
    registry.logger name = start.logger name

/-- One more turn decides the logger of its name, unless an earlier turn did. -/
theorem Decided.setUp (bare : start.Bare) (decided : Decided start turns registry)
    (name levelName : Text) :
    Decided start (turns ++ [(name, levelName)]) (registry.setUp name levelName) := by
  -- With one more turn a name is found where it was found before, or at this turn.
  have later (sought : Text) : (keyed (turns ++ [(name, levelName)])).lookup (key sought) =
      ((keyed turns).lookup (key sought)).or
        (if key sought = key name then some levelName else none) := by
    rw [keyed, List.map_append, List.lookup_append, List.map_singleton,
      OrderedMap.lookup_cons_eq, List.lookup_nil, keyed]
  refine ⟨fun sought chosen found => ?_, fun sought absent => ?_⟩
  · rw [later] at found
    rw [logger_setUp]
    cases known : (keyed turns).lookup (key sought) with
    | some earlier =>
      -- The logger has its handler already, so that this turn leaves it alone.
      rw [known, Option.some_or, Option.some.injEq] at found
      have kept := decided.first sought earlier known
      split
      · rename_i same
        rw [← logger_congr same, kept, setUp_single, found]
      · rw [kept, found]
    | none =>
      -- The turn is the first one of the logger that is sought.
      rw [known, Option.none_or] at found
      split at found
      · rename_i same
        rw [if_pos same, ← logger_congr same, setUp_of_bare, ← Option.some.inj found]
        rw [decided.others sought known]
        exact bare sought
      · simp at found
  · rw [later, Option.or_eq_none_iff] at absent
    have different : key sought ≠ key name := fun same => by simp [same] at absent
    rw [logger_setUp, if_neg different]
    exact decided.others sought absent.1

end LogRegistry

end Ddl
