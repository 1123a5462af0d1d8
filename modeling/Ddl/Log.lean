import Ddl.OrderedMap
import Ddl.Text.Capital

/-! Loggers get their level when they are set up first, and keep it. -/

namespace Ddl

/-- A logger with the levels of its handlers. -/
structure Logger where
  /-- The level from which on the logger passes messages to its handlers. -/
  level : Nat
  /-- The levels from which on its handlers write messages. -/
  handlers : List Nat
  deriving DecidableEq

namespace Logger

/-- The levels by their names. -/
def levels : List (Text × Nat) :=
  [("CRITICAL".toList, 50), ("FATAL".toList, 50), ("ERROR".toList, 40), ("WARNING".toList, 30),
    ("WARN".toList, 30), ("INFO".toList, 20), ("DEBUG".toList, 10), ("NOTSET".toList, 0)]

/-- The level of a name in capital or small letters, which is that of information if unknown. -/
def levelOf (name : Text) : Nat :=
  (levels.lookup name.capitalize).getD 20

/-- The logger after it is set up with the name of a level. -/
def setUp (logger : Logger) (levelName : Text) : Logger :=
  -- A logger with a handler is set up already.
  if logger.handlers = [] then ⟨levelOf levelName, [levelOf levelName]⟩ else logger

end Logger

/-- The loggers by the names under which they are kept. -/
abbrev LogRegistry := OrderedMap Logger

namespace LogRegistry

/-- The name of the logger above all others. -/
def root : Text :=
  "root".toList

/-- The name under which the logger is kept that a name asks for. -/
def key (name : Text) : Text :=
  -- The empty name asks for the root, which can be asked for by its own name as well.
  if name = [] then root else name

/-- The logger that is kept under a name before it is set up. -/
def fresh (kept : Text) : Logger :=
  -- Only the root has a level of its own from the beginning, which is that of warnings.
  ⟨if kept = root then 30 else 0, []⟩

/-- The logger of a name. -/
def logger (registry : LogRegistry) (name : Text) : Logger :=
  (registry.get? (key name)).getD (fresh (key name))

/-- The loggers after the one of a name is set up with the name of a level. -/
def setUp (registry : LogRegistry) (name levelName : Text) : LogRegistry :=
  registry.insert (key name) ((registry.logger name).setUp levelName)

/-- The loggers that are set up one after another, each as it is right after its turn. -/
def history : LogRegistry → List (Text × Text) → List Logger
  -- A turn gives the name of a logger and the name of a level.
  | _, [] => []
  | registry, (name, levelName) :: later =>
    let registry := registry.setUp name levelName
    registry.logger name :: registry.history later

end LogRegistry

end Ddl
