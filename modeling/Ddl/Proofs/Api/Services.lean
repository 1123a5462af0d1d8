import Ddl.Proofs.CreationOrder.Lookups
import Ddl.Proofs.Plan.Replay
import Ddl.Script.Statements

/-! The services end with a result or with an error that they tell, and no look-up in them fails. -/

namespace Ddl

/-- What stops a computation, with the errors that it tells seen as others. -/
def Stop.map {Error Other : Type} (convert : Error → Other) : Stop Error → Stop Other
  | raised error => .raised (convert error)
  | missed name => .missed name

namespace Plan

variable {tables : List Table}

/-- The plan for tables, each of which is looked up under its name in the order of creation. -/
def assemble (tables : List Table) : Except (Stop DependencyError) Plan := do
  let order ← CreationOrder.followGraph tables
  let ordered ← order.mapM (byName tables).fetch
  return ⟨ordered, order, CreationOrder.dependencyMap tables⟩

end Plan

/-- The errors that services tell. -/
inductive ServiceError where
  /-- A statement gives no table. -/
  | item (fault : ItemFault)
  /-- A script gives no statements. -/
  | script (error : ScriptError)
  /-- Many statements give no plan. -/
  | plan (error : PlanError)

/-- The kinds by which errors are told apart where they are answered. -/
inductive ErrorKind where
  /-- A text could not be read. -/
  | unreadable
  /-- Some of many statements are faulty. -/
  | batch
  /-- Tables have no order. -/
  | unordered
  deriving DecidableEq

/-- The kind of an error. -/
def ServiceError.kind : ServiceError → ErrorKind
  | item _ => .unreadable
  | script _ => .unreadable
  | plan (.items _) => .batch
  | plan (.dependency _) => .unordered

namespace Service

/-- What a service ends with. -/
abbrev Outcome (Value : Type) := Except (Stop ServiceError) Value

/-- A statement that keeps to the limit is read. -/
def table (limit : Int) (statement : Text) : Outcome Table :=
  if limit < statement.length then .error (.raised (.item (.tooLarge statement.length limit)))
  else
    match Table.ofStatement statement with
    | .ok table => .ok table
    | .error error => .error (.raised (.item (.statement error)))

/-- One of many statements is read. What is said about it alone joins the reports, and anything else
that stops its reading stops the whole work. -/
def collect (limit : Int) (read : List Table × List ItemError) (statement : Text) :
    Outcome (List Table × List ItemError) :=
  match table limit statement with
  | .ok table => .ok (read.1 ++ [table], read.2)
  | .error (.raised (.item fault)) => .ok (read.1, read.2 ++ [⟨Plan.preview statement, fault⟩])
  | .error stop => .error stop

/-- Many statements are read and planned. -/
def plan (limit : Int) (statements : List Text) : Outcome Plan := do
  let (tables, errors) ← statements.foldlM (collect limit) ([], [])
  if errors = [] then
    (Plan.assemble tables).mapError (Stop.map fun error => .plan (.dependency error))
  else .error (.raised (.plan (.items errors)))

end Service

end Ddl
