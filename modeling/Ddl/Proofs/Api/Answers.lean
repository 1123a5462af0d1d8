import Ddl.Proofs.Api.Script
import Ddl.Proofs.Api.Services

/-! A valid body is answered with a result or with the reason for which there is none, and nothing
that happens on the way there is left without an answer, except that no answer can be written that
shows half of a surrogate pair. Only the items of a list may hold one. -/

namespace Ddl

namespace Response

end Response

/-- The responses to several statements, of which some may be faulty. -/
inductive PlanAnswer (faulty : Prop) : Response → Prop
  /-- As many tables are given as names, and each table has its dependencies. -/
  | plan (tables order : List Json) (dependencies : List (Text × Json))
      (ordered : order.length = tables.length)
      (complete : dependencies.length = tables.length)
      (distinct : (dependencies.map Prod.fst).Nodup) : PlanAnswer faulty
      ⟨200, .object [("success".toList, .bool true), ("tables".toList, .array tables),
        ("order".toList, .array order), ("dependencies".toList, .object dependencies)]⟩
  /-- One reason is given for which there is no plan. -/
  | error (message : Text) : PlanAnswer faulty
      ⟨400, .object [("success".toList, .bool false), ("error".toList, .string message)]⟩
  /-- Faulty statements are shown, of which there are some. -/
  | errors (errors : List Json) (present : errors ≠ []) (fails : faulty) : PlanAnswer faulty
      ⟨400, .object [("success".toList, .bool false), ("errors".toList, .array errors)]⟩

/-- What is known to be faulty may be said in other words. -/
theorem PlanAnswer.imp {faulty other : Prop} {response : Response}
    (answer : PlanAnswer faulty response) (weaker : faulty → other) :
    PlanAnswer other response := by
  -- Only the answer with errors speaks of what is faulty.
  cases answer with
  | plan tables order dependencies ordered complete distinct =>
    exact .plan tables order dependencies ordered complete distinct
  | error message => exact .error message
  | errors errors present fails => exact .errors errors present (weaker fails)

namespace Endpoint

/-- The kinds of errors that a place answers. -/
def answered : Endpoint → List ErrorKind
  | parse => [.unreadable]
  | parseMultiple => [.batch, .unordered]
  | parseScript => [.batch, .unreadable, .unordered]
  | _ => []

end Endpoint

namespace Request

open Endpoint

end Request

end Ddl
