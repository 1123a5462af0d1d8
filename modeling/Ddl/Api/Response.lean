import Ddl.Plan.Json

/-! Responses have a status and a body that tells success from failure. -/

namespace Ddl

/-- A response. -/
structure Response where
  /-- The status code. -/
  status : Nat
  /-- The body. -/
  body : Json

namespace Response

/-- The response to a request that succeeds, with the fields of its result. -/
def success (fields : List (Text × Json)) : Response :=
  ⟨200, .object (("success".toList, .bool true) :: fields)⟩

/-- The response to a request that fails for one reason. -/
def failure (message : Text) : Response :=
  ⟨400, .object [("success".toList, .bool false), ("error".toList, .string message)]⟩

/-- The response to a request in which some statements are faulty. -/
def failures (errors : List ItemError) : Response :=
  ⟨400, .object [("success".toList, .bool false),
    ("errors".toList, .array (errors.map ItemError.toJson))]⟩

/-- The response that gives a table. -/
def ofTable (table : Table) : Response :=
  success [("table".toList, table.toJson)]

/-- The response to the wish for a plan. -/
def ofPlan : Except PlanError Plan → Response
  | .ok plan => success plan.jsonFields
  | .error (.items errors) => failures errors
  | .error (.dependency error) => failure error.message

/-- The response to a request whose body cannot be read. -/
def unreadableBody : Response :=
  ⟨400, .object [("detail".toList, .string "There was an error parsing the body".toList)]⟩

/-- The response that gives a page about the service, whose contents are not described here. -/
def page : Response :=
  ⟨200, .null⟩

/-- The response to a request for a place that does not exist. -/
def notFound : Response :=
  ⟨404, .object [("detail".toList, .string "Not Found".toList)]⟩

/-- The response to a request with a method that its place does not have. -/
def methodNotAllowed : Response :=
  ⟨405, .object [("detail".toList, .string "Method Not Allowed".toList)]⟩

/-- The response when something happens that the place of the request does not answer. -/
def serverError : Response :=
  -- The body is this text alone, and no JSON.
  ⟨500, .string "Internal Server Error".toList⟩

end Response

end Ddl
