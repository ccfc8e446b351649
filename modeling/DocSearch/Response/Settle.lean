/-
Settling an outcome: the result of the operation, or the one error that the
answer stands for. A request that succeeded gives its result or an answer that
makes no sense. Of the others two still count as success: a document that is
not there to be read or to be removed. The rest are failures, put down to
missing credentials, to a missing document, to the engine's first reason or to
nothing known, in this order, and each is noted in the log.
-/
import DocSearch.Error
import DocSearch.Log.Source
import DocSearch.Response.Body
import DocSearch.Response.Outcome

namespace DocSearch

namespace Outcome

variable {α : Type} [Document α]

/-! ## Success -/

/-- Reads a body by its shape. -/
def readBody {β : Type} (shape : Json.Shape β) (body : Json) : Except ResponseError β :=
  (shape.read body).mapError .unreadable

/-- The creation that a body reports. -/
def creationOf (body : Json) : Except ResponseError Creation := do
  let write ← readBody WriteReply.shape body
  match write.version with
  | some version => .ok ⟨write.index, write.id, version⟩
  | none => .error .noVersion

/-- The record that a body holds, if it holds one. -/
def recordOf (body : Json) : Except ResponseError (Option (Record α)) := do
  let get ← readBody GetReply.shape body
  if get.found then
    match get.source with
    | some data => .ok (some ⟨get.index, get.id, get.version, none, data⟩)
    | none => .error .noSource
  else .ok none

/-- The result of an operation that succeeded. -/
def readResult (body : Json) : (operation : Operation) → Except ResponseError (operation.Result α)
  | .create => creationOf body
  | .get => recordOf body
  | .search => readBody Hits.shape body
  | .update => WriteReply.toChange <$> readBody WriteReply.shape body
  | .delete => WriteReply.toChange <$> readBody WriteReply.shape body
  | .truncate => readBody Truncation.bodyShape body
  | .createIndex => readBody IndexCreation.shape body
  | .dropIndex => readBody IndexRemoval.shape body

/-! ## Failures that count as success -/

/-- The engine says that there is no document to be read. -/
def saysAbsent (outcome : Outcome) : Bool :=
  outcome.status = 404 && outcome.body.member? "found" = some (.bool false)

/-- The removal of a document that was not there. -/
def vainRemoval? (outcome : Outcome) : Option Change :=
  if outcome.status = 404 then
    match WriteReply.shape.read outcome.body with
    | .ok body => if body.result = .notFound then some body.toChange else none
    | .error _ => none
  else none

/-- The result of an operation that failed, where the failure counts as success. -/
def recovered? (outcome : Outcome) : (operation : Operation) → Option (operation.Result α)
  | .get => if outcome.saysAbsent then some (none : Option (Record α)) else none
  | .delete => outcome.vainRemoval?
  | _ => none

/-! ## Failures -/

/-- The first reason that the engine gives. -/
def rootCause? (body : Json) : Option String :=
  match RootCauses.shape.read body with
  | .ok reasons => reasons.head?
  | .error _ => none

/-- The document that the engine says is missing. -/
def missing? (outcome : Outcome) : Option (String × String) :=
  if outcome.status = 404 then
    match MissingDocument.shape.read outcome.body with
    | .ok missing => if missing.found then none else some (missing.index, missing.id)
    | .error _ => none
  else none

/-- The error that a failure stands for. -/
def failure (outcome : Outcome) : Error :=
  if outcome.status = 401 then .unauthorized
  else match outcome.missing? with
    | some (index, id) => .notFound index id
    | none => match rootCause? outcome.body with
      | some reason => .engine outcome.status reason
      | none => .http outcome.status outcome.body

/-- How a failure is noted. -/
def warning (operation : Operation) (error : Error) : Log.Entry :=
  Log.Source.response.entry .warn error.message
    [("operation", operation.name), ("status", Text.ofNat (error.status.getD 0).toNat)]

/-! ## Settling -/

/-- The result of an operation or its error, and what is noted of it. -/
def settle (outcome : Outcome) (operation : Operation) :
    Except Error (operation.Result α) × List Log.Entry :=
  if outcome.isSuccess then
    ((readResult outcome.body operation).mapError (.unexpectedResponse operation), [])
  else match outcome.recovered? operation with
    | some result => (.ok result, [])
    | none => (.error outcome.failure, [warning operation outcome.failure])

/-- The result of an operation or its error. -/
def resultFor (outcome : Outcome) (operation : Operation) : Except Error (operation.Result α) :=
  (outcome.settle operation).1

theorem resultFor_of_isSuccess {outcome : Outcome} (h : outcome.isSuccess = true)
    (operation : Operation) : outcome.resultFor (α := α) operation
      = (readResult outcome.body operation).mapError (.unexpectedResponse operation) := by
  simp [resultFor, settle, h]

theorem resultFor_of_recovered {outcome : Outcome} {operation : Operation}
    {result : operation.Result α} (h : outcome.isSuccess = false)
    (hr : outcome.recovered? operation = some result) :
    outcome.resultFor operation = .ok result := by
  simp [resultFor, settle, h, hr]

theorem resultFor_of_failure {outcome : Outcome} {operation : Operation}
    (h : outcome.isSuccess = false) (hr : outcome.recovered? (α := α) operation = none) :
    outcome.resultFor (α := α) operation = .error outcome.failure := by
  simp [resultFor, settle, h, hr]

/-- The outcome itself, or an error that holds it. -/
def orRefused (outcome : Outcome) : Except Error Outcome :=
  if outcome.isSuccess then .ok outcome else .error (.http outcome.status outcome.body)

end Outcome

end DocSearch
