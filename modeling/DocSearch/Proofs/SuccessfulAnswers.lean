/-
What an answer with a 2xx status comes to: the result that its body reports (`Reports`), or else an
error that names the operation. A body is an object or an array of its fields in order; of an object
only the members that the operation reads count, so two objects that agree on them come to the same,
be it a result or an error.
-/
import DocSearch.Proofs.BodyFacts
import DocSearch.Proofs.GivenFields
import DocSearch.Response.Settle

namespace DocSearch

open Json (HasFields)

/-- The names of the members that an operation reads from the body of its answer. -/
def Operation.memberNames : Operation → List String
  | create | update | delete => ["_index", "_id", "_version", "result"]
  | get => ["_index", "_id", "_version", "found", "_source"]
  | search => ["hits"]
  | truncate => ["deleted"]
  | createIndex => ["index"]
  | dropIndex => ["acknowledged"]

namespace Outcome

variable {α : Type} [Document α]

/-- A body reports what an operation gives. A document that was stored has a version, and one that
is there has a source; a search is left out. -/
inductive Reports (body : Json) : (operation : Operation) → operation.Result α → Prop
  | created {index id : String} {version : Int64} {result : WriteResult} :
      WriteReply.Tells ⟨index, id, some version, result⟩ body →
      Reports body .create (⟨index, id, version⟩ : Creation)
  | updated {index id : String} {version : Option Int64} {result : WriteResult} :
      WriteReply.Tells ⟨index, id, version, result⟩ body →
      Reports body .update (⟨index, id, result⟩ : Change)
  | deleted {index id : String} {version : Option Int64} {result : WriteResult} :
      WriteReply.Tells ⟨index, id, version, result⟩ body →
      Reports body .delete (⟨index, id, result⟩ : Change)
  | absent {index id : String} {version : Option Int64} {source : Option α} :
      GetReply.Tells ⟨index, id, version, false, source⟩ body →
      Reports body .get (none : Option (Record α))
  | found {index id : String} {version : Option Int64} {document : α} :
      GetReply.Tells ⟨index, id, version, true, some document⟩ body →
      Reports body .get (some (⟨index, id, version, none, document⟩ : Record α))
  | truncated {truncation : Truncation} : truncation.Tells body →
      Reports body .truncate truncation
  | indexCreated {index : String} : body.HasFields ["index"] [some (.string index)] →
      Reports body .createIndex (⟨index⟩ : IndexCreation)
  | indexRemoved {acknowledged : Bool} :
      body.HasFields ["acknowledged"] [some (.bool acknowledged)] →
      Reports body .dropIndex (⟨acknowledged⟩ : IndexRemoval)

/-! ## Results -/

theorem readBody_eq_ok_iff {β : Type} {shape : Json.Shape β} {body : Json} {b : β} :
    readBody shape body = .ok b ↔ shape.read body = .ok b := by
  rw [readBody, Json.mapError_eq_ok_iff]

theorem creationOf_eq_ok_iff {body : Json} {creation : Creation} :
    creationOf body = .ok creation ↔ Reports (α := α) body .create creation := by
  simp only [creationOf, Json.bind_eq_ok_iff, readBody_eq_ok_iff, WriteReply.read_eq_ok_iff]
  constructor
  · rintro ⟨⟨index, id, version, result⟩, htells, h⟩
    cases version with
    | none => cases h
    | some version =>
      cases h
      exact .created htells
  · intro h
    cases h with
    | created htells => exact ⟨_, htells, rfl⟩

theorem recordOf_eq_ok_iff {body : Json} {record? : Option (Record α)} :
    recordOf body = .ok record? ↔ Reports body .get record? := by
  simp only [recordOf, Json.bind_eq_ok_iff, readBody_eq_ok_iff, GetReply.read_eq_ok_iff]
  constructor
  · rintro ⟨⟨index, id, version, found, source⟩, htells, h⟩
    cases found with
    | false =>
      cases h
      exact .absent htells
    | true =>
      cases source with
      | none => cases h
      | some document =>
        cases h
        exact .found htells
  · intro h
    cases h with
    | absent htells => exact ⟨_, htells, rfl⟩
    | found htells => exact ⟨_, htells, rfl⟩

theorem toChange_eq_ok_iff {body : Json} {change : Change} :
    WriteReply.toChange <$> readBody WriteReply.shape body = .ok change ↔
      ∃ version, WriteReply.Tells ⟨change.index, change.id, version, change.result⟩ body := by
  simp only [Json.map_eq_ok_iff, readBody_eq_ok_iff, WriteReply.read_eq_ok_iff]
  constructor
  · rintro ⟨⟨index, id, version, result⟩, htells, rfl⟩
    exact ⟨version, htells⟩
  · rintro ⟨version, htells⟩
    exact ⟨_, htells, rfl⟩

theorem readIndexCreation_eq_ok_iff {body : Json} {creation : IndexCreation} :
    readBody IndexCreation.shape body = .ok creation ↔
      body.HasFields ["index"] [some (.string creation.index)] := by
  obtain ⟨index⟩ := creation
  simp [readBody_eq_ok_iff, IndexCreation.shape, Json.Shape.read_single_eq_ok_iff,
    Json.readString_eq_ok_iff]

theorem readIndexRemoval_eq_ok_iff {body : Json} {removal : IndexRemoval} :
    readBody IndexRemoval.shape body = .ok removal ↔
      body.HasFields ["acknowledged"] [some (.bool removal.acknowledged)] := by
  obtain ⟨acknowledged⟩ := removal
  simp [readBody_eq_ok_iff, IndexRemoval.shape, Json.Shape.read_single_eq_ok_iff,
    Json.readBool_eq_ok_iff]

/-- What is read from a body is what it reports. -/
theorem readResult_eq_ok_iff {body : Json} {operation : Operation} (h : operation ≠ .search)
    {result : operation.Result α} :
    readResult body operation = .ok result ↔ Reports body operation result := by
  cases operation with
  | search => exact absurd rfl h
  | create => exact creationOf_eq_ok_iff
  | get => exact recordOf_eq_ok_iff
  | update =>
    refine toChange_eq_ok_iff.trans ⟨fun ⟨_, htells⟩ => .updated htells, fun h => ?_⟩
    cases h with
    | updated htells => exact ⟨_, htells⟩
  | delete =>
    refine toChange_eq_ok_iff.trans ⟨fun ⟨_, htells⟩ => .deleted htells, fun h => ?_⟩
    cases h with
    | deleted htells => exact ⟨_, htells⟩
  | truncate =>
    refine (readBody_eq_ok_iff.trans Truncation.read_bodyShape_eq_ok_iff).trans
      ⟨.truncated, fun h => ?_⟩
    cases h with
    | truncated htells => exact htells
  | createIndex =>
    refine readIndexCreation_eq_ok_iff.trans ⟨.indexCreated, fun h => ?_⟩
    cases h with
    | indexCreated hfields => exact hfields
  | dropIndex =>
    refine readIndexRemoval_eq_ok_iff.trans ⟨.indexRemoved, fun h => ?_⟩
    cases h with
    | indexRemoved hfields => exact hfields

/-! ## Members that do not count -/

theorem readBody_filter {β : Type} (shape : Json.Shape β) {keep : String → Bool}
    (h : ∀ name ∈ shape.spellings, keep name = true) (members : List (String × Json)) :
    readBody shape (.object (members.filter fun member => keep member.1))
      = readBody shape (.object members) := by
  rw [readBody, readBody, Json.Shape.read, Json.Shape.read, shape.readMembers_filter h]

/-- Only the members that the operation reads count. -/
theorem readResult_filter (operation : Operation) (members : List (String × Json)) :
    readResult (α := α) (.object (members.filter fun member =>
        operation.memberNames.contains member.1)) operation
      = readResult (.object members) operation := by
  have hkeep : ∀ name ∈ operation.memberNames, operation.memberNames.contains name = true := by
    intro name hname
    simpa using hname
  cases operation with
  | create =>
    rw [readResult, readResult, creationOf, creationOf, readBody_filter WriteReply.shape hkeep]
  | get => rw [readResult, readResult, recordOf, recordOf, readBody_filter GetReply.shape hkeep]
  | update => rw [readResult, readResult, readBody_filter WriteReply.shape hkeep]
  | delete => rw [readResult, readResult, readBody_filter WriteReply.shape hkeep]
  | search => exact readBody_filter Hits.shape hkeep members
  | truncate => exact readBody_filter Truncation.bodyShape hkeep members
  | createIndex => exact readBody_filter IndexCreation.shape hkeep members
  | dropIndex => exact readBody_filter IndexRemoval.shape hkeep members

/-! ## Answers -/

/-- **What a success comes to.** Whatever the operation but a search, the 2xx status and the body,
the result is the one that the body reports; where it reports none, the error is one of the
operation, named first in its text, and without a status. Members that the operation does not read
make no difference. -/
theorem resultFor_eq_ok_iff_reports {outcome : Outcome}
    (h : 200 ≤ outcome.status ∧ outcome.status < 300) {operation : Operation}
    (hoperation : operation ≠ .search) :
    (∀ result : operation.Result α,
        outcome.resultFor operation = .ok result ↔ Reports outcome.body operation result) ∧
      (∀ error, outcome.resultFor (α := α) operation = .error error →
        ∃ cause, error = .unexpectedResponse operation cause ∧
          error.message = "Unexpected response: " ++ operation.name ++ " response: "
            ++ cause.message ∧
          error.status = none) ∧
      ∀ {members others : List (String × Json)}, outcome.body = .object members →
        (others.filter fun member => operation.memberNames.contains member.1)
          = (members.filter fun member => operation.memberNames.contains member.1) →
        (Outcome.mk outcome.status (.object others)).resultFor (α := α) operation
          = outcome.resultFor operation := by
  have hsuccess : outcome.isSuccess = true := isSuccess_iff.mpr h
  refine ⟨?result, ?error, ?members⟩
  case result =>
    intro result
    rw [resultFor_of_isSuccess hsuccess, Json.mapError_eq_ok_iff, readResult_eq_ok_iff hoperation]
  case error =>
    intro error herror
    rw [resultFor_of_isSuccess hsuccess] at herror
    obtain ⟨cause, -, rfl⟩ := Json.mapError_eq_error_iff.mp herror
    exact ⟨cause, rfl, rfl, rfl⟩
  case members =>
    intro members others hbody hsame
    have hothers : (Outcome.mk outcome.status (.object others)).isSuccess = true :=
      isSuccess_iff.mpr h
    rw [resultFor_of_isSuccess hothers, resultFor_of_isSuccess hsuccess, hbody,
      ← readResult_filter operation others, hsame, readResult_filter]

/-- A document that was found, with and without a member that is not read, and an array that tells
of a creation without its version. -/
theorem resultFor_eq_ok_iff_reports_films :
    let document : Json := .single "year" (.ofUInt8 90)
    let members : List (String × Json) := [("took", .ofUInt8 3), ("_id", .string "7"),
      ("_index", .string "films"), ("_version", .null), ("found", .bool true),
      ("_source", document)]
    let found : Outcome := ⟨200, .object members⟩
    let unversioned : Outcome :=
      ⟨201, .array [.string "films", .string "7", .null, .string "created"]⟩
    found.resultFor .get = .ok (some (⟨"films", "7", none, none, document⟩ : Record Json)) ∧
      (Outcome.mk 200 (.object (members.drop 1))).resultFor (α := Json) .get
        = found.resultFor .get ∧
      ∃ error, unversioned.resultFor (α := Json) .create = .error error ∧ error.status = none := by
  intro document members found unversioned
  have hget := resultFor_eq_ok_iff_reports (α := Json)
    (show 200 ≤ found.status ∧ found.status < 300 by decide)
    (show Operation.get ≠ .search by decide)
  have htells : GetReply.Tells (⟨"films", "7", none, true, some document⟩ : GetReply Json)
      found.body :=
    ⟨some .null, some document, .of_lookup (by decide +kernel) rfl, .null, .given nofun rfl⟩
  have hcreate := resultFor_eq_ok_iff_reports (α := Json)
    (show 200 ≤ unversioned.status ∧ unversioned.status < 300 by decide)
    (show Operation.create ≠ .search by decide)
  have herror : unversioned.resultFor (α := Json) .create
      = .error (.unexpectedResponse .create .noVersion) := rfl
  obtain ⟨cause, -, -, hstatus⟩ := hcreate.2.1 _ herror
  exact ⟨(hget.1 _).mpr (.found htells), hget.2.2 rfl (by decide +kernel), _, herror, hstatus⟩

end Outcome

end DocSearch
