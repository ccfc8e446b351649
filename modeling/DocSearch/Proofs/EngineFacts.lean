/-
Engines, as far as documents go. An engine keeps documents, each under the texts that the segments
of a path stand for, and tells what it did with them (`Lawful`). What it tells is stated by the
fields of its answers, and each answer is settled as it is meant: a document that is not there to be
read or to be removed is no error, although the engine answers with 404.
-/
import DocSearch.Proofs.FailedAnswers
import DocSearch.Proofs.SegmentFacts
import Mathlib.Data.Finset.Card

namespace DocSearch

open Json (HasFields)
open Json.Shape (Optionally)

/-! ## Stores -/

/-- Values, each under an index and an id. -/
def Store (α : Type) : Type := String → String → Option α

namespace Store

variable {α : Type}

/-- Nothing is kept. -/
def empty : Store α := fun _ _ => none

/-- Keeps a value, in place of the one that was kept there. -/
def put (store : Store α) (index id : String) (a : α) : Store α :=
  fun i d => if i = index ∧ d = id then some a else store i d

/-- Gives up the value under an index and an id. -/
def remove (store : Store α) (index id : String) : Store α :=
  fun i d => if i = index ∧ d = id then none else store i d

/-- Gives up the values under an index. -/
def clear (store : Store α) (index : String) : Store α :=
  fun i d => if i = index then none else store i d

/-- There are so many values under an index. -/
def Counts (store : Store α) (index : String) (count : Nat) : Prop :=
  ∃ ids : Finset String, (∀ id, id ∈ ids ↔ (store index id).isSome) ∧ ids.card = count

theorem Counts.unique {store : Store α} {index : String} {m n : Nat} (hm : store.Counts index m)
    (hn : store.Counts index n) : m = n := by
  obtain ⟨ids, hids, rfl⟩ := hm
  obtain ⟨others, hothers, rfl⟩ := hn
  have hsame : ids = others := Finset.ext fun id => (hids id).trans (hothers id).symm
  rw [hsame]

end Store

/-! ## Answers -/

namespace Outcome

/-- The engine says that it stored a document for the first time. -/
def SaysCreated (outcome : Outcome) (index id : String) : Prop :=
  outcome.status = 201 ∧ outcome.body.HasFields ["_index", "_id", "_version", "result"]
    [some (.string index), some (.string id), some (.ofInt64 1), some (.string "created")]

/-- The engine gives a document. -/
def SaysFound (outcome : Outcome) (index id : String) (source : Json) : Prop :=
  outcome.status = 200 ∧ ∃ version : Int64,
    outcome.body.HasFields ["_index", "_id", "_version", "found", "_source"]
      [some (.string index), some (.string id), some (.ofInt64 version), some (.bool true),
        some source]

/-- The engine says that there is no document to be read. -/
def SaysAbsent (outcome : Outcome) : Prop :=
  outcome.status = 404 ∧ outcome.body.member? "found" = some (.bool false)

/-- The engine says that it removed a document. -/
def SaysDeleted (outcome : Outcome) (index id : String) : Prop :=
  outcome.status = 200 ∧ ∃ version : Int64,
    outcome.body.HasFields ["_index", "_id", "_version", "result"]
      [some (.string index), some (.string id), some (.ofInt64 version), some (.string "deleted")]

/-- The engine says that there was no document to be removed. -/
def SaysNotFound (outcome : Outcome) (index id : String) : Prop :=
  outcome.status = 404 ∧ ∃ version : Int64,
    outcome.body.HasFields ["_index", "_id", "_version", "result"]
      [some (.string index), some (.string id), some (.ofInt64 version), some (.string "not_found")]

/-- The engine says how many documents it removed, as far as a count holds it. -/
def SaysEmptied (outcome : Outcome) (count : Nat) : Prop :=
  outcome.status = 200 ∧ outcome.body.HasFields ["deleted"] [some (.ofUInt64 (.ofNat count))]

variable {α : Type} [Document α] {outcome : Outcome} {index id : String}

theorem isSuccess_of_status (h : outcome.status = 200 ∨ outcome.status = 201) :
    outcome.isSuccess = true := by
  rcases h with h | h <;> rw [isSuccess, h] <;> rfl

theorem isSuccess_of_notFound (h : outcome.status = 404) : outcome.isSuccess = false := by
  rw [isSuccess, h]
  rfl

/-- A body with the fields of a write is read as that write. -/
theorem readBody_write {body : Json} {version : Int64} {result : WriteResult}
    (h : body.HasFields ["_index", "_id", "_version", "result"]
      [some (.string index), some (.string id), some (.ofInt64 version),
        some (.string result.name)]) :
    readBody WriteReply.shape body = .ok ⟨index, id, some version, result⟩ := by
  have htells : WriteReply.Tells ⟨index, id, some version, result⟩ body :=
    ⟨_, _, h, .given (by nofun) rfl, .name⟩
  rw [readBody, WriteReply.read_eq_ok_iff.mpr htells]
  rfl

theorem resultFor_of_saysCreated (h : outcome.SaysCreated index id) :
    outcome.resultFor (α := α) .create = .ok (⟨index, id, 1⟩ : Creation) := by
  obtain ⟨hstatus, hfields⟩ := h
  have hbody : readBody WriteReply.shape outcome.body = .ok ⟨index, id, some 1, .created⟩ :=
    readBody_write hfields
  rw [resultFor_of_isSuccess (isSuccess_of_status (.inr hstatus)), readResult, creationOf, hbody]
  rfl

theorem resultFor_of_saysFound {source : Json} {document : α}
    (h : outcome.SaysFound index id source) (hnull : source ≠ .null)
    (hread : Document.ofJson source = .ok document) :
    ∃ version, outcome.resultFor (α := α) .get
      = .ok (some (⟨index, id, version, none, document⟩ : Record α)) := by
  obtain ⟨hstatus, version, hfields⟩ := h
  have htells : GetReply.Tells ⟨index, id, some version, true, some document⟩ outcome.body :=
    ⟨_, _, hfields, .given (by nofun) rfl, .given hnull hread⟩
  refine ⟨some version, ?_⟩
  rw [resultFor_of_isSuccess (isSuccess_of_status (.inl hstatus)), readResult, recordOf, readBody,
    GetReply.read_eq_ok_iff.mpr htells]
  rfl

theorem resultFor_of_saysAbsent (h : outcome.SaysAbsent) :
    outcome.resultFor (α := α) .get = .ok (none : Option (Record α)) := by
  obtain ⟨hstatus, hfound⟩ := h
  obtain ⟨members, hbody, hlookup⟩ := Json.member?_eq_some_iff.mp hfound
  exact resultFor_of_recovered (isSuccess_of_notFound hstatus)
    (recovered?_eq_some_iff.mpr (.absent hstatus hbody hlookup))

theorem resultFor_of_saysDeleted (h : outcome.SaysDeleted index id) :
    outcome.resultFor (α := α) .delete = .ok (⟨index, id, .deleted⟩ : Change) := by
  obtain ⟨hstatus, version, hfields⟩ := h
  have hbody : readBody WriteReply.shape outcome.body
      = .ok ⟨index, id, some version, .deleted⟩ := readBody_write hfields
  rw [resultFor_of_isSuccess (isSuccess_of_status (.inl hstatus)), readResult, hbody]
  rfl

theorem resultFor_of_saysNotFound (h : outcome.SaysNotFound index id) :
    outcome.resultFor (α := α) .delete = .ok (⟨index, id, .notFound⟩ : Change) := by
  obtain ⟨hstatus, version, hfields⟩ := h
  have htells : WriteReply.Tells ⟨index, id, some version, .notFound⟩ outcome.body :=
    ⟨_, _, hfields, .given (by nofun) rfl, .name⟩
  exact resultFor_of_recovered (isSuccess_of_notFound hstatus)
    (recovered?_eq_some_iff.mpr (.inVain hstatus htells))

theorem resultFor_of_saysEmptied {count : Nat} (h : outcome.SaysEmptied count) :
    outcome.resultFor (α := α) .truncate = .ok (⟨.ofNat count⟩ : Truncation) := by
  obtain ⟨hstatus, hfields⟩ := h
  have htells : Truncation.Tells ⟨.ofNat count⟩ outcome.body := hfields
  have hbody : readBody Truncation.bodyShape outcome.body = .ok ⟨.ofNat count⟩ := by
    rw [readBody, Truncation.read_bodyShape_eq_ok_iff.mpr htells]
    rfl
  rw [resultFor_of_isSuccess (isSuccess_of_status (.inl hstatus))]
  show (readBody Truncation.bodyShape outcome.body).mapError _ = _
  rw [hbody]
  rfl

end Outcome

/-! ## Engines -/

namespace Path

/-- The path leads to something that an index offers for a document: cut at the slashes, it has the
index, the endpoint and the id. -/
def LeadsTo (path index endpoint id : String) : Prop :=
  ∃ i d, Text.pieces '/' path.toList = [[], i, endpoint.toList, d] ∧
    Text.Percent.text? i = some index ∧ Text.Percent.text? d = some id

/-- The path leads to something that an index offers: cut at the slashes, it has the index and the
endpoint. -/
def LeadsInto (path index endpoint : String) : Prop :=
  ∃ i, Text.pieces '/' path.toList = [[], i, endpoint.toList] ∧ Text.Percent.text? i = some index

theorem leadsTo_document (index id : String) {endpoint : String} (h : '/' ∉ endpoint.toList) :
    LeadsTo (Path.document index endpoint id) index endpoint id :=
  ⟨_, _, pieces_document index id h, Text.Percent.text?_segment index,
    Text.Percent.text?_segment id⟩

theorem leadsInto_endpoint (index : String) {endpoint : String} (h : '/' ∉ endpoint.toList) :
    LeadsInto (Path.endpoint index endpoint) index endpoint :=
  ⟨_, pieces_endpoint index h, Text.Percent.text?_segment index⟩

end Path

/-- What answers requests and keeps documents. -/
structure Engine where
  /-- What it is in at a time. -/
  State : Type
  /-- The documents that it keeps, in their JSON form. -/
  stored : State → Store Json
  /-- What it comes to by a request, and its answer. -/
  serve : State → Request → State × Outcome

namespace Engine

/-- An engine that keeps the documents it is given and says what it did with them. -/
structure Lawful (engine : Engine) : Prop where
  /-- A document is stored and counts as a new one. -/
  create {path index id : String} (state : engine.State) (json : Json) :
    Path.LeadsTo path index "_doc" id →
    let (next, outcome) := engine.serve state ⟨.post, path, some json⟩
    outcome.SaysCreated index id ∧ engine.stored next = (engine.stored state).put index id json
  /-- A document is given as it was stored, if it is there. -/
  get {path index id : String} (state : engine.State) : Path.LeadsTo path index "_doc" id →
    let (next, outcome) := engine.serve state ⟨.get, path, none⟩
    (∀ json, engine.stored state index id = some json → outcome.SaysFound index id json) ∧
      (engine.stored state index id = none → outcome.SaysAbsent) ∧
      engine.stored next = engine.stored state
  /-- A document is removed, if it is there. -/
  delete {path index id : String} (state : engine.State) : Path.LeadsTo path index "_doc" id →
    let (next, outcome) := engine.serve state ⟨.delete, path, none⟩
    ((engine.stored state index id).isSome → outcome.SaysDeleted index id) ∧
      (engine.stored state index id = none → outcome.SaysNotFound index id) ∧
      engine.stored next = (engine.stored state).remove index id
  /-- All documents under an index are removed and counted. -/
  truncate {path index : String} (state : engine.State) :
    Path.LeadsInto path index "_delete_by_query" →
    let (next, outcome) :=
      engine.serve state ⟨.post, path, some (.single "query" (.single "match_all" (.object [])))⟩
    (∃ count, (engine.stored state).Counts index count ∧ outcome.SaysEmptied count) ∧
      engine.stored next = (engine.stored state).clear index

end Engine

end DocSearch
