/-
What a failure is put down to, where one sign of it is read in two ways.

That a document is missing is read twice: of a read by the member `found` alone, of every failure by
a record of three fields. A record may also come as an array, which has no members, so there is one
answer that tells of a missing document and yet fails the read of it.

The reason that is reported is the first one, but it is read together with those behind it. It is
therefore lost when a later root cause gives none.
-/
import DocSearch.Proofs.FailedAnswers
import DocSearch.Proofs.GivenFields

namespace DocSearch

open Json (HasFields)
open Json.Shape (read_single_of_hasFields)

variable {α : Type} [Document α]

/-! ## Missing documents -/

namespace Outcome

theorem failure_eq_notFound_iff {outcome : Outcome} {index id : String} :
    outcome.failure = .notFound index id ↔ outcome.SaysMissing index id := by
  rw [failure_eq_iff]
  constructor
  · intro h
    cases h with
    | notFound hmissing => exact hmissing
  · exact .notFound

/-- Of a missing document an answer tells by members or by an array of their values. -/
theorem SaysMissing.saysAbsent_or {outcome : Outcome} {index id : String}
    (h : outcome.SaysMissing index id) :
    (outcome.saysAbsent = true ∧ ∃ members, outcome.body = .object members) ∨
      (outcome.saysAbsent = false ∧
        outcome.body = .array [.string index, .string id, .bool false]) := by
  obtain ⟨status, body⟩ := outcome
  obtain ⟨h404, htells⟩ := h
  cases body with
  | object members =>
    obtain ⟨-, hvalues⟩ := Json.hasFields_object_iff.mp htells
    simp only [List.map_cons, List.map_nil, List.cons.injEq, and_true] at hvalues
    have hfound : members.lookup "found" = some (.bool false) := hvalues.2.2.symm
    exact .inl ⟨saysAbsent_iff.mpr ⟨h404, members, rfl, hfound⟩, members, rfl⟩
  | array items =>
    obtain ⟨-, hvalues⟩ := Json.hasFields_array_iff.mp htells
    obtain rfl : items = [.string index, .string id, .bool false] :=
      List.map_injective_iff.mpr (fun _ _ => Option.some.inj) hvalues.symm
    exact .inr ⟨by simp [saysAbsent, Json.member?], rfl⟩
  | _ => cases htells

theorem isSuccess_of_status_eq {outcome : Outcome} (h : outcome.status = 404) :
    outcome.isSuccess = false := by
  rw [isSuccess_eq_false_iff, h]
  decide

theorem resultFor_get_of_saysAbsent {outcome : Outcome} (h : outcome.saysAbsent = true) :
    outcome.resultFor .get = .ok (none : Option (Record α)) :=
  resultFor_of_recovered (isSuccess_of_status_eq (saysAbsent_iff.mp h).1)
    (by rw [recovered?_get, if_pos h]; rfl)

theorem resultFor_get_of_not_saysAbsent {outcome : Outcome} (hfail : outcome.isSuccess = false)
    (h : outcome.saysAbsent = false) :
    outcome.resultFor (α := α) .get = .error outcome.failure :=
  resultFor_of_failure hfail (by rw [recovered?_get, h]; rfl)

/-- A read fails for want of the document when the failure is put down to that and does not count as
success. -/
theorem resultFor_get_eq_notFound_iff_saysMissing {outcome : Outcome} {index id : String} :
    outcome.resultFor (α := α) .get = .error (.notFound index id) ↔
      outcome.SaysMissing index id ∧ outcome.saysAbsent = false := by
  constructor
  · intro h
    cases hsuccess : outcome.isSuccess with
    | true =>
      rw [resultFor_of_isSuccess hsuccess] at h
      obtain ⟨cause, -, hcause⟩ := Json.mapError_eq_error_iff.mp h
      cases hcause
    | false =>
      cases habsent : outcome.saysAbsent with
      | true =>
        rw [resultFor_get_of_saysAbsent habsent] at h
        cases h
      | false =>
        rw [resultFor_get_of_not_saysAbsent hsuccess habsent] at h
        exact ⟨failure_eq_notFound_iff.mp (Except.error.inj h), rfl⟩
  · rintro ⟨hmissing, habsent⟩
    rw [resultFor_get_of_not_saysAbsent (isSuccess_of_status_eq hmissing.1) habsent,
      failure_eq_notFound_iff.mpr hmissing]

/-- **When a read fails for want of the document.** It fails so just when the answer gives the index,
the identifier and the absence in an array. Of the failures put down to a missing document the others
come as objects, and each of those is a read that found no document. -/
theorem resultFor_get_eq_notFound_iff (outcome : Outcome) (index id : String) :
    (outcome.resultFor (α := α) .get = .error (.notFound index id) ↔
        outcome.status = 404 ∧ outcome.body = .array [.string index, .string id, .bool false]) ∧
      (outcome.failure = .notFound index id →
        (outcome.resultFor .get = .ok (none : Option (Record α)) ↔
          ∃ members, outcome.body = .object members)) := by
  rw [resultFor_get_eq_notFound_iff_saysMissing, failure_eq_notFound_iff]
  refine ⟨⟨?toArray, ?ofArray⟩, ?objects⟩
  case toArray =>
    rintro ⟨hmissing, habsent⟩
    obtain ⟨hyes, -⟩ | ⟨-, hbody⟩ := hmissing.saysAbsent_or
    · exact absurd hyes (by simp [habsent])
    · exact ⟨hmissing.1, hbody⟩
  case ofArray =>
    rintro ⟨h404, hbody⟩
    exact ⟨⟨h404, hbody ▸ .items rfl⟩, by simp [saysAbsent, hbody, Json.member?]⟩
  case objects =>
    intro hmissing
    obtain ⟨habsent, hbody⟩ | ⟨habsent, hbody⟩ := hmissing.saysAbsent_or
    · exact iff_of_true (resultFor_get_of_saysAbsent habsent) hbody
    · have hfails : outcome.resultFor (α := α) .get = .error (.notFound index id) :=
        resultFor_get_eq_notFound_iff_saysMissing.mpr ⟨hmissing, habsent⟩
      exact iff_of_false (by simp [hfails]) (by simp [hbody])

/-- A film that an object says is missing, among other members. -/
theorem resultFor_get_missing_film :
    let answer : Outcome := ⟨404, .object [("took", .ofUInt8 1), ("found", .bool false),
      ("_id", .string "7"), ("_index", .string "films"), ("_version", .null)]⟩
    answer.failure = .notFound "films" "7" ∧
      answer.resultFor .get = .ok (none : Option (Record Json)) := by
  intro answer
  have hmissing : answer.failure = .notFound "films" "7" :=
    failure_eq_notFound_iff.mpr ⟨rfl, .of_lookup (by decide +kernel) rfl⟩
  exact ⟨hmissing,
    ((resultFor_get_eq_notFound_iff answer "films" "7").2 hmissing).mpr ⟨_, rfl⟩⟩

/-- A film that an array says is missing. -/
theorem resultFor_get_missing_array :
    let answer : Outcome := ⟨404, .array [.string "films", .string "7", .bool false]⟩
    answer.failure = .notFound "films" "7" ∧
      answer.resultFor (α := Json) .get = .error (.notFound "films" "7") := by
  intro answer
  have hmissing : answer.SaysMissing "films" "7" := ⟨rfl, .items rfl⟩
  exact ⟨failure_eq_notFound_iff.mpr hmissing,
    resultFor_get_eq_notFound_iff_saysMissing.mpr ⟨hmissing, rfl⟩⟩

end Outcome

/-! ## Root causes -/

namespace RootCauses

/-- A body with a list of root causes, the first of which gives this reason. -/
def Begin (reason : String) (later : List Json) (body : Json) : Prop :=
  ∃ detail cause, body.HasFields ["error"] [some detail] ∧
    detail.HasFields ["root_cause"] [some (.array (cause :: later))] ∧
    cause.HasFields ["reason"] [some (.string reason)]

/-- A root cause that gives a reason. -/
def HasReason (cause : Json) : Prop := ∃ reason, cause.HasFields ["reason"] [some (.string reason)]

/-- The first reason is read if those of the later root causes are. -/
theorem Begin.read_eq {reason : String} {later : List Json} {body : Json}
    (h : Begin reason later body) :
    shape.read body = (reason :: ·) <$> later.mapM causeShape.read := by
  obtain ⟨detail, cause, hbody, hdetail, hcause⟩ := h
  have hfirst : causeShape.read cause = .ok reason := read_causeShape_eq_ok_iff.mpr hcause
  rw [shape, read_single_of_hasFields hbody, listShape, read_single_of_hasFields hdetail, id_map,
    id_map, Json.readList, List.mapM_cons, hfirst]
  rfl

/-- Root causes are read when each of them gives a reason. -/
theorem exists_reasons_iff {causes : List Json} :
    (∃ reasons, causes.mapM causeShape.read = .ok reasons) ↔ ∀ cause ∈ causes, HasReason cause := by
  simp only [Json.exists_mapM_eq_ok_iff, read_causeShape_eq_ok_iff, HasReason]

end RootCauses

namespace Outcome

theorem rootCause?_of_begin {reason : String} {later : List Json} {body : Json}
    (h : RootCauses.Begin reason later body)
    (hlater : ∀ cause ∈ later, RootCauses.HasReason cause) : rootCause? body = some reason := by
  obtain ⟨reasons, hreasons⟩ := RootCauses.exists_reasons_iff.mpr hlater
  rw [rootCause?, h.read_eq, hreasons]
  rfl

theorem rootCause?_eq_none_of_begin {reason : String} {later : List Json} {body : Json}
    (h : RootCauses.Begin reason later body)
    (hlater : ¬ ∀ cause ∈ later, RootCauses.HasReason cause) : rootCause? body = none := by
  rw [rootCause?, h.read_eq]
  cases hreasons : later.mapM RootCauses.causeShape.read with
  | ok reasons => exact absurd (RootCauses.exists_reasons_iff.mp ⟨reasons, hreasons⟩) hlater
  | error cause => rfl

/-- A failure that is not otherwise accounted for is put down to the first reason, if one is read. -/
theorem resultFor_of_unaccounted {outcome : Outcome} {operation : Operation}
    (hfail : outcome.status < 200 ∨ 300 ≤ outcome.status) (hauth : outcome.status ≠ 401)
    (hmissing : ∀ index id, ¬ outcome.SaysMissing index id)
    (hcounts : ∀ result : operation.Result α, ¬ outcome.CountsAs operation result) :
    outcome.resultFor (α := α) operation = .error
      ((rootCause? outcome.body).elim (.http outcome.status outcome.body)
        (.engine outcome.status)) := by
  have hrecovered : outcome.recovered? (α := α) operation = none := by
    cases hr : outcome.recovered? (α := α) operation with
    | none => rfl
    | some result => exact absurd (recovered?_eq_some_iff.mp hr) (hcounts result)
  rw [resultFor_of_failure (isSuccess_eq_false_iff.mpr hfail) hrecovered, failure, if_neg hauth,
    missing?_eq_none hmissing]
  cases rootCause? outcome.body with
  | none => rfl
  | some reason => rfl

/-- **When the first reason is the one that is reported.** Where a list of root causes begins with
one that gives a reason, that reason is read just when each of the later ones gives a reason too, and
nothing is read when one of them does not. A failure that is not otherwise accounted for is then put
down to the first reason, or else to nothing known. -/
theorem resultFor_of_begin {outcome : Outcome} {reason : String} {later : List Json}
    (h : RootCauses.Begin reason later outcome.body) :
    (rootCause? outcome.body = some reason ↔ ∀ cause ∈ later, RootCauses.HasReason cause) ∧
      (rootCause? outcome.body = none ↔ ∃ cause ∈ later, ¬ RootCauses.HasReason cause) ∧
      (outcome.status < 200 ∨ 300 ≤ outcome.status → outcome.status ≠ 401 →
        (∀ index id, ¬ outcome.SaysMissing index id) → ∀ operation : Operation,
        (∀ result : operation.Result α, ¬ outcome.CountsAs operation result) →
        (outcome.resultFor (α := α) operation = .error (.engine outcome.status reason) ↔
            ∀ cause ∈ later, RootCauses.HasReason cause) ∧
          (outcome.resultFor (α := α) operation = .error (.http outcome.status outcome.body) ↔
            ∃ cause ∈ later, ¬ RootCauses.HasReason cause)) := by
  have hnot : (∃ cause ∈ later, ¬ RootCauses.HasReason cause) ↔
      ¬ ∀ cause ∈ later, RootCauses.HasReason cause := by
    simp
  rw [hnot]
  by_cases hlater : ∀ cause ∈ later, RootCauses.HasReason cause
  · have hroot := rootCause?_of_begin h hlater
    refine ⟨iff_of_true hroot hlater, iff_of_false (by simp [hroot]) (not_not_intro hlater), ?_⟩
    intro hfail hauth hmissing operation hcounts
    have hresult := resultFor_of_unaccounted (α := α) hfail hauth hmissing hcounts
    rw [hroot] at hresult
    exact ⟨iff_of_true hresult hlater, iff_of_false (by simp [hresult]) (not_not_intro hlater)⟩
  · have hroot := rootCause?_eq_none_of_begin h hlater
    refine ⟨iff_of_false (by simp [hroot]) hlater, iff_of_true hroot hlater, ?_⟩
    intro hfail hauth hmissing operation hcounts
    have hresult := resultFor_of_unaccounted (α := α) hfail hauth hmissing hcounts
    rw [hroot] at hresult
    exact ⟨iff_of_false (by simp [hresult]) hlater, iff_of_true hresult hlater⟩

/-- An update that two shards refuse, each for a reason. -/
theorem resultFor_update_two_causes :
    let answer : Outcome := ⟨400, .object [("status", .ofUInt64 400), ("error", .object
      [("type", .string "t"), ("root_cause", .array [.object
        [("type", .string "t"), ("reason", .string "no such shard")],
          .single "reason" (.string "too late")])])]⟩
    rootCause? answer.body = some "no such shard" ∧
      answer.resultFor (α := Json) .update = .error (.engine 400 "no such shard") := by
  intro answer
  have hbegin : RootCauses.Begin "no such shard" [.single "reason" (.string "too late")]
      answer.body :=
    ⟨_, _, .of_lookup (by decide +kernel) rfl, .of_lookup (by decide +kernel) rfl,
      .of_lookup (by decide +kernel) rfl⟩
  have hlater : ∀ cause ∈ [Json.single "reason" (.string "too late")],
      RootCauses.HasReason cause := by
    intro cause hcause
    obtain rfl := List.mem_singleton.mp hcause
    exact ⟨"too late", .of_lookup (by decide +kernel) rfl⟩
  have hmissing : ∀ index id, ¬ answer.SaysMissing index id := by
    rintro index id ⟨h404, -⟩
    cases h404
  obtain ⟨hsome, -, hresult⟩ := resultFor_of_begin (α := Json) hbegin
  exact ⟨hsome.mpr hlater,
    (hresult (by decide) (by decide) hmissing .update (by rintro _ ⟨⟩)).1.mpr hlater⟩

/-- An update that two shards refuse, the first for a reason and the second for none. -/
theorem resultFor_update_silent_cause :
    let answer : Outcome := ⟨500, .single "error" (.single "root_cause"
      (.array [.single "reason" (.string "first"), .object []]))⟩
    RootCauses.Begin "first" [.object []] answer.body ∧ rootCause? answer.body = none ∧
      answer.resultFor (α := Json) .update = .error (.http 500 answer.body) := by
  intro answer
  have hbegin : RootCauses.Begin "first" [.object []] answer.body :=
    ⟨_, _, .of_lookup (by decide +kernel) rfl, .of_lookup (by decide +kernel) rfl,
      .of_lookup (by decide +kernel) rfl⟩
  have hroot : rootCause? answer.body = none :=
    rootCause?_eq_none_of_begin hbegin fun hall => by
      obtain ⟨reason, hreason⟩ := hall (.object []) (by simp)
      simpa using (Json.hasFields_object_iff.mp hreason).2
  have hmissing : ∀ index id, ¬ answer.SaysMissing index id := by
    rintro index id ⟨h404, -⟩
    cases h404
  have hcounts : ∀ result : Operation.update.Result Json, ¬ answer.CountsAs .update result := by
    rintro result ⟨⟩
  have hresult := resultFor_of_unaccounted (by decide) (by decide) hmissing hcounts
  rw [hroot] at hresult
  exact ⟨hbegin, hroot, hresult⟩

end Outcome

end DocSearch
