/-
What an answer comes to when its status is not a 2xx: in two cases it counts as
success, and in every other case it is one error, the first of four that
applies.

The cases overlap. A body may tell of a missing document and give a root cause
at once, and each may come as an object or as an array. So what a body tells is
stated by its fields alone (`Tells`), the order of the errors by what must not
be the case (`Blames`), and the result is the one that fits (`Settles`).
-/
import DocSearch.Proofs.BodyFacts
import DocSearch.Response.Settle

namespace DocSearch

open Json (HasFields)

namespace Outcome

variable {α : Type} [Document α]

/-- The engine says that a document is not there. -/
def SaysMissing (outcome : Outcome) (index id : String) : Prop :=
  outcome.status = 404 ∧ MissingDocument.Tells ⟨index, id, false⟩ outcome.body

/-- A failure that counts as success, with the result that it counts as: there is no document to
read, or there was none to remove. -/
inductive CountsAs (outcome : Outcome) : (operation : Operation) → operation.Result α → Prop
  | absent {members : List (String × Json)} : outcome.status = 404 →
      outcome.body = .object members → members.lookup "found" = some (.bool false) →
      CountsAs outcome .get (none : Option (Record α))
  | inVain {index id : String} {version : Option Int64} : outcome.status = 404 →
      WriteReply.Tells ⟨index, id, version, .notFound⟩ outcome.body →
      CountsAs outcome .delete (⟨index, id, .notFound⟩ : Change)

/-- The error that a failure is put down to. -/
inductive Blames (outcome : Outcome) : Error → Prop
  | unauthorized : outcome.status = 401 → Blames outcome .unauthorized
  | notFound {index id : String} : outcome.SaysMissing index id →
      Blames outcome (.notFound index id)
  | engine {reason : String} {reasons : List String} : outcome.status ≠ 401 →
      (∀ index id, ¬ outcome.SaysMissing index id) →
      RootCauses.Tell (reason :: reasons) outcome.body →
      Blames outcome (.engine outcome.status reason)
  | http : outcome.status ≠ 401 → (∀ index id, ¬ outcome.SaysMissing index id) →
      (∀ reason reasons, ¬ RootCauses.Tell (reason :: reasons) outcome.body) →
      Blames outcome (.http outcome.status outcome.body)

/-- What a failure comes to. -/
inductive Settles (outcome : Outcome) (operation : Operation) :
    Except Error (operation.Result α) → Prop
  | counts {result : operation.Result α} : outcome.CountsAs operation result →
      Settles outcome operation (.ok result)
  | blamed {error : Error} : (∀ result : operation.Result α, ¬ outcome.CountsAs operation result) →
      outcome.Blames error → Settles outcome operation (.error error)

/-! ## Failures that count as success -/

theorem saysAbsent_iff {outcome : Outcome} :
    outcome.saysAbsent = true ↔ outcome.status = 404 ∧ ∃ members,
      outcome.body = .object members ∧ members.lookup "found" = some (.bool false) := by
  rw [saysAbsent, Bool.and_eq_true, ← Json.member?_eq_some_iff]
  exact and_congr decide_eq_true_iff decide_eq_true_iff

theorem vainRemoval?_eq_some_iff {outcome : Outcome} {change : Change} :
    outcome.vainRemoval? = some change ↔ outcome.status = 404 ∧ ∃ index id version,
      WriteReply.Tells ⟨index, id, version, .notFound⟩ outcome.body ∧
        change = ⟨index, id, .notFound⟩ := by
  simp only [vainRemoval?, ← WriteReply.read_eq_ok_iff]
  by_cases h404 : outcome.status = 404
  · cases hr : WriteReply.shape.read outcome.body with
    | error cause => simp [h404]
    | ok reply =>
      obtain ⟨index, id, version, result⟩ := reply
      by_cases hres : result = .notFound
      · subst hres
        simp [h404, WriteReply.toChange, @eq_comm _ change]
      · simp [h404, hres]
  · simp [h404]

omit [Document α] in
theorem recovered?_get (outcome : Outcome) : outcome.recovered? (α := α) .get
    = if outcome.saysAbsent then some (none : Option (Record α)) else none := rfl

omit [Document α] in
theorem recovered?_delete (outcome : Outcome) :
    outcome.recovered? (α := α) .delete = outcome.vainRemoval? := rfl

omit [Document α] in
theorem recovered?_eq_some_iff {outcome : Outcome} {operation : Operation}
    {result : operation.Result α} :
    outcome.recovered? operation = some result ↔ outcome.CountsAs operation result := by
  constructor
  · intro h
    cases operation with
    | get =>
      rw [recovered?_get] at h
      by_cases hs : outcome.saysAbsent = true
      · obtain ⟨h404, members, hb, hf⟩ := saysAbsent_iff.mp hs
        have hresult : (none : Option (Record α)) = result := by
          rw [if_pos hs] at h
          exact Option.some.inj h
        subst hresult
        exact .absent h404 hb hf
      · rw [if_neg hs] at h
        cases h
    | delete =>
      rw [recovered?_delete] at h
      obtain ⟨h404, index, id, version, ht, rfl⟩ := vainRemoval?_eq_some_iff.mp h
      exact .inVain h404 ht
    | _ => cases h
  · intro h
    cases h with
    | absent h404 hb hf =>
      rw [recovered?_get, if_pos (saysAbsent_iff.mpr ⟨h404, _, hb, hf⟩)]
      rfl
    | inVain h404 ht =>
      rw [recovered?_delete]
      exact vainRemoval?_eq_some_iff.mpr ⟨h404, _, _, _, ht, rfl⟩

/-! ## Errors -/

theorem missing?_eq_some_iff {outcome : Outcome} {index id : String} :
    outcome.missing? = some (index, id) ↔ outcome.SaysMissing index id := by
  simp only [missing?, SaysMissing, ← MissingDocument.read_eq_ok_iff]
  by_cases h404 : outcome.status = 404
  · cases hr : MissingDocument.shape.read outcome.body with
    | error cause => simp [h404]
    | ok reply =>
      obtain ⟨i, d, found⟩ := reply
      cases found <;> simp [h404]
  · simp [h404]

theorem rootCause?_eq_some_iff {body : Json} {reason : String} :
    rootCause? body = some reason ↔ ∃ reasons, RootCauses.Tell (reason :: reasons) body := by
  simp only [rootCause?, ← RootCauses.read_eq_ok_iff]
  cases hr : RootCauses.shape.read body with
  | error cause => simp
  | ok reasons => cases reasons <;> simp

theorem missing?_eq_none {outcome : Outcome} (h : ∀ index id, ¬ outcome.SaysMissing index id) :
    outcome.missing? = none := by
  cases hm : outcome.missing? with
  | none => rfl
  | some pair => exact absurd (missing?_eq_some_iff.mp hm) (h pair.1 pair.2)

theorem rootCause?_eq_none {body : Json}
    (h : ∀ reason reasons, ¬ RootCauses.Tell (reason :: reasons) body) : rootCause? body = none := by
  cases hr : rootCause? body with
  | none => rfl
  | some reason =>
    obtain ⟨reasons, ht⟩ := rootCause?_eq_some_iff.mp hr
    exact absurd ht (h reason reasons)

/-- What a failure is put down to is what is reported. -/
theorem Blames.failure_eq {outcome : Outcome} {error : Error} (h : outcome.Blames error) :
    outcome.failure = error := by
  cases h with
  | unauthorized h401 => rw [failure, if_pos h401]
  | notFound hm =>
    have hne : outcome.status ≠ 401 := by
      rw [hm.1]
      decide
    rw [failure, if_neg hne, missing?_eq_some_iff.mpr hm]
  | engine hne hno ht =>
    rw [failure, if_neg hne, missing?_eq_none hno, rootCause?_eq_some_iff.mpr ⟨_, ht⟩]
  | http hne hno hnone =>
    rw [failure, if_neg hne, missing?_eq_none hno, rootCause?_eq_none hnone]

/-- A failure is put down to something. -/
theorem exists_blames (outcome : Outcome) : ∃ error, outcome.Blames error := by
  by_cases h401 : outcome.status = 401
  · exact ⟨_, .unauthorized h401⟩
  by_cases hm : ∃ index id, outcome.SaysMissing index id
  · obtain ⟨index, id, hm⟩ := hm
    exact ⟨_, .notFound hm⟩
  have hno : ∀ index id, ¬ outcome.SaysMissing index id := by
    intro index id h
    exact hm ⟨index, id, h⟩
  by_cases ht : ∃ reason reasons, RootCauses.Tell (reason :: reasons) outcome.body
  · obtain ⟨reason, reasons, ht⟩ := ht
    exact ⟨_, .engine h401 hno ht⟩
  · exact ⟨_, .http h401 hno fun reason reasons h => ht ⟨reason, reasons, h⟩⟩

/-- A failure is put down to one error, the one that is reported. -/
theorem failure_eq_iff {outcome : Outcome} {error : Error} :
    outcome.failure = error ↔ outcome.Blames error := by
  constructor
  · rintro rfl
    obtain ⟨error, h⟩ := outcome.exists_blames
    rw [h.failure_eq]
    exact h
  · exact Blames.failure_eq

/-- Every error that a failure is put down to carries its status. -/
theorem Blames.status_eq {outcome : Outcome} {error : Error} (h : outcome.Blames error) :
    error.status = some outcome.status := by
  cases h with
  | unauthorized h => simp [Error.status, h]
  | notFound h => simp [Error.status, h.1]
  | engine => rfl
  | http => rfl

/-! ## Settling -/

/-- **What a failure comes to.** Whatever the operation, the status outside 200..299 and the body,
the result is the one that fits, and an error carries the status of the answer. -/
theorem resultFor_eq_iff_settles {outcome : Outcome}
    (h : outcome.status < 200 ∨ 300 ≤ outcome.status) (operation : Operation)
    (result : Except Error (operation.Result α)) :
    (outcome.resultFor operation = result ↔ outcome.Settles operation result) ∧
      ∀ error, outcome.resultFor (α := α) operation = .error error →
        error.status = some outcome.status := by
  have hfail : outcome.isSuccess = false := isSuccess_eq_false_iff.mpr h
  cases hrec : outcome.recovered? (α := α) operation with
  | some recovered =>
    have hcounts := recovered?_eq_some_iff.mp hrec
    rw [resultFor_of_recovered hfail hrec]
    refine ⟨⟨?_, ?_⟩, by nofun⟩
    · rintro rfl
      exact .counts hcounts
    · rintro (hc | ⟨hno, -⟩)
      · rw [recovered?_eq_some_iff.mpr hc] at hrec
        cases hrec
        rfl
      · exact absurd hcounts (hno _)
  | none =>
    have hno : ∀ result : operation.Result α, ¬ outcome.CountsAs operation result := by
      intro result hc
      rw [recovered?_eq_some_iff.mpr hc] at hrec
      cases hrec
    rw [resultFor_of_failure hfail hrec]
    refine ⟨⟨?_, ?_⟩, ?_⟩
    · rintro rfl
      exact .blamed hno (failure_eq_iff.mp rfl)
    · rintro (hc | ⟨-, hb⟩)
      · exact absurd hc (hno _)
      · rw [failure_eq_iff.mpr hb]
    · rintro error ⟨⟩
      exact (failure_eq_iff.mp rfl).status_eq

/-- An update of a document that is not there, which the answer blames on a root cause as well. -/
theorem resultFor_update_missing :
    (404 < 200 ∨ 300 ≤ (404 : UInt16)) ∧
      (Outcome.mk 404 (.object
          [("error", .single "root_cause" (.array [.single "reason" (.string "no such shard")])),
            ("found", .bool false), ("_index", .string "movies"), ("_id", .string "7")])).resultFor
        (α := Json) .update = .error (.notFound "movies" "7") := by
  refine ⟨by decide, (resultFor_eq_iff_settles (by decide) _ _).1.mpr (.blamed (by nofun) ?_)⟩
  exact .notFound ⟨rfl, .of_lookup (by decide) rfl⟩

end Outcome

end DocSearch
