/-
What a search comes to when its status is a 2xx. Its body lists hits, and each hit is read on its
own: so there is one record for each hit, in the same order, or else no record at all.

The reading of the body is the reading of the list (`Hits.read_shape_of_hasFields`), failures
included, because a record of one field is refused for the reason that its field is refused for.
What is known of lists then holds of searches: the first hit that cannot be read is the one that is
reported, and the records of two lists of hits one after the other are those of the one and then
those of the other.
-/
import DocSearch.Proofs.BodyFacts
import DocSearch.Proofs.GivenFields
import DocSearch.Response.Settle

namespace DocSearch

open Json (HasFields valueAt valueAt_cons)
open Json.Shape (Lawful Plain Optionally build_required_eq_ok_iff build_optional_eq_ok_iff
  build_of read_single_of_hasFields)

variable {α : Type} [Document α]

namespace Hits

/-! ## One hit -/

/-- A hit that tells of a record. -/
def Tells (record : Record α) (hit : Json) : Prop :=
  ∃ version score source,
    hit.HasFields ["_index", "_id", "_version", "_score", "_source"]
      [some (.string record.index), some (.string record.id), version, score, some source] ∧
    Optionally (· = .ofInt64 ·) version record.version ∧
    Optionally Json.RoundsTo score record.score ∧ Document.ofJson source = .ok record.data

theorem lawful_hitShape : (hitShape : Json.Shape (Record α)).Lawful :=
  (((((Lawful.of _ _).required (by simp)).required (by simp)).optional (by simp)).optional
    (by simp)).required (by simp)

theorem plain_hitShape : (hitShape : Json.Shape (Record α)).Plain := by
  simp [Plain, hitShape, Json.Shape.required, Json.Shape.optional, Json.Shape.add, Json.Shape.of]

theorem build_hitShape_eq_ok_iff {index id version score source : Option Json}
    {record : Record α} :
    hitShape.build (valueAt ["_index", "_id", "_version", "_score", "_source"]
        [index, id, version, score, source]) = .ok record ↔
      index = some (.string record.index) ∧ id = some (.string record.id) ∧
        Optionally (· = .ofInt64 ·) version record.version ∧
        Optionally Json.RoundsTo score record.score ∧
        ∃ content, source = some content ∧ Document.ofJson content = .ok record.data := by
  simp only [hitShape, build_required_eq_ok_iff, build_optional_eq_ok_iff, build_of, valueAt_cons,
    Json.readString_eq_ok_iff, Json.readInt64_eq_ok_iff, Json.readDouble_eq_ok_iff,
    String.reduceEq, ite_true, ite_false]
  constructor
  · rintro ⟨_, ⟨_, ⟨_, ⟨_, ⟨_, ⟨⟩, _, _, hi, rfl, rfl⟩, _, _, hd, rfl, rfl⟩, _, hv, rfl⟩, _, hs,
      rfl⟩, content, _, hc, hdata, rfl⟩
    exact ⟨hi, hd, hv, hs, content, hc, hdata⟩
  · rintro ⟨hi, hd, hv, hs, content, hc, hdata⟩
    exact ⟨_, ⟨_, ⟨_, ⟨_, ⟨_, rfl, _, _, hi, rfl, rfl⟩, _, _, hd, rfl, rfl⟩, _, hv, rfl⟩, _, hs,
      rfl⟩, content, _, hc, hdata, rfl⟩

theorem read_hitShape_eq_ok_iff {hit : Json} {record : Record α} :
    hitShape.read hit = .ok record ↔ Tells record hit := by
  rw [Json.Shape.read_eq_ok_iff lawful_hitShape plain_hitShape,
    show (hitShape : Json.Shape (Record α)).names
      = ["_index", "_id", "_version", "_score", "_source"] from rfl]
  constructor
  · rintro ⟨values, hf, hb⟩
    match values, hf.length_eq with
    | [index, id, version, score, source], _ =>
      obtain ⟨rfl, rfl, hv, hs, content, rfl, hdata⟩ := build_hitShape_eq_ok_iff.mp hb
      exact ⟨version, score, content, hf, hv, hs, hdata⟩
  · rintro ⟨version, score, content, hf, hv, hs, hdata⟩
    exact ⟨_, hf, build_hitShape_eq_ok_iff.mpr ⟨rfl, rfl, hv, hs, content, rfl, hdata⟩⟩

/-! ## The list of hits -/

/-- The body around a list of hits comes to what the list comes to. -/
theorem read_shape_of_hasFields {body list : Json} {hits : List Json}
    (hbody : body.HasFields ["hits"] [some list])
    (hlist : list.HasFields ["hits"] [some (.array hits)]) :
    (shape : Json.Shape (List (Record α))).read body = hits.mapM hitShape.read := by
  rw [shape, read_single_of_hasFields hbody, listShape, read_single_of_hasFields hlist, id_map,
    id_map, Json.readList]

end Hits

namespace Outcome

/-- A search succeeded, and its answer lists these hits. -/
structure ListsHits (outcome : Outcome) (hits : List Json) : Prop where
  succeeds : 200 ≤ outcome.status ∧ outcome.status < 300
  listed : ∃ list, outcome.body.HasFields ["hits"] [some list] ∧
    list.HasFields ["hits"] [some (.array hits)]

/-- The hits are read one after the other, up to the first that cannot be read. -/
theorem ListsHits.resultFor_eq {outcome : Outcome} {hits : List Json} (h : outcome.ListsHits hits) :
    outcome.resultFor (α := α) .search = (hits.mapM Hits.hitShape.read).mapError fun cause =>
      .unexpectedResponse .search (.unreadable cause) := by
  obtain ⟨list, hbody, hlist⟩ := h.listed
  have hread : readBody (Hits.shape : Json.Shape (List (Record α))) outcome.body
      = (hits.mapM Hits.hitShape.read).mapError .unreadable := by
    rw [readBody, Hits.read_shape_of_hasFields hbody hlist]
  have hsettled : outcome.resultFor (α := α) .search
      = (readBody (Hits.shape : Json.Shape (List (Record α))) outcome.body).mapError
          (.unexpectedResponse .search) :=
    resultFor_of_isSuccess (isSuccess_iff.mpr h.succeeds) .search
  rw [hsettled, hread]
  cases hits.mapM (Hits.hitShape : Json.Shape (Record α)).read <;> rfl

theorem ListsHits.resultFor_eq_ok_iff {outcome : Outcome} {hits : List Json}
    (h : outcome.ListsHits hits) {records : List (Record α)} :
    outcome.resultFor .search = .ok records ↔ hits.mapM Hits.hitShape.read = .ok records := by
  rw [h.resultFor_eq]
  exact Json.mapError_eq_ok_iff

/-- **What a search that succeeded comes to.** There is a list of records just when every hit tells
of a record, and then it has one record for each hit, in the order of the hits, and the one that the
hit tells of. Of the hits that tell of none the first is reported, and no record is given. The
records of one list of hits behind another are those of the one behind those of the other. -/
theorem ListsHits.resultFor_search {outcome : Outcome} {hits : List Json}
    (h : outcome.ListsHits hits) :
    ((∃ records : List (Record α), outcome.resultFor .search = .ok records) ↔
        ∀ hit ∈ hits, ∃ record : Record α, Hits.Tells record hit) ∧
      (∀ records : List (Record α), outcome.resultFor .search = .ok records ↔
        List.Forall₂ (fun hit record => Hits.Tells record hit) hits records) ∧
      (∀ hit ∈ hits, (∀ record : Record α, ¬ Hits.Tells record hit) →
        ∃ before broken after cause, hits = before ++ broken :: after ∧
          (∀ other ∈ before, ∃ record : Record α, Hits.Tells record other) ∧
          (Hits.hitShape : Json.Shape (Record α)).read broken = .error cause ∧
          outcome.resultFor (α := α) .search
            = .error (.unexpectedResponse .search (.unreadable cause))) ∧
      ∀ {first second : Outcome} {xs ys : List Json}, first.ListsHits xs → second.ListsHits ys →
        hits = xs ++ ys → ∀ records : List (Record α),
          outcome.resultFor .search = .ok records ↔ ∃ former latter : List (Record α),
            first.resultFor .search = .ok former ∧ second.resultFor .search = .ok latter ∧
              records = former ++ latter := by
  simp only [← Hits.read_hitShape_eq_ok_iff]
  refine ⟨?some, ?each, ?first, ?append⟩
  case some =>
    rw [← Json.exists_mapM_eq_ok_iff]
    exact exists_congr fun records => h.resultFor_eq_ok_iff
  case each =>
    intro records
    rw [h.resultFor_eq_ok_iff, Json.mapM_eq_ok_iff]
  case first =>
    intro hit hmem hbroken
    cases hread : hits.mapM (Hits.hitShape : Json.Shape (Record α)).read with
    | ok records =>
      obtain ⟨record, hrecord⟩ := Json.exists_mapM_eq_ok_iff.mp ⟨records, hread⟩ hit hmem
      exact absurd hrecord (hbroken record)
    | error cause =>
      obtain ⟨before, broken, after, hsplit, hbefore, hcause⟩ := Json.mapM_eq_error_iff.mp hread
      refine ⟨before, broken, after, cause, hsplit, hbefore, hcause, ?_⟩
      rw [h.resultFor_eq, hread]
      rfl
  case append =>
    rintro first second xs ys hfirst hsecond rfl records
    rw [h.resultFor_eq_ok_iff, List.mapM_append, Json.bind_eq_ok_iff]
    refine exists_congr fun former => ?_
    rw [Json.bind_eq_ok_iff, hfirst.resultFor_eq_ok_iff]
    constructor
    · rintro ⟨hformer, latter, hlatter, hrecords⟩
      cases hrecords
      exact ⟨latter, hformer, hsecond.resultFor_eq_ok_iff.mpr hlatter, rfl⟩
    · rintro ⟨latter, hformer, hlatter, rfl⟩
      exact ⟨hformer, latter, hsecond.resultFor_eq_ok_iff.mp hlatter, rfl⟩

/-- A hit with a score and no version and one that is an array, read as two lists and as one, and
between them a hit without its document. -/
theorem ListsHits.resultFor_search_films :
    let document : Json := .single "year" (.ofUInt8 90)
    let named : Json := .object [("_id", .string "7"), ("_index", .string "films"),
      ("_score", .ofUInt8 2), ("sort", .array []), ("_source", document)]
    let placed : Json := .array [.string "films", .string "8", .ofInt64 3, .null, .null]
    let broken : Json := .object [("_index", .string "films"), ("_id", .string "9")]
    let answer (hits : List Json) : Outcome :=
      ⟨200, .object [("took", .ofUInt8 3), ("hits", .single "hits" (.array hits))]⟩
    let first : Record Json := ⟨"films", "7", none, some (.ofInt 2), document⟩
    let second : Record Json := ⟨"films", "8", some 3, none, .null⟩
    (answer [named, placed]).resultFor .search = .ok [first, second] ∧
      (∃ former latter : List (Record Json), (answer [named]).resultFor .search = .ok former ∧
        (answer [placed]).resultFor .search = .ok latter ∧ former ++ latter = [first, second]) ∧
      ∃ cause, (answer [named, broken, placed]).resultFor (α := Json) .search
        = .error (.unexpectedResponse .search (.unreadable cause)) := by
  intro document named placed broken answer first second
  have hlists : ∀ hits, (answer hits).ListsHits hits := by
    intro hits
    have hstatus : 200 ≤ (200 : UInt16) ∧ (200 : UInt16) < 300 := by decide
    exact ⟨hstatus, .single "hits" (.array hits), .of_lookup (by simp [Entries.names]) rfl,
      .of_lookup (by simp [Entries.names]) rfl⟩
  have hfirst : Hits.Tells first named :=
    ⟨none, some (.ofUInt8 2), document, .of_lookup (by decide +kernel) rfl, .absent,
      .given (by rintro ⟨⟩) ⟨_, rfl, by decide +kernel⟩, rfl⟩
  have hsecond : Hits.Tells second placed :=
    ⟨some (.ofInt64 3), some .null, .null, .items rfl, .given (by rintro ⟨⟩) rfl, .null, rfl⟩
  have hbroken : ∀ record : Record Json, ¬ Hits.Tells record broken := by
    rintro record ⟨version, score, source, hfields, -⟩
    have hvalues := (Json.hasFields_object_iff.mp hfields).2
    simp [List.lookup_cons] at hvalues
  have hboth : (answer [named, placed]).resultFor .search = .ok [first, second] :=
    ((hlists [named, placed]).resultFor_search.2.1 [first, second]).mpr
      (.cons hfirst (.cons hsecond .nil))
  obtain ⟨former, latter, hformer, hlatter, hrecords⟩ :=
    ((hlists [named, placed]).resultFor_search.2.2.2 (hlists [named]) (hlists [placed]) rfl
      [first, second]).mp hboth
  obtain ⟨-, -, -, cause, -, -, -, herror⟩ :=
    (hlists [named, broken, placed]).resultFor_search.2.2.1 broken (by simp) hbroken
  exact ⟨hboth, ⟨former, latter, hformer, hlatter, hrecords.symm⟩, cause, herror⟩

end Outcome

end DocSearch
