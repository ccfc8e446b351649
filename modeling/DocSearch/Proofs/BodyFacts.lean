/-
The bodies of answers, by the fields they have: what each reader of a body
accepts, and what it makes of the values. A version may be left out or be null,
and the result of a write stands by its name, alone or with nothing behind it.
-/
import DocSearch.Proofs.ShapeFacts
import DocSearch.Response.Body

namespace DocSearch

open Json (HasFields valueAt valueAt_cons)
open Json.Shape (Lawful Plain Optionally build_required_eq_ok_iff build_optional_eq_ok_iff
  build_of)

/-! ## Values -/

namespace Json

theorem readInt64_eq_ok_iff {value : Json} {n : Int64} :
    readInt64 value = .ok n ↔ value = .ofInt64 n := by
  cases value with
  | number number =>
    cases number with
    | integer m hm =>
      simp only [readInt64, ofInt64, Number.ofInt64, Json.number.injEq, Number.integer.injEq]
      obtain ⟨hlow, -⟩ := hm
      split
      · next hhigh =>
        rw [Except.ok.injEq]
        constructor
        · rintro rfl
          rw [Int64.toInt_ofInt_of_le (by simpa using hlow) (by simpa using hhigh)]
        · rintro rfl
          rw [Int64.ofInt_toInt]
      · next hhigh =>
        simp only [reduceCtorEq, false_iff]
        rintro rfl
        exact hhigh (Int64.toInt_lt n)
    | float x => simp [readInt64, ofInt64, Number.ofInt64]
  | _ => simp [readInt64, ofInt64]

theorem readUnsigned_eq_ok_iff {bits : Nat} {value : Json} {n : { n : Nat // n < Nat.pow 2 bits }} :
    readUnsigned bits value = .ok n ↔ ∃ h, value = .number (.integer n.1 h) := by
  cases value with
  | number number =>
    cases number with
    | integer m hm =>
      simp only [readUnsigned, Json.number.injEq, Number.integer.injEq]
      split
      · next h =>
        rw [Except.ok.injEq, ← Subtype.val_inj]
        refine ⟨fun hn => ⟨?_, ?_⟩, fun ⟨_, hm⟩ => by simp [hm]⟩
        · rwa [← hn, Int.toNat_of_nonneg h.1]
        · rw [← hn, Int.toNat_of_nonneg h.1]
      · next h =>
        simp only [reduceCtorEq, false_iff]
        rintro ⟨_, rfl⟩
        exact h ⟨Int.natCast_nonneg _, by simpa using n.2⟩
    | float x => simp [readUnsigned]
  | _ => simp [readUnsigned]

theorem readUInt8_eq_ok_iff {value : Json} {n : UInt8} :
    readUInt8 value = .ok n ↔ value = .ofUInt8 n := by
  simp only [readUInt8, map_eq_ok_iff, readUnsigned_eq_ok_iff]
  constructor
  · rintro ⟨m, ⟨_, rfl⟩, rfl⟩
    simp [ofUInt8, Number.ofUInt8]
  · rintro rfl
    exact ⟨⟨n.toNat, n.toNat_lt⟩, ⟨_, rfl⟩, by simp⟩

theorem readUInt32_eq_ok_iff {value : Json} {n : UInt32} :
    readUInt32 value = .ok n ↔ value = .ofUInt32 n := by
  simp only [readUInt32, map_eq_ok_iff, readUnsigned_eq_ok_iff]
  constructor
  · rintro ⟨m, ⟨_, rfl⟩, rfl⟩
    simp [ofUInt32, Number.ofUInt32]
  · rintro rfl
    exact ⟨⟨n.toNat, n.toNat_lt⟩, ⟨_, rfl⟩, by simp⟩

theorem readUInt64_eq_ok_iff {value : Json} {n : UInt64} :
    readUInt64 value = .ok n ↔ value = .ofUInt64 n := by
  simp only [readUInt64, map_eq_ok_iff, readUnsigned_eq_ok_iff]
  constructor
  · rintro ⟨m, ⟨_, rfl⟩, rfl⟩
    simp [ofUInt64, Number.ofUInt64]
  · rintro rfl
    exact ⟨⟨n.toNat, n.toNat_lt⟩, ⟨_, rfl⟩, by simp⟩

/-- The value is a number, which is this double when it is rounded. -/
def RoundsTo (value : Json) (x : Double) : Prop := ∃ n, value = .number n ∧ n.toDouble = x

theorem readDouble_eq_ok_iff {value : Json} {x : Double} :
    readDouble value = .ok x ↔ value.RoundsTo x := by
  cases value <;> simp [readDouble, RoundsTo]

/-- A choice is read from its name, alone or in front of nothing. -/
theorem readChoice_eq_ok_iff {α : Type} {table : List (String × α)} {isUnit : Json → Bool}
    {value : Json} {a : α} :
    readChoice table isUnit value = .ok a ↔
      ∃ name, table.lookup name = some a ∧
        (value = .string name ∨
          ∃ content, isUnit content = true ∧ value = .single name content) := by
  cases value with
  | string name => simp [readChoice, choose_eq_ok_iff, single]
  | object members =>
    match members with
    | [] => simp [readChoice, single]
    | [(name, content)] =>
      simp only [readChoice, bind_eq_ok_iff, choose_eq_ok_iff, single]
      constructor
      · rintro ⟨b, hb, h⟩
        split at h
        · next hu =>
          cases h
          exact ⟨name, hb, .inr ⟨content, hu, rfl⟩⟩
        · cases h
      · rintro ⟨_, ha, h | ⟨_, hu, h⟩⟩
        · cases h
        · cases h
          exact ⟨a, ha, by simp [hu]⟩
    | _ :: _ :: _ => simp [readChoice, single]
  | _ => simp [readChoice, single]

theorem member?_eq_some_iff {value content : Json} {name : String} :
    value.member? name = some content
      ↔ ∃ members, value = .object members ∧ members.lookup name = some content := by
  cases value <;> simp [member?]

theorem isNull_iff {value : Json} : isNull value = true ↔ value = .null := by
  cases value <;> simp [isNull]

/-- A table in which every choice stands under its own name. -/
theorem lookup_eq_some_iff_name {α : Type} {table : List (String × α)} {nameOf : α → String}
    (hname : ∀ a, table.lookup (nameOf a) = some a)
    (htable : ∀ entry ∈ table, entry.1 = nameOf entry.2)
    {name : String} {a : α} : table.lookup name = some a ↔ name = nameOf a := by
  constructor
  · intro h
    obtain ⟨before, after, rfl, -⟩ := List.lookup_eq_some_iff.mp h
    exact htable (name, a) (by simp)
  · rintro rfl
    exact hname a

end Json

/-- How the result of a write stands in a body. -/
inductive WriteResult.Stands (result : WriteResult) : Json → Prop
  | name : Stands result (.string result.name)
  | single : Stands result (.single result.name .null)

theorem WriteResult.ofJson_eq_ok_iff {value : Json} {result : WriteResult} :
    ofJson value = .ok result ↔ result.Stands value := by
  have hlookup {name : String} : table.lookup name = some result ↔ name = result.name :=
    Json.lookup_eq_some_iff_name lookup_name (by simp [table, WriteResult.name])
  simp only [ofJson, Json.readChoice_eq_ok_iff, hlookup, exists_eq_left, Json.isNull_iff]
  constructor
  · rintro (rfl | rfl)
    · exact .name
    · exact .single
  · rintro (_ | _)
    · exact .inl rfl
    · exact .inr rfl

/-- A JSON value is a document as it stands. -/
instance : Document Json where
  index := "free"
  toJson := .ok
  ofJson := .ok

/-! ## Writes -/

namespace WriteReply

/-- A body that tells of a write. -/
def Tells (reply : WriteReply) (body : Json) : Prop :=
  ∃ version result, body.HasFields ["_index", "_id", "_version", "result"]
      [some (.string reply.index), some (.string reply.id), version, some result] ∧
    Optionally (· = .ofInt64 ·) version reply.version ∧ reply.result.Stands result

theorem lawful_shape : shape.Lawful :=
  ((((Lawful.of _ _).required (by simp)).required (by simp)).optional (by simp)).required (by simp)

theorem plain_shape : shape.Plain := by
  simp [Plain, shape, Json.Shape.required, Json.Shape.optional, Json.Shape.add, Json.Shape.of]

theorem build_eq_ok_iff {index id version result : Option Json} {reply : WriteReply} :
    shape.build (valueAt ["_index", "_id", "_version", "result"] [index, id, version, result])
        = .ok reply ↔
      index = some (.string reply.index) ∧ id = some (.string reply.id) ∧
        Optionally (· = .ofInt64 ·) version reply.version ∧
        ∃ content, result = some content ∧ reply.result.Stands content := by
  simp only [shape, build_required_eq_ok_iff, build_optional_eq_ok_iff, build_of, valueAt_cons,
    Json.readString_eq_ok_iff, Json.readInt64_eq_ok_iff, WriteResult.ofJson_eq_ok_iff,
    String.reduceEq, ite_true, ite_false]
  constructor
  · rintro ⟨_, ⟨_, ⟨_, ⟨_, ⟨⟩, _, _, hi, rfl, rfl⟩, _, _, hd, rfl, rfl⟩, _, hv, rfl⟩, content, _, hc,
      hr, rfl⟩
    exact ⟨hi, hd, hv, content, hc, hr⟩
  · rintro ⟨hi, hd, hv, content, hc, hr⟩
    exact ⟨_, ⟨_, ⟨_, ⟨_, rfl, _, _, hi, rfl, rfl⟩, _, _, hd, rfl, rfl⟩, _, hv, rfl⟩, content, _, hc,
      hr, rfl⟩

theorem read_eq_ok_iff {body : Json} {reply : WriteReply} :
    shape.read body = .ok reply ↔ reply.Tells body := by
  rw [Json.Shape.read_eq_ok_iff lawful_shape plain_shape,
    show shape.names = ["_index", "_id", "_version", "result"] from rfl]
  constructor
  · rintro ⟨values, hf, hb⟩
    match values, hf.length_eq with
    | [index, id, version, result], _ =>
      obtain ⟨rfl, rfl, hv, content, rfl, hr⟩ := build_eq_ok_iff.mp hb
      exact ⟨version, content, hf, hv, hr⟩
  · rintro ⟨version, result, hf, hv, hr⟩
    exact ⟨_, hf, build_eq_ok_iff.mpr ⟨rfl, rfl, hv, result, rfl, hr⟩⟩

end WriteReply

/-! ## Reads -/

namespace GetReply

variable {α : Type} [Document α]

/-- A body that tells of a read. -/
def Tells (reply : GetReply α) (body : Json) : Prop :=
  ∃ version source, body.HasFields ["_index", "_id", "_version", "found", "_source"]
      [some (.string reply.index), some (.string reply.id), version, some (.bool reply.found),
        source] ∧
    Optionally (· = .ofInt64 ·) version reply.version ∧
    Optionally (fun value document => Document.ofJson value = .ok document) source reply.source

theorem lawful_shape : (shape : Json.Shape (GetReply α)).Lawful :=
  (((((Lawful.of _ _).required (by simp)).required (by simp)).optional (by simp)).required
    (by simp)).optional (by simp)

theorem plain_shape : (shape : Json.Shape (GetReply α)).Plain := by
  simp [Plain, shape, Json.Shape.required, Json.Shape.optional, Json.Shape.add, Json.Shape.of]

theorem build_eq_ok_iff {index id version found source : Option Json} {reply : GetReply α} :
    shape.build (valueAt ["_index", "_id", "_version", "found", "_source"]
        [index, id, version, found, source]) = .ok reply ↔
      index = some (.string reply.index) ∧ id = some (.string reply.id) ∧
        Optionally (· = .ofInt64 ·) version reply.version ∧ found = some (.bool reply.found) ∧
        Optionally (fun value document => Document.ofJson value = .ok document) source
          reply.source := by
  simp only [shape, build_required_eq_ok_iff, build_optional_eq_ok_iff, build_of, valueAt_cons,
    Json.readString_eq_ok_iff, Json.readBool_eq_ok_iff, Json.readInt64_eq_ok_iff, String.reduceEq,
    ite_true, ite_false]
  constructor
  · rintro ⟨_, ⟨_, ⟨_, ⟨_, ⟨_, ⟨⟩, _, _, hi, rfl, rfl⟩, _, _, hd, rfl, rfl⟩, _, hv, rfl⟩, _, _, hf,
      rfl, rfl⟩, _, hs, rfl⟩
    exact ⟨hi, hd, hv, hf, hs⟩
  · rintro ⟨hi, hd, hv, hf, hs⟩
    exact ⟨_, ⟨_, ⟨_, ⟨_, ⟨_, rfl, _, _, hi, rfl, rfl⟩, _, _, hd, rfl, rfl⟩, _, hv, rfl⟩, _, _, hf,
      rfl, rfl⟩, _, hs, rfl⟩

theorem read_eq_ok_iff {body : Json} {reply : GetReply α} :
    shape.read body = .ok reply ↔ reply.Tells body := by
  rw [Json.Shape.read_eq_ok_iff lawful_shape plain_shape,
    show (shape : Json.Shape (GetReply α)).names
      = ["_index", "_id", "_version", "found", "_source"] from rfl]
  constructor
  · rintro ⟨values, hf, hb⟩
    match values, hf.length_eq with
    | [index, id, version, found, source], _ =>
      obtain ⟨rfl, rfl, hv, rfl, hs⟩ := build_eq_ok_iff.mp hb
      exact ⟨version, source, hf, hv, hs⟩
  · rintro ⟨version, source, hf, hv, hs⟩
    exact ⟨_, hf, build_eq_ok_iff.mpr ⟨rfl, rfl, hv, rfl, hs⟩⟩

end GetReply

namespace MissingDocument

/-- A body that tells whether a document is there. -/
def Tells (reply : MissingDocument) (body : Json) : Prop :=
  body.HasFields ["_index", "_id", "found"]
    [some (.string reply.index), some (.string reply.id), some (.bool reply.found)]

theorem lawful_shape : shape.Lawful :=
  (((Lawful.of _ _).required (by simp)).required (by simp)).required (by simp)

theorem plain_shape : shape.Plain := by
  simp [Plain, shape, Json.Shape.required, Json.Shape.add, Json.Shape.of]

theorem build_eq_ok_iff {index id found : Option Json} {reply : MissingDocument} :
    shape.build (valueAt ["_index", "_id", "found"] [index, id, found]) = .ok reply ↔
      index = some (.string reply.index) ∧ id = some (.string reply.id) ∧
        found = some (.bool reply.found) := by
  simp only [shape, build_required_eq_ok_iff, build_of, valueAt_cons, Json.readString_eq_ok_iff,
    Json.readBool_eq_ok_iff, String.reduceEq, ite_true, ite_false]
  constructor
  · rintro ⟨_, ⟨_, ⟨_, ⟨⟩, _, _, hi, rfl, rfl⟩, _, _, hd, rfl, rfl⟩, _, _, hf, rfl, rfl⟩
    exact ⟨hi, hd, hf⟩
  · rintro ⟨hi, hd, hf⟩
    exact ⟨_, ⟨_, ⟨_, rfl, _, _, hi, rfl, rfl⟩, _, _, hd, rfl, rfl⟩, _, _, hf, rfl, rfl⟩

theorem read_eq_ok_iff {body : Json} {reply : MissingDocument} :
    shape.read body = .ok reply ↔ reply.Tells body := by
  rw [Json.Shape.read_eq_ok_iff lawful_shape plain_shape,
    show shape.names = ["_index", "_id", "found"] from rfl]
  constructor
  · rintro ⟨values, hf, hb⟩
    match values, hf.length_eq with
    | [index, id, found], _ =>
      obtain ⟨rfl, rfl, rfl⟩ := build_eq_ok_iff.mp hb
      exact hf
  · intro hf
    exact ⟨_, hf, build_eq_ok_iff.mpr ⟨rfl, rfl, rfl⟩⟩

end MissingDocument

/-! ## Other answers -/

/-- A body that tells how many documents were removed. -/
def Truncation.Tells (truncation : Truncation) (body : Json) : Prop :=
  body.HasFields ["deleted"] [some (.ofUInt64 truncation.count)]

theorem Truncation.read_bodyShape_eq_ok_iff {body : Json} {truncation : Truncation} :
    bodyShape.read body = .ok truncation ↔ truncation.Tells body := by
  obtain ⟨n⟩ := truncation
  simp [bodyShape, Json.Shape.read_single_eq_ok_iff, Json.readUInt64_eq_ok_iff, Tells]

namespace RootCauses

/-- A body that gives reasons, one for each of its root causes. -/
def Tell (reasons : List String) (body : Json) : Prop :=
  ∃ detail causes, body.HasFields ["error"] [some detail] ∧
    detail.HasFields ["root_cause"] [some (.array causes)] ∧
    List.Forall₂ (fun cause reason => cause.HasFields ["reason"] [some (.string reason)])
      causes reasons

theorem read_causeShape_eq_ok_iff {cause : Json} {reason : String} :
    causeShape.read cause = .ok reason ↔ cause.HasFields ["reason"] [some (.string reason)] := by
  simp [causeShape, Json.Shape.read_single_eq_ok_iff, Json.readString_eq_ok_iff]

theorem read_eq_ok_iff {body : Json} {reasons : List String} :
    shape.read body = .ok reasons ↔ Tell reasons body := by
  simp only [shape, listShape, Json.Shape.read_single_eq_ok_iff, Json.readList_eq_ok_iff,
    read_causeShape_eq_ok_iff, Tell, id]
  constructor
  · rintro ⟨detail, hb, _, ⟨_, hd, _, ⟨causes, rfl, hc⟩, rfl⟩, rfl⟩
    exact ⟨detail, causes, hb, hd, hc⟩
  · rintro ⟨detail, causes, hb, hd, hc⟩
    exact ⟨detail, hb, _, ⟨_, hd, _, ⟨causes, rfl, hc⟩, rfl⟩, rfl⟩

end RootCauses

end DocSearch
