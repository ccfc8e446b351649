/-
Segments of paths. A segment stands for its text: decoding it gives the bytes of the text in UTF-8,
and there is no slash in it. So the path of a document falls into its index, its endpoint and its id
when it is cut at the slashes, whatever marks the index and the id have in them.
-/
import DocSearch.Request.Basic
import DocSearch.Text.Pieces

namespace DocSearch

namespace Text

/-! ## Bytes -/

/-- What holds of all numbers below 256 holds of all bytes. -/
theorem forall_byte {p : UInt8 → Prop} (h : ∀ n < 256, p (UInt8.ofNat n)) (byte : UInt8) :
    p byte := by
  have hbyte := h byte.toNat byte.toNat_lt
  rwa [UInt8.ofNat_toNat] at hbyte

namespace Percent

/-- The text with the given UTF-8 form, if there is one. -/
def ofUtf8? (bytes : List UInt8) : Option String := String.fromUTF8? bytes.toByteArray

theorem toByteArray_utf8 (text : String) : (utf8 text).toByteArray = text.toByteArray :=
  String.utf8Encode_toList

theorem ofUtf8?_utf8 (text : String) : ofUtf8? (utf8 text) = some text := by
  rw [ofUtf8?, toByteArray_utf8, String.fromUTF8?, dif_pos text.isValidUTF8]
  rfl

/-- Texts with the same UTF-8 form are the same. -/
theorem utf8_injective : Function.Injective utf8 := by
  intro a b h
  have hsome := ofUtf8?_utf8 a
  rw [h, ofUtf8?_utf8] at hsome
  exact (Option.some.inj hsome).symm

/-! ## Segments -/

/-- A safe byte is the form of its character, and it is no percent sign. -/
theorem of_isSafe (byte : UInt8) (h : isSafe byte = true) :
    String.utf8EncodeChar (Char.ofNat byte.toNat) = [byte] ∧ byte ≠ 0x25 := by
  revert byte
  exact forall_byte (by decide +kernel)

/-- Another byte is the value of the two digits that stand for it. -/
theorem of_not_isSafe (byte : UInt8) (h : isSafe byte = false) :
    ∃ high low, ['%', Numeral.hexDigit 'A' (byte.toNat / 16),
        Numeral.hexDigit 'A' (byte.toNat % 16)].flatMap String.utf8EncodeChar = [0x25, high, low] ∧
      pair? high low = some byte := by
  revert byte
  refine forall_byte ?_
  intro n hn _
  refine ⟨(Numeral.hexDigit 'A' (n / 16)).toNat.toUInt8,
    (Numeral.hexDigit 'A' (n % 16)).toNat.toUInt8, ?_⟩
  revert n
  decide +kernel

theorem decode_cons {byte : UInt8} (h : byte ≠ 0x25) (rest : List UInt8) :
    decode (byte :: rest) = byte :: decode rest := by
  rw [decode.eq_def]
  exact if_neg h

theorem decode_encodeByte (byte : UInt8) (rest : List UInt8) :
    decode ((encodeByte byte).flatMap String.utf8EncodeChar ++ rest) = byte :: decode rest := by
  cases hsafe : isSafe byte with
  | true =>
    obtain ⟨hform, hne⟩ := of_isSafe byte hsafe
    rw [encodeByte, if_pos hsafe, List.flatMap_singleton, hform, List.singleton_append,
      decode_cons hne]
  | false =>
    obtain ⟨high, low, hform, hpair⟩ := of_not_isSafe byte hsafe
    rw [encodeByte, hsafe, if_neg (by decide), hform]
    simp only [List.cons_append, List.nil_append, decode, if_true, hpair]

theorem decode_flatMap_encodeByte (bytes : List UInt8) :
    decode ((bytes.flatMap encodeByte).flatMap String.utf8EncodeChar) = bytes := by
  induction bytes with
  | nil => rfl
  | cons byte bytes ih =>
    rw [List.flatMap_cons, List.flatMap_append, decode_encodeByte, ih]

/-- Decoding a segment gives the bytes of the text it stands for. -/
theorem decode_segment (text : String) : decode (utf8 (segment text)) = utf8 text := by
  rw [utf8, segment, String.toList_ofList, decode_flatMap_encodeByte]

/-- The text that a segment stands for. -/
def text? (segment : List Char) : Option String := ofUtf8? (decode (utf8 (String.ofList segment)))

theorem text?_segment (text : String) : text? (segment text).toList = some text := by
  rw [text?, String.ofList_toList, decode_segment, ofUtf8?_utf8]

/-- Texts with the same segment are the same. -/
theorem segment_injective : Function.Injective segment := by
  intro a b h
  apply utf8_injective
  rw [← decode_segment, h, decode_segment]

theorem slash_not_mem_encodeByte (byte : UInt8) : '/' ∉ encodeByte byte := by
  revert byte
  exact forall_byte (by decide +kernel)

theorem slash_not_mem_segment (text : String) : '/' ∉ (segment text).toList := by
  rw [segment, String.toList_ofList, List.mem_flatMap]
  rintro ⟨byte, -, hmem⟩
  exact slash_not_mem_encodeByte byte hmem

end Percent

/-! ## Pieces -/

theorem pieces_of_not_mem {mark : Char} {text : List Char} (h : mark ∉ text) :
    pieces mark text = [text] := by
  induction text with
  | nil => rfl
  | cons c text ih =>
    obtain ⟨hc, htext⟩ := not_or.mp (mt List.mem_cons.mpr h)
    rw [pieces_cons, if_neg (Ne.symm hc), ih htext]

theorem pieces_append {mark : Char} {before : List Char} (h : mark ∉ before) (text : List Char) :
    pieces mark (before ++ mark :: text) = before :: pieces mark text := by
  induction before with
  | nil => rw [List.nil_append, pieces_cons, if_pos rfl]
  | cons c before ih =>
    obtain ⟨hc, hbefore⟩ := not_or.mp (mt List.mem_cons.mpr h)
    rw [List.cons_append, pieces_cons, if_neg (Ne.symm hc), ih hbefore]

end Text

/-! ## Paths -/

namespace Path

open Text.Percent (segment slash_not_mem_segment)

theorem pieces_endpoint (index : String) {endpoint : String} (h : '/' ∉ endpoint.toList) :
    Text.pieces '/' (Path.endpoint index endpoint).toList
      = [[], (segment index).toList, endpoint.toList] := by
  have hslash : "/".toList = ['/'] := by decide
  have hlist : (Path.endpoint index endpoint).toList
      = [] ++ '/' :: ((segment index).toList ++ '/' :: endpoint.toList) := by
    simp only [Path.endpoint, Path.index, String.toList_append, hslash, List.append_assoc,
      List.cons_append, List.nil_append]
  rw [hlist, Text.pieces_append List.not_mem_nil, Text.pieces_append (slash_not_mem_segment index),
    Text.pieces_of_not_mem h]

theorem pieces_document (index id : String) {endpoint : String} (h : '/' ∉ endpoint.toList) :
    Text.pieces '/' (Path.document index endpoint id).toList
      = [[], (segment index).toList, endpoint.toList, (segment id).toList] := by
  have hslash : "/".toList = ['/'] := by decide
  have hlist : (Path.document index endpoint id).toList
      = [] ++ '/' :: ((segment index).toList
          ++ '/' :: (endpoint.toList ++ '/' :: (segment id).toList)) := by
    simp only [Path.document, Path.endpoint, Path.index, String.toList_append, hslash,
      List.append_assoc, List.cons_append, List.nil_append]
  rw [hlist, Text.pieces_append List.not_mem_nil, Text.pieces_append (slash_not_mem_segment index),
    Text.pieces_append h, Text.pieces_of_not_mem (slash_not_mem_segment id)]

end Path

end DocSearch
