/-
Dot segments. Whoever joins a path to the address of an engine removes them first: a segment of one
dot is dropped, and a segment of two dots takes the segment before it away (`removeDots`). Dots are
not escaped in a segment, so an index or an id that is nothing but one or two dots is lost on the
way, and a request for the document with the id `..` is one for the index. Every other index and id
stays where it is.

The argument is on the list of segments. A segment that is kept is moved to the output as it stands
(`resolve_joined_cons`), and a dot segment makes the path shorter, so a path that is left as it was
has none (`resolve_joined_eq_iff`).
-/
import DocSearch.Proofs.PathSegments

namespace DocSearch

namespace Path

open Text.Percent (segment segment_injective slash_not_mem_segment)

/-! ## Removal -/

/-- What stands before the last slash; nothing if there is none. -/
def beforeLast (path : List Char) : List Char :=
  ((path.reverse.dropWhile (· ≠ '/')).drop 1).reverse

theorem length_takeWhile_add_dropWhile (p : Char → Bool) (text : List Char) :
    (text.takeWhile p).length + (text.dropWhile p).length = text.length := by
  rw [← List.length_append, List.takeWhile_append_dropWhile]

/-- Moves the segments of `input` behind `output`, dot segments apart. -/
def resolve (output input : List Char) : List Char :=
  match input with
  | [] => output
  | c :: rest =>
    if c = '/' then
      let segment := rest.takeWhile (· ≠ '/')
      let after := rest.dropWhile (· ≠ '/')
      -- A dot segment at the end leaves its slash behind.
      let onward := if after = [] then ['/'] else after
      if segment = ['.'] then resolve output onward
      else if segment = ['.', '.'] then resolve (beforeLast output) onward
      else resolve (output ++ '/' :: segment) after
    else
      let segment := c :: rest.takeWhile (· ≠ '/')
      let after := rest.dropWhile (· ≠ '/')
      if segment = ['.'] ∨ segment = ['.', '.'] then resolve output (after.drop 1)
      else resolve (output ++ segment) after
termination_by input.length
decreasing_by
  all_goals
    have hlength := length_takeWhile_add_dropWhile (· ≠ '/') rest
    rw [List.length_cons]
  · have hsegment : (rest.takeWhile (· ≠ '/')).length = 1 :=
      congrArg List.length ‹segment = ['.']›
    split
    · rw [List.length_singleton]; omega
    · omega
  · have hsegment : (rest.takeWhile (· ≠ '/')).length = 2 :=
      congrArg List.length ‹segment = ['.', '.']›
    split
    · rw [List.length_singleton]; omega
    · omega
  · omega
  · rw [List.length_drop]; omega
  · omega

/-- A path without its dot segments. -/
def removeDots (path : String) : String := String.ofList (resolve [] path.toList)

/-- A text of one or two dots and nothing else. -/
def IsDots (text : String) : Prop := text = "." ∨ text = ".."

instance (text : String) : Decidable (IsDots text) := inferInstanceAs (Decidable (_ ∨ _))

/-! ## Lists of segments -/

/-- The path of some segments, each behind a slash. -/
def joined (segments : List (List Char)) : List Char := segments.flatMap ('/' :: ·)

/-- A segment that is removed. -/
def IsDotSegment (segment : List Char) : Prop := segment = ['.'] ∨ segment = ['.', '.']

/-- The segments that are left behind a dot segment: an empty one if it was the last. -/
def leftBehind : List (List Char) → List (List Char)
  | [] => [[]]
  | segments => segments

theorem joined_cons (segment : List Char) (segments : List (List Char)) :
    joined (segment :: segments) = '/' :: (segment ++ joined segments) := by
  rw [joined, List.flatMap_cons, List.cons_append]
  rfl

theorem joined_leftBehind (segments : List (List Char)) :
    joined (leftBehind segments) = if joined segments = [] then ['/'] else joined segments := by
  cases segments with
  | nil => rfl
  | cons segment segments => simp [leftBehind, joined_cons]

/-- The path behind a segment begins with a slash, so the segment ends there. -/
theorem takeWhile_append_joined {segment : List Char} (h : '/' ∉ segment)
    (segments : List (List Char)) :
    (segment ++ joined segments).takeWhile (· ≠ '/') = segment ∧
      (segment ++ joined segments).dropWhile (· ≠ '/') = joined segments := by
  have hsegment : ∀ c ∈ segment, decide (c ≠ '/') = true := by
    intro c hc
    have hne : c ≠ '/' := fun heq => h (heq ▸ hc)
    exact decide_eq_true hne
  rw [List.takeWhile_append_of_pos hsegment, List.dropWhile_append_of_pos hsegment]
  cases segments with
  | nil => simp [joined]
  | cons next segments => simp [joined_cons]

theorem resolve_joined_cons {segment : List Char} (h : '/' ∉ segment) (output : List Char)
    (segments : List (List Char)) :
    resolve output (joined (segment :: segments)) =
      if segment = ['.'] then resolve output (joined (leftBehind segments))
      else if segment = ['.', '.'] then
        resolve (beforeLast output) (joined (leftBehind segments))
      else resolve (output ++ '/' :: segment) (joined segments) := by
  obtain ⟨htake, hdrop⟩ := takeWhile_append_joined h segments
  rw [joined_cons, resolve, if_pos rfl, joined_leftBehind]
  simp only [htake, hdrop]

theorem resolve_joined_empty (output : List Char) :
    resolve output (joined [[]]) = output ++ ['/'] := by
  rw [resolve_joined_cons (by simp), if_neg (by simp), if_neg (by simp)]
  exact resolve.eq_1 _

theorem length_joined_cons (segment : List Char) (segments : List (List Char)) :
    (joined (segment :: segments)).length = segment.length + (joined segments).length + 1 := by
  rw [joined_cons, List.length_cons, List.length_append]

theorem length_beforeLast_le (path : List Char) : (beforeLast path).length ≤ path.length := by
  have hlength := length_takeWhile_add_dropWhile (· ≠ '/') path.reverse
  rw [List.length_reverse] at hlength
  rw [beforeLast, List.length_reverse, List.length_drop]
  omega

theorem IsDotSegment.slash_not_mem {segment : List Char} (h : IsDotSegment segment) :
    '/' ∉ segment := by
  obtain rfl | rfl := h <;> decide

/-- A dot segment makes a path shorter, if what stands behind it does not make it longer. -/
theorem length_resolve_of_isDotSegment {segment : List Char} (h : IsDotSegment segment)
    {segments : List (List Char)}
    (hle : ∀ output, (resolve output (joined segments)).length
      ≤ output.length + (joined segments).length) (output : List Char) :
    (resolve output (joined (segment :: segments))).length
      < output.length + (joined (segment :: segments)).length := by
  have honward : ∀ output, (resolve output (joined (leftBehind segments))).length
      ≤ output.length + (joined segments).length + 1 := by
    intro output
    cases segments with
    | nil => simp [leftBehind, resolve_joined_empty]
    | cons next segments => exact Nat.le_succ_of_le (hle output)
  rw [resolve_joined_cons h.slash_not_mem, length_joined_cons]
  obtain rfl | rfl := h
  · have hkept := honward output
    rw [if_pos rfl, List.length_singleton]
    omega
  · have hkept := honward (beforeLast output)
    have hshorter := length_beforeLast_le output
    rw [if_neg (by decide), if_pos rfl, List.length_cons, List.length_singleton]
    omega

/-- No path becomes longer. -/
theorem length_resolve_joined_le {segments : List (List Char)} (h : ∀ s ∈ segments, '/' ∉ s)
    (output : List Char) :
    (resolve output (joined segments)).length ≤ output.length + (joined segments).length := by
  induction segments generalizing output with
  | nil => simp [joined, resolve]
  | cons segment segments ih =>
    obtain ⟨hsegment, hrest⟩ := List.forall_mem_cons.mp h
    by_cases hdots : IsDotSegment segment
    · exact Nat.le_of_lt (length_resolve_of_isDotSegment hdots (ih hrest) output)
    · obtain ⟨hone, htwo⟩ := not_or.mp hdots
      have hmoved := ih hrest (output ++ '/' :: segment)
      rw [List.length_append, List.length_cons] at hmoved
      rw [resolve_joined_cons hsegment, if_neg hone, if_neg htwo, length_joined_cons]
      omega

/-- A path is left as it is just when none of its segments is a dot segment. -/
theorem resolve_joined_eq_iff {segments : List (List Char)} (h : ∀ s ∈ segments, '/' ∉ s)
    (output : List Char) :
    resolve output (joined segments) = output ++ joined segments ↔
      ∀ s ∈ segments, ¬ IsDotSegment s := by
  induction segments generalizing output with
  | nil => simp [joined, resolve]
  | cons segment segments ih =>
    obtain ⟨hsegment, hrest⟩ := List.forall_mem_cons.mp h
    rw [List.forall_mem_cons]
    by_cases hdots : IsDotSegment segment
    · -- What is left of a dot segment is shorter than it was.
      have hshorter : (resolve output (joined (segment :: segments))).length
          < (output ++ joined (segment :: segments)).length := by
        rw [List.length_append]
        exact length_resolve_of_isDotSegment hdots (length_resolve_joined_le hrest) output
      constructor
      · intro heq
        rw [heq] at hshorter
        exact absurd hshorter (Nat.lt_irrefl _)
      · intro hkept
        exact absurd hdots hkept.1
    · obtain ⟨hone, htwo⟩ := not_or.mp hdots
      rw [resolve_joined_cons hsegment, if_neg hone, if_neg htwo, joined_cons]
      have hmoved := ih hrest (output ++ '/' :: segment)
      rw [List.append_assoc, List.cons_append] at hmoved
      rw [hmoved]
      exact ⟨fun hkept => ⟨hdots, hkept⟩, fun hkept => hkept.2⟩

/-! ## Paths of documents -/

theorem toList_document (index endpoint id : String) :
    (Path.document index endpoint id).toList
      = joined [(segment index).toList, endpoint.toList, (segment id).toList] := by
  have hslash : "/".toList = ['/'] := by decide
  simp only [Path.document, Path.endpoint, Path.index, String.toList_append, hslash, joined,
    List.flatMap_cons, List.flatMap_nil, List.append_assoc, List.cons_append, List.nil_append,
    List.append_nil]

/-- Dots are not escaped. -/
theorem isDotSegment_segment_iff {text : String} :
    IsDotSegment (segment text).toList ↔ IsDots text := by
  have hone : segment "." = "." := by decide +kernel
  have htwo : segment ".." = ".." := by decide +kernel
  have hsame : ∀ dots, segment dots = dots →
      ((segment text).toList = dots.toList ↔ text = dots) := by
    intro dots hdots
    rw [String.toList_inj]
    constructor
    · intro htext
      exact segment_injective (htext.trans hdots.symm)
    · rintro rfl
      exact hdots
  exact or_congr (hsame "." hone) (hsame ".." htwo)

/-- The path addresses the document with an id, by three segments. -/
def Addresses (path index : String) (endpoint : DocumentEndpoint) (id : String) : Prop :=
  Text.pieces '/' path.toList
    = [[], (segment index).toList, endpoint.name.toList, (segment id).toList]

theorem addresses_iff {path index id : String} {endpoint : DocumentEndpoint} :
    Addresses path index endpoint id ↔ path = Path.document index endpoint.name id := by
  constructor
  · intro h
    have hpieces := pieces_document index id endpoint.slash_not_mem_name
    rw [← h] at hpieces
    have htext := congrArg (List.intercalate ['/']) hpieces
    rw [Text.intercalate_pieces, Text.intercalate_pieces] at htext
    exact (String.toList_inj.mp htext).symm
  · rintro rfl
    exact pieces_document index id endpoint.slash_not_mem_name

theorem DocumentEndpoint.not_isDotSegment (endpoint : DocumentEndpoint) :
    ¬ IsDotSegment endpoint.name.toList := by
  cases endpoint <;> unfold IsDotSegment <;> decide

theorem removeDots_document_eq_iff (index id : String) (endpoint : DocumentEndpoint) :
    removeDots (Path.document index endpoint.name id) = Path.document index endpoint.name id ↔
      ¬ IsDots index ∧ ¬ IsDots id := by
  have hslash : ∀ s ∈ [(segment index).toList, endpoint.name.toList, (segment id).toList],
      '/' ∉ s := by
    simp only [List.forall_mem_cons, List.not_mem_nil, false_implies, implies_true, and_true]
    exact ⟨slash_not_mem_segment index, endpoint.slash_not_mem_name, slash_not_mem_segment id⟩
  have hkept := resolve_joined_eq_iff hslash []
  rw [List.nil_append, ← toList_document] at hkept
  rw [removeDots, ← String.toList_inj, String.toList_ofList, hkept]
  simp only [List.forall_mem_cons, List.not_mem_nil, false_implies, implies_true, and_true,
    isDotSegment_segment_iff, endpoint.not_isDotSegment, not_false_eq_true, true_and]

theorem beforeLast_append {segment : List Char} (h : '/' ∉ segment) (before : List Char) :
    beforeLast (before ++ '/' :: segment) = before := by
  have hsegment : ∀ c ∈ segment.reverse, decide (c ≠ '/') = true := by
    intro c hc
    have hne : c ≠ '/' := fun heq => h (heq ▸ List.mem_reverse.mp hc)
    exact decide_eq_true hne
  have hreverse : (before ++ '/' :: segment).reverse
      = segment.reverse ++ '/' :: before.reverse := by
    simp
  rw [beforeLast, hreverse, List.dropWhile_append_of_pos hsegment]
  simp

/-- Two dots in place of an id lead to the index. -/
theorem removeDots_document_twoDots {index : String} (h : ¬ IsDots index)
    (endpoint : DocumentEndpoint) :
    removeDots (Path.document index endpoint.name "..") = Path.index index ++ "/" := by
  have hindex : ¬ IsDotSegment (segment index).toList := mt isDotSegment_segment_iff.mp h
  obtain ⟨hindexOne, hindexTwo⟩ := not_or.mp hindex
  obtain ⟨hendpointOne, hendpointTwo⟩ := not_or.mp endpoint.not_isDotSegment
  have hid : (segment "..").toList = ['.', '.'] := by decide +kernel
  have hresolve : resolve [] (joined [(segment index).toList, endpoint.name.toList, ['.', '.']])
      = '/' :: (segment index).toList ++ ['/'] := by
    rw [resolve_joined_cons (slash_not_mem_segment index), if_neg hindexOne, if_neg hindexTwo,
      resolve_joined_cons endpoint.slash_not_mem_name, if_neg hendpointOne, if_neg hendpointTwo,
      resolve_joined_cons (by decide), if_neg (by decide), if_pos rfl,
      beforeLast_append endpoint.slash_not_mem_name, leftBehind, resolve_joined_empty]
    rfl
  have hslash : "/".toList = ['/'] := by decide
  rw [removeDots, toList_document, hid, hresolve, ← String.toList_inj, String.toList_ofList,
    Path.index, String.toList_append, String.toList_append, hslash]
  rfl

end Path

/-- **Dot segments in the path of a document.** Whoever removes them leaves the path as it is, so
that it addresses the document, just when neither the index nor the id is one dot or two dots and
nothing else. Two dots in place of the id lead to the index itself. -/
theorem Call.addresses_removeDots_iff {α : Type} {operation : Operation} {call : Call α operation}
    {endpoint : Path.DocumentEndpoint} {id : String} (h : call.document? = some (endpoint, id))
    (index : String) :
    (Path.removeDots (call.path index) = call.path index ↔
        ¬ Path.IsDots index ∧ ¬ Path.IsDots id) ∧
      (Path.Addresses (Path.removeDots (call.path index)) index endpoint id ↔
        ¬ Path.IsDots index ∧ ¬ Path.IsDots id) ∧
      (¬ Path.IsDots index → id = ".." →
        Path.removeDots (call.path index) = Path.index index ++ "/") := by
  rw [Call.path_of_document? h, Path.addresses_iff]
  refine ⟨Path.removeDots_document_eq_iff index id endpoint,
    Path.removeDots_document_eq_iff index id endpoint, ?_⟩
  rintro hindex rfl
  exact Path.removeDots_document_twoDots hindex endpoint

/-- A document whose id holds a slash and dots is reached, and a change to the one whose id is two
dots goes to the index. -/
theorem Call.addresses_removeDots_slash :
    let call : Call Json .delete := .delete "../b"
    let change : Call Json .update := .update ".." (.ok .null)
    call.document? = some (.document, "../b") ∧ change.document? = some (.update, "..") ∧
      Path.Addresses (Path.removeDots (call.path "films")) "films" .document "../b" ∧
      Path.removeDots (change.path "films") = Path.index "films" ++ "/" :=
  ⟨rfl, rfl, ((Call.addresses_removeDots_iff rfl "films").2.1).mpr (by decide),
    (Call.addresses_removeDots_iff rfl "films").2.2 (by decide) rfl⟩

/-- The call to remove the document with the id `..` is one to remove the index. -/
theorem Call.removeDots_path_twoDots :
    let path := (Call.delete ".." : Call Json .delete).path "movies"
    path = "/movies/_doc/.." ∧ Path.removeDots path = "/movies/" ∧ Path.removeDots path ≠ path := by
  have hpath : (Call.delete ".." : Call Json .delete).path "movies" = "/movies/_doc/.." := by
    decide +kernel
  have hindex : Path.index "movies" ++ "/" = "/movies/" := by decide +kernel
  have hresolved : Path.removeDots ((Call.delete ".." : Call Json .delete).path "movies")
      = "/movies/" := by
    rw [← hindex]
    exact Path.removeDots_document_twoDots (by decide) .document
  refine ⟨hpath, hresolved, ?_⟩
  rw [hresolved, hpath]
  decide

end DocSearch
