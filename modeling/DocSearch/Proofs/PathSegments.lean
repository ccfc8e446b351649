/-
What stands in the paths of requests. The segment of a text holds printable characters, none of
those that would end it, and a percent sign in it begins an escape of two digits (`Spelled`). So the
path of a document is cut at its three slashes and nowhere else, and whatever path a call or a query
is sent to lies at its index or below it (`Within`).
-/
import DocSearch.Proofs.SegmentFacts
import DocSearch.Proofs.SessionFacts

namespace DocSearch

namespace Text.Percent

/-! ## Segments -/

/-- A printable character that may stand in a segment. -/
def InSegment (c : Char) : Prop :=
  ' ' ≤ c ∧ c ≤ '~' ∧
    c ∉ [' ', '"', '#', '/', '<', '>', '?', '\\', '^', '`', '\x7b', '|', '\x7d']

instance (c : Char) : Decidable (InSegment c) := inferInstanceAs (Decidable (_ ∧ _ ∧ _))

/-- A digit in base sixteen, in upper case. -/
def IsUpperDigit (c : Char) : Prop := ('0' ≤ c ∧ c ≤ '9') ∨ ('A' ≤ c ∧ c ≤ 'F')

instance (c : Char) : Decidable (IsUpperDigit c) := inferInstanceAs (Decidable (_ ∨ _))

/-- A text of characters that stand for themselves and of escapes, each a percent sign and two
digits. -/
inductive Spelled : List Char → Prop
  | nil : Spelled []
  | plain {c : Char} {rest : List Char} : InSegment c → c ≠ '%' → Spelled rest → Spelled (c :: rest)
  | escape {high low : Char} {rest : List Char} : IsUpperDigit high → IsUpperDigit low →
      Spelled rest → Spelled ('%' :: high :: low :: rest)

theorem IsUpperDigit.inSegment {c : Char} (h : IsUpperDigit c) : InSegment c := by
  have hbound : c.toNat < 128 := by
    obtain ⟨-, hle⟩ | ⟨-, hle⟩ := h
    · have : c.toNat ≤ '9'.toNat := hle
      exact Nat.lt_of_le_of_lt this (by decide)
    · have : c.toNat ≤ 'F'.toNat := hle
      exact Nat.lt_of_le_of_lt this (by decide)
  have hall : ∀ n < 128, IsUpperDigit (Char.ofNat n) → InSegment (Char.ofNat n) := by
    decide +kernel
  have hc := hall c.toNat hbound
  rw [Char.ofNat_toNat] at hc
  exact hc h

theorem Spelled.inSegment {text : List Char} (h : Spelled text) : ∀ c ∈ text, InSegment c := by
  induction h with
  | nil => simp
  | plain hc _ _ ih => simpa using ⟨hc, ih⟩
  | escape hhigh hlow _ ih =>
    have hpercent : InSegment '%' := by decide
    simpa using ⟨hpercent, hhigh.inSegment, hlow.inSegment, ih⟩

/-- A byte stands for itself or as an escape. -/
theorem encodeByte_cases (byte : UInt8) :
    (∃ c, encodeByte byte = [c] ∧ InSegment c ∧ c ≠ '%') ∨
      ∃ high low, encodeByte byte = ['%', high, low] ∧ IsUpperDigit high ∧ IsUpperDigit low := by
  cases hsafe : isSafe byte with
  | true =>
    have hplain : ∀ byte, isSafe byte = true →
        InSegment (Char.ofNat byte.toNat) ∧ Char.ofNat byte.toNat ≠ '%' :=
      forall_byte (by decide +kernel)
    exact .inl ⟨_, by rw [encodeByte, if_pos hsafe], hplain byte hsafe⟩
  | false =>
    have hdigit : ∀ n < 16, IsUpperDigit (Numeral.hexDigit 'A' n) := by decide +kernel
    have hlt : byte.toNat < 256 := byte.toNat_lt
    refine .inr ⟨_, _, by rw [encodeByte, hsafe, if_neg (by decide)], ?_, ?_⟩
    · exact hdigit _ (by omega)
    · exact hdigit _ (by omega)

theorem spelled_flatMap_encodeByte (bytes : List UInt8) : Spelled (bytes.flatMap encodeByte) := by
  induction bytes with
  | nil => exact .nil
  | cons byte bytes ih =>
    rw [List.flatMap_cons]
    obtain ⟨c, hform, hc, hne⟩ | ⟨high, low, hform, hhigh, hlow⟩ := encodeByte_cases byte
    · rw [hform]
      exact .plain hc hne ih
    · rw [hform]
      exact .escape hhigh hlow ih

theorem spelled_segment (text : String) : Spelled (segment text).toList := by
  rw [segment, String.toList_ofList]
  exact spelled_flatMap_encodeByte (utf8 text)

theorem not_mem_segment {c : Char} (h : ¬ InSegment c) (text : String) :
    c ∉ (segment text).toList :=
  fun hmem => h ((spelled_segment text).inSegment c hmem)

end Text.Percent

/-! ## Paths -/

namespace Path

open Text.Percent (segment Spelled InSegment not_mem_segment segment_injective)

/-- What is offered for a document: the document itself, or a change to it. -/
inductive DocumentEndpoint where
  | document
  | update
  deriving DecidableEq

/-- The name that an endpoint has in paths. -/
def DocumentEndpoint.name : DocumentEndpoint → String
  | document => "_doc"
  | update => "_update"

/-- The path is that of an index, or it lies below it. -/
def Within (index path : String) : Prop :=
  path = "/" ++ segment index ∨ ∃ below, below ≠ "" ∧ path = "/" ++ segment index ++ "/" ++ below

theorem DocumentEndpoint.slash_not_mem_name (endpoint : DocumentEndpoint) :
    '/' ∉ endpoint.name.toList := by
  cases endpoint <;> decide

theorem DocumentEndpoint.name_injective : Function.Injective DocumentEndpoint.name := by
  intro a b
  cases a <;> cases b <;> decide

/-- A mark that stands neither in a segment nor in an endpoint does not stand in a path. -/
theorem not_mem_document {mark : Char} (hmark : ¬ InSegment mark) (hslash : mark ≠ '/')
    (index id : String) {endpoint : String} (hendpoint : mark ∉ endpoint.toList) :
    mark ∉ (Path.document index endpoint id).toList := by
  have hone : "/".toList = ['/'] := by decide
  simp only [Path.document, Path.endpoint, Path.index, String.toList_append, hone,
    List.mem_append, List.mem_singleton, not_or]
  exact ⟨⟨⟨⟨⟨hslash, not_mem_segment hmark index⟩, hslash⟩, hendpoint⟩, hslash⟩,
    not_mem_segment hmark id⟩

/-- The path of a document tells its index, its endpoint and its id. -/
theorem document_injective : Function.Injective fun key : String × DocumentEndpoint × String =>
    Path.document key.1 key.2.1.name key.2.2 := by
  rintro ⟨index, endpoint, id⟩ ⟨otherIndex, otherEndpoint, otherId⟩ h
  have hpieces := congrArg (fun path : String => Text.pieces '/' path.toList) h
  simp only [pieces_document _ _ (DocumentEndpoint.slash_not_mem_name _), List.cons.injEq,
    true_and, and_true, String.toList_inj] at hpieces
  obtain ⟨hindex, hendpoint, hid⟩ := hpieces
  rw [segment_injective hindex, DocumentEndpoint.name_injective hendpoint, segment_injective hid]

theorem within_endpoint (index : String) {endpoint : String} (h : endpoint ≠ "") :
    Within index (Path.endpoint index endpoint) := .inr ⟨endpoint, h, rfl⟩

theorem within_document (index endpoint id : String) (h : endpoint ≠ "") :
    Within index (Path.document index endpoint id) := by
  refine .inr ⟨endpoint ++ ("/" ++ segment id), ?_, ?_⟩
  · intro hempty
    exact h (String.append_eq_empty_iff.mp hempty).1
  · simp only [Path.document, Path.endpoint, Path.index, String.append_assoc]

theorem within_raw (index path : String) : Within index (Path.raw index path) := by
  rw [Path.raw]
  split
  · exact .inl rfl
  · next rest hne =>
    refine within_endpoint index ?_
    intro hempty
    exact hne (by simpa using congrArg String.toList hempty)

/-- The slashes in front of a path that starts at an index do not count. -/
theorem raw_append_slashes (index path : String) (count : Nat) :
    Path.raw index (String.ofList (List.replicate count '/') ++ path) = Path.raw index path := by
  have hdrop : (String.ofList (List.replicate count '/') ++ path).toList.dropWhile (· = '/')
      = path.toList.dropWhile (· = '/') := by
    rw [String.toList_append, String.toList_ofList]
    refine List.dropWhile_append_of_pos ?_
    intro c hc
    simpa using List.eq_of_mem_replicate hc
  rw [Path.raw, Path.raw, hdrop]

end Path

namespace Call

variable {α : Type} {operation : Operation}

/-- The endpoint and the id of a call on one document. -/
def document? : Call α operation → Option (Path.DocumentEndpoint × String)
  | createWithId id _ => some (.document, id)
  | get id => some (.document, id)
  | update id _ => some (.update, id)
  | delete id => some (.document, id)
  | _ => none

theorem path_of_document? {call : Call α operation} {endpoint : Path.DocumentEndpoint} {id : String}
    (h : call.document? = some (endpoint, id)) (index : String) :
    call.path index = Path.document index endpoint.name id := by
  cases call <;> cases h <;> rfl

theorem within_path (call : Call α operation) (index : String) :
    Path.Within index (call.path index) := by
  cases call with
  | create document => exact Path.within_endpoint index (by decide)
  | createWithId id document => exact Path.within_document index "_doc" id (by decide)
  | get id => exact Path.within_document index "_doc" id (by decide)
  | search wanted => exact Path.within_endpoint index (by decide)
  | update id fields => exact Path.within_document index "_update" id (by decide)
  | delete id => exact Path.within_document index "_doc" id (by decide)
  | truncate => exact Path.within_endpoint index (by decide)
  | createIndex definition => exact .inl rfl
  | dropIndex => exact .inl rfl

end Call

/-! ## Requests -/

/-- The paths of the requests among events. -/
def Event.paths (events : List Event) : List String :=
  (Event.requests events).map fun sent => sent.2.path

namespace Collection

variable {α : Type} [Document α] {operation : Operation}

theorem paths_exchange_subset (connection : Connection)
    (respond : Transport → Request → Except Error Outcome) {request : Except Error Request}
    {path : String} (h : ∀ made, request = .ok made → made.path = path) :
    Event.paths (connection.exchange respond request).2 ⊆ [path] := by
  cases request with
  | error error => simp [Connection.exchange_error, Event.paths, Event.requests]
  | ok made =>
    have hpath : made.path = path := h made rfl
    cases hvia : connection.transport with
    | none => simp [Connection.exchange_unbound hvia, Event.paths, Event.requests]
    | some via => simp [Connection.exchange_bound hvia, Event.paths, hpath]

/-- A call is sent to its own path, if it is sent. -/
theorem paths_perform_subset (collection : Collection)
    (respond : Transport → Request → Except Error Outcome) (call : Call α operation) :
    Event.paths (collection.perform respond call).2 ⊆ [call.path collection.index] := by
  have hpath : ∀ made, call.request collection.index = .ok made →
      made.path = call.path collection.index := by
    intro made hmade
    obtain ⟨body, -, hrequest⟩ := Json.bind_eq_ok_iff.mp hmade
    cases hrequest
    rfl
  have hsent : Event.requests (collection.perform respond call).2 = Event.requests
      (collection.connection.exchange respond (call.request collection.index)).2 :=
    (perform_of_exchange rfl).2
  rw [Event.paths, hsent]
  exact paths_exchange_subset collection.connection respond hpath

/-- A query is sent to its own path, if it is sent. -/
theorem paths_query_subset (collection : Collection)
    (respond : Transport → Request → Except Error Outcome) (query : RawQuery) :
    Event.paths (collection.query respond query).2 ⊆ [Path.raw collection.index query.path] := by
  have hpath : ∀ made,
      (.ok (query.request collection.index) : Except Error Request) = .ok made →
        made.path = Path.raw collection.index query.path := by
    intro made hmade
    cases hmade
    rfl
  exact paths_exchange_subset collection.connection respond hpath

end Collection

open Text.Percent (utf8 segment decode Spelled InSegment)

/-- **Paths.** The segment of a text is made of characters that may stand in it and of escapes, and
decoding it gives the bytes of the text. So the path of a document falls into its segments at the
slashes, has no query and no fragment, and no other document has it. Each call and each query is
sent to a path at its index or below it, and the slashes in front of a query's path do not count. -/
theorem paths_keep_segments (α : Type) [Document α] :
    (∀ text, Spelled (segment text).toList ∧ decode (utf8 (segment text)) = utf8 text) ∧
      (∀ (index id : String) (endpoint : Path.DocumentEndpoint),
        let path := (Path.document index endpoint.name id).toList
        Text.pieces '/' path
            = [[], (segment index).toList, endpoint.name.toList, (segment id).toList] ∧
          '?' ∉ path ∧ '#' ∉ path) ∧
      (Function.Injective fun key : String × Path.DocumentEndpoint × String =>
        Path.document key.1 key.2.1.name key.2.2) ∧
      (∀ (collection : Collection) (respond : Transport → Request → Except Error Outcome)
        {operation : Operation} (call : Call α operation),
        Path.Within collection.index (call.path collection.index) ∧
          (call.document?.all fun target =>
            call.path collection.index
              = Path.document collection.index target.1.name target.2) ∧
          Event.paths (collection.perform respond call).2 ⊆ [call.path collection.index]) ∧
      (∀ (collection : Collection) (respond : Transport → Request → Except Error Outcome)
        (query : RawQuery),
        Path.Within collection.index (Path.raw collection.index query.path) ∧
          Event.paths (collection.query respond query).2
            ⊆ [Path.raw collection.index query.path]) ∧
      ∀ (index path : String) (count : Nat),
        Path.raw index (String.ofList (List.replicate count '/') ++ path)
          = Path.raw index path := by
  refine ⟨?segments, ?documents, Path.document_injective, ?calls, ?queries, Path.raw_append_slashes⟩
  case segments =>
    intro text
    exact ⟨Text.Percent.spelled_segment text, Text.Percent.decode_segment text⟩
  case documents =>
    intro index id endpoint path
    refine ⟨Path.pieces_document index id endpoint.slash_not_mem_name, ?_, ?_⟩
    · exact Path.not_mem_document (by decide) (by decide) index id (by cases endpoint <;> decide)
    · exact Path.not_mem_document (by decide) (by decide) index id (by cases endpoint <;> decide)
  case calls =>
    intro collection respond operation call
    refine ⟨call.within_path collection.index, ?_, collection.paths_perform_subset respond call⟩
    cases hdocument : call.document? with
    | none => rfl
    | some target =>
      have hpath := Call.path_of_document? hdocument collection.index
      simpa using hpath
  case queries =>
    intro collection respond query
    exact ⟨Path.within_raw collection.index query.path, collection.paths_query_subset respond query⟩

end DocSearch
