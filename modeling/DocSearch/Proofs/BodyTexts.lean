/-
The bodies that texts stand for, and the texts that bodies are written as.

A text that was written for a value stands for that value again: the scanner finds the value's
tokens in it, and the reader the value in its tokens. Every other body is a text that is refused,
kept whole, or null for a blank one; these are values without floats and without depth, so they are
written and read back as well.

Two notions of a blank meet here. The scanner skips four characters, the body is null for many more.
No value is read from a text of the wider kind: each of its characters is skipped or begins no
token, so no token is left to read a value from.
-/
import DocSearch.Proofs.FailedAnswers
import DocSearch.Proofs.ReadTokens

namespace DocSearch

open Json (maxDepth parse? parseWithin?)

theorem Text.isBlank_of_isDigit {c : Char} (h : c.isDigit = true) : isBlank c = false := by
  have hcode : 48 ≤ c.toNat ∧ c.toNat ≤ 57 := by
    simpa [Char.isDigit, UInt32.le_iff_toNat_le] using h
  have hapart : ∀ range ∈ blankRanges, range.2 < 48 ∨ 57 < range.1 := by decide
  rw [isBlank, inRanges, List.any_eq_false]
  intro range hrange
  have := hapart range hrange
  simp only [Bool.and_eq_true, decide_eq_true_eq]
  omega

namespace Json

/-! ## Blank texts -/

namespace Scanner

/-- A blank character is skipped, or it begins no token. -/
theorem start_of_isBlank {c : Char} (h : Text.isBlank c = true) :
    start c = some ([], .between) ∨ start c = none := by
  by_cases hspace : isSpace c = true
  · exact .inl (by simp [start, hspace])
  · have hdigit : c.isDigit = false := by
      refine Bool.eq_false_iff.mpr fun hdigit => ?_
      rw [Text.isBlank_of_isDigit hdigit] at h
      cases h
    have hmark : c ∉ ['"', '[', ']', '\x7b', '\x7d', ':', ',', 'n', 't', 'f', '-'] := by
      intro hmem
      simp only [List.mem_cons, List.not_mem_nil, or_false] at hmem
      rcases hmem with rfl | rfl | rfl | rfl | rfl | rfl | rfl | rfl | rfl | rfl | rfl <;>
        exact absurd h (by decide)
    simp only [List.mem_cons, List.not_mem_nil, or_false, not_or] at hmark
    exact .inr (by simp [start, hspace, hdigit, hmark])

theorem scan_of_blank {cs : List Char} (h : ∀ c ∈ cs, Text.isBlank c = true) :
    scan .between cs = some [] ∨ scan .between cs = none := by
  induction cs with
  | nil => exact .inl rfl
  | cons c cs ih =>
    obtain ⟨hc, hcs⟩ := List.forall_mem_cons.mp h
    rcases start_of_isBlank hc with hskip | hnone
    · have hstep : step .between c = some ([], .between) := hskip
      rw [scan_cons_of_nil hstep]
      exact ih hcs
    · have hstep : step .between c = none := hnone
      exact .inr (by rw [scan, hstep]; rfl)

end Scanner

theorem parse?_of_allBlank {text : String} (h : Text.allBlank text = true) :
    parse? text = none := by
  have hblank : ∀ c ∈ text.toList, Text.isBlank c = true := List.all_eq_true.mp h
  rw [parse?, parseWithin?]
  rcases Scanner.scan_of_blank hblank with hscan | hscan
  · rw [hscan]
    rfl
  · rw [hscan]
    rfl

/-! ## Written texts -/

/-- A value without floats is read from its text, whatever blanks stand around it. -/
theorem parse?_ofList_chars {value : Json} (hwhole : value.Whole) (hfits : value.Fits maxDepth 0)
    {before after : List Char} (hbefore : ∀ c ∈ before, Scanner.isSpace c = true)
    (hafter : ∀ c ∈ after, Scanner.isSpace c = true) :
    parse? (String.ofList (before ++ value.chars ++ after)) = some value := by
  have hends : Scanner.EndsNumber after := by
    intro c hc
    have hspace : Scanner.isSpace c = true := hafter c (List.mem_of_mem_head? hc)
    simp only [Scanner.isSpace, Bool.or_eq_true, decide_eq_true_eq] at hspace
    rcases hspace with ((rfl | rfl) | rfl) | rfl <;> decide
  have hrest : Scanner.scan .between after = some [] := by
    rw [← List.append_nil after, Scanner.scan_spaces hafter]
    rfl
  have hscan : Scanner.scan .between (before ++ value.chars ++ after) = some value.tokens := by
    rw [List.append_assoc, Scanner.scan_spaces hbefore, Scanner.scan_chars hwhole hends, hrest]
    simp
  have hread : Stage.read maxDepth [] .awaitValue (value.tokens ++ []) = some value :=
    Stage.read_tokens hfits.1 (by simpa using hfits.2)
  rw [List.append_nil] at hread
  rw [parse?, parseWithin?, String.toList_ofList, hscan]
  exact hread

theorem parse?_render {value : Json} (hwhole : value.Whole) (hfits : value.Fits maxDepth 0) :
    parse? value.render = some value := by
  have hnone : ∀ c ∈ ([] : List Char), Scanner.isSpace c = true := by simp
  simpa [render] using parse?_ofList_chars hwhole hfits hnone hnone

/-- The text is refused, or what it stands for has no float. -/
def FloatFree (text : String) : Prop := ∀ value, parse? text = some value → value.Whole

end Json

namespace Outcome

/-! ## Bodies -/

theorem bodyOfText_of_allBlank {text : String} (h : Text.allBlank text = true) :
    bodyOfText text = .null := by
  rw [bodyOfText, if_pos h]

theorem bodyOfText_of_parse? {text : String} {value : Json} (h : parse? text = some value) :
    bodyOfText text = value := by
  have hblank : ¬ Text.allBlank text = true := by
    intro hblank
    rw [Json.parse?_of_allBlank hblank] at h
    cases h
  rw [bodyOfText, if_neg hblank, h]
  rfl

theorem bodyOfText_of_refused {text : String} (hblank : Text.allBlank text = false)
    (h : parse? text = none) : bodyOfText text = .string text := by
  rw [bodyOfText, hblank, h]
  rfl

/-- A body is null, a value that was read, or a text that was not. -/
theorem bodyOfText_cases (text : String) :
    bodyOfText text = .null ∨ parse? text = some (bodyOfText text) ∨
      bodyOfText text = .string text := by
  cases hblank : Text.allBlank text with
  | true => exact .inl (bodyOfText_of_allBlank hblank)
  | false =>
    cases hread : parse? text with
    | none => exact .inr (.inr (bodyOfText_of_refused hblank hread))
    | some value => exact .inr (.inl (by rw [bodyOfText_of_parse? hread]))

theorem fits_bodyOfText (text : String) : (bodyOfText text).Fits maxDepth 0 := by
  rcases bodyOfText_cases text with hnull | hread | hkept
  · rw [hnull]
    exact ⟨trivial, Nat.zero_le maxDepth⟩
  · exact Json.fits_of_parseWithin? hread
  · rw [hkept]
    exact ⟨trivial, Nat.zero_le maxDepth⟩

theorem whole_bodyOfText {text : String} (h : Json.FloatFree text) : (bodyOfText text).Whole := by
  rcases bodyOfText_cases text with hnull | hread | hkept
  · rw [hnull]
    trivial
  · exact h _ hread
  · rw [hkept]
    trivial

/-- A body without floats is read from its own text. -/
theorem parse?_render_bodyOfText {text : String} (h : Json.FloatFree text) :
    parse? (bodyOfText text).render = some (bodyOfText text) :=
  Json.parse?_render (whole_bodyOfText h) (fits_bodyOfText text)

/-! ## Bodies in errors -/

variable {α : Type} [Document α]

theorem body_of_failure_eq_http {outcome : Outcome} {status : UInt16} {body : Json}
    (h : outcome.failure = .http status body) : body = outcome.body := by
  cases failure_eq_iff.mp h with
  | http => rfl

/-- An error that an operation or a raw query makes of the answer. -/
def Raises (α : Type) [Document α] (outcome : Outcome) (error : Error) : Prop :=
  outcome.orRefused = .error error ∨
    ∃ operation, outcome.resultFor (α := α) operation = .error error

/-- An error that carries a body carries that of the answer. -/
theorem Raises.body_eq {outcome : Outcome} {status : UInt16} {body : Json}
    (h : outcome.Raises α (.http status body)) : body = outcome.body := by
  cases hsuccess : outcome.isSuccess with
  | true =>
    rcases h with hquery | ⟨operation, hresult⟩
    · simp [orRefused, hsuccess] at hquery
    · rw [resultFor_of_isSuccess hsuccess, Json.mapError_eq_error_iff] at hresult
      obtain ⟨cause, -, hcause⟩ := hresult
      cases hcause
  | false =>
    rcases h with hquery | ⟨operation, hresult⟩
    · simp only [orRefused, hsuccess, Bool.false_eq_true, if_false] at hquery
      cases hquery
      rfl
    · cases hrecovered : outcome.recovered? (α := α) operation with
      | some result =>
        rw [resultFor_of_recovered hsuccess hrecovered] at hresult
        cases hresult
      | none =>
        rw [resultFor_of_failure hsuccess hrecovered] at hresult
        exact body_of_failure_eq_http (Except.error.inj hresult)

/-- **The body of a written text is what was written.** A blank text is null, and one that is
refused is kept whole. A body without floats is therefore the body of its own text, also where an
error carries it. -/
theorem bodyOfText_readsBack :
    (∀ (value : Json) (before after : String), value.Whole → value.WellFormed →
      value.depth ≤ 127 → (∀ c ∈ before.toList ++ after.toList, Json.Scanner.isSpace c = true) →
      bodyOfText (before ++ value.render ++ after) = value) ∧
    (∀ text, Text.allBlank text = true → bodyOfText text = .null) ∧
    (∀ text, Text.allBlank text = false → parse? text = none → bodyOfText text = .string text) ∧
    ∀ text, Json.FloatFree text →
      parse? (bodyOfText text).render = some (bodyOfText text) ∧
      bodyOfText (bodyOfText text).render = bodyOfText text ∧
      ∀ status reported body,
        (Outcome.mk status (bodyOfText text)).Raises α (.http reported body) →
        body = bodyOfText text ∧ bodyOfText body.render = body := by
  refine ⟨fun value before after hwhole hwell hdepth hspaces => ?_,
    fun text => bodyOfText_of_allBlank, fun text => bodyOfText_of_refused,
    fun text hfree => ⟨parse?_render_bodyOfText hfree,
      bodyOfText_of_parse? (parse?_render_bodyOfText hfree), fun status reported body h => ?_⟩⟩
  · obtain ⟨hbefore, hafter⟩ := List.forall_mem_append.mp hspaces
    have hfits : value.Fits maxDepth 0 := ⟨hwell, by rwa [Nat.zero_add]⟩
    have htext : before ++ value.render ++ after
        = String.ofList (before.toList ++ value.chars ++ after.toList) := by
      simp [Json.render, String.ofList_append, String.append_assoc]
    rw [htext]
    exact bodyOfText_of_parse? (Json.parse?_ofList_chars hwhole hfits hbefore hafter)
  · obtain rfl : body = bodyOfText text := h.body_eq
    exact ⟨rfl, bodyOfText_of_parse? (parse?_render_bodyOfText hfree)⟩

/-- A film with an awkward title, between blanks; and a refused text that a failure carries. -/
theorem bodyOfText_readsBack_film :
    let film : Json := .object [("title", .string "\"Alien\"\n"), ("year", .ofInt64 1979),
      ("bounds", .array [.ofInt64 (-9223372036854775808), .ofUInt64 18446744073709551615])]
    (film.Whole ∧ film.WellFormed ∧ film.depth ≤ 127 ∧
      (∀ c ∈ "\n ".toList ++ "\t".toList, Json.Scanner.isSpace c = true) ∧
      bodyOfText ("\n " ++ film.render ++ "\t") = film) ∧
    (Text.allBlank "Bad Gateway" = false ∧ parse? "Bad Gateway" = none ∧
      (Outcome.mk 502 (.string "Bad Gateway")).Raises Json (.http 502 (.string "Bad Gateway")) ∧
      bodyOfText (Json.string "Bad Gateway").render = .string "Bad Gateway") := by
  intro film
  have hwhole : film.Whole := ⟨trivial, trivial, ⟨trivial, trivial, trivial⟩, trivial⟩
  have hwell : film.WellFormed :=
    ⟨by decide +kernel, trivial, trivial, ⟨trivial, trivial, trivial⟩, trivial⟩
  have hdepth : film.depth ≤ 127 := by decide +kernel
  have hspaces : ∀ c ∈ "\n ".toList ++ "\t".toList, Json.Scanner.isSpace c = true :=
    List.all_eq_true.mp (by decide +kernel)
  obtain ⟨hwritten, -, hkept, hagain⟩ := bodyOfText_readsBack (α := Json)
  have hblank : Text.allBlank "Bad Gateway" = false := by decide +kernel
  have hrefused : parse? "Bad Gateway" = none := by decide +kernel
  have hbody : bodyOfText "Bad Gateway" = .string "Bad Gateway" := hkept _ hblank hrefused
  have hfree : Json.FloatFree "Bad Gateway" := by
    intro value hread
    rw [hrefused] at hread
    cases hread
  have hraised : (Outcome.mk 502 (.string "Bad Gateway")).Raises Json
      (.http 502 (.string "Bad Gateway")) := .inl rfl
  have hreread := (hagain _ hfree).2.2 502 502 (.string "Bad Gateway") (by rwa [hbody])
  exact ⟨⟨hwhole, hwell, hdepth, hspaces, hwritten film "\n " "\t" hwhole hwell hdepth hspaces⟩,
    hblank, hrefused, hraised, hreread.2⟩

end Outcome

end DocSearch
