/-
What calls and queries ask for. The requests of calls are stated as a table, one line for each call,
and so are the reasons for which there is no request (`Asks`, `Unmade`): a value that cannot be
written, or a where-clause that holds a number without JSON form. One of them always applies, and the
connection has no part in it.
-/
import DocSearch.Collection
import Mathlib.Data.List.TakeWhile
import Mathlib.Logic.Basic

namespace DocSearch

open Text.Percent (segment)

/-! ## Where-clauses that can be sent -/

/-- A filter that can be sent: it is no number that is infinite or NaN. -/
def Filter.Sendable (filter : Filter) : Prop :=
  ∀ x, filter = .literal (.float x) → x.IsFinite

namespace Filter

theorem isFinite_of_sendable {value : Literal} (h : (Filter.literal value).Sendable) :
    value.IsFinite := by
  cases value with
  | float x => exact h x rfl
  | _ => trivial

theorem check_of_sendable {filter : Filter} (h : filter.Sendable) : filter.check = .ok () := by
  cases filter with
  | literal value =>
    have hfinite : value.IsFinite := by
      cases value with
      | float x => exact h x rfl
      | _ => trivial
    rw [check, if_pos hfinite]
  | _ => rfl

theorem check_float {x : Double} (h : ¬ x.IsFinite) :
    check (.literal (.float x)) = .error (.notFinite (.float x)) := by
  have hfinite : ¬ (Literal.float x).IsFinite := h
  rw [check, if_neg hfinite]

theorem sendable_or (filter : Filter) :
    filter.Sendable ∨ ∃ x : Double, filter = .literal (.float x) ∧ ¬ x.IsFinite := by
  by_cases h : filter.Sendable
  · exact .inl h
  · simp only [Sendable, not_forall] at h
    obtain ⟨x, hx, hfinite⟩ := h
    exact .inr ⟨x, hx, hfinite⟩

end Filter

namespace Where

/-- Every filter can be sent. -/
def Sendable (clause : Where) : Prop := ∀ entry ∈ clause.toList, entry.2.Sendable

/-- The first filter that cannot be sent is the number `x` on `field`. -/
def FirstUnsendable (clause : Where) (field : String) (x : Double) : Prop :=
  ∃ before after, clause.toList = before ++ (field, .literal (.float x)) :: after ∧
    (∀ entry ∈ before, entry.2.Sendable) ∧ ¬ x.IsFinite

theorem checkFields_append {before after : List (String × Filter)}
    (h : ∀ entry ∈ before, entry.2.Sendable) :
    checkFields (before ++ after) = checkFields after := by
  induction before with
  | nil => rfl
  | cons entry before ih =>
    obtain ⟨field, filter⟩ := entry
    have hfilter : filter.check = .ok () := Filter.check_of_sendable (h (field, filter) (by simp))
    rw [List.cons_append, checkFields, hfilter]
    exact ih fun entry hentry => h entry (by simp [hentry])

theorem sendable_or (entries : List (String × Filter)) :
    (∀ entry ∈ entries, entry.2.Sendable) ∨ ∃ before field x after,
      entries = before ++ (field, .literal (.float x)) :: after ∧
        (∀ entry ∈ before, entry.2.Sendable) ∧ ¬ x.IsFinite := by
  induction entries with
  | nil => exact .inl (by simp)
  | cons entry entries ih =>
    obtain ⟨field, filter⟩ := entry
    rcases filter.sendable_or with hfilter | ⟨x, rfl, hx⟩
    · rcases ih with hall | ⟨before, name, x, after, rfl, hbefore, hx⟩
      · exact .inl (by simpa using ⟨hfilter, fun field filter h => hall (field, filter) h⟩)
      · exact .inr ⟨(field, filter) :: before, name, x, after, rfl,
          by simpa using ⟨hfilter, fun field filter h => hbefore (field, filter) h⟩, hx⟩
    · exact .inr ⟨[], field, x, entries, rfl, by simp, hx⟩

theorem validate_of_sendable {clause : Where} (h : clause.Sendable) : clause.validate = .ok () := by
  have hall : checkFields (clause.toList ++ []) = checkFields [] := checkFields_append h
  rw [List.append_nil] at hall
  exact hall

theorem validate_of_firstUnsendable {clause : Where} {field : String} {x : Double}
    (h : clause.FirstUnsendable field x) :
    clause.validate = .error ⟨field, .notFinite (.float x)⟩ := by
  obtain ⟨before, after, hlist, hbefore, hx⟩ := h
  rw [validate, hlist, checkFields_append hbefore, checkFields, Filter.check_float hx]
  rfl

theorem sendable_or_firstUnsendable (clause : Where) :
    clause.Sendable ∨ ∃ field x, clause.FirstUnsendable field x := by
  rcases sendable_or clause.toList with h | ⟨before, field, x, after, hlist, hbefore, hx⟩
  · exact .inl h
  · exact .inr ⟨field, x, before, after, hlist, hbefore, hx⟩

theorem sendable_of_validate {clause : Where} (h : clause.validate = .ok ()) : clause.Sendable := by
  rcases clause.sendable_or_firstUnsendable with hsendable | ⟨field, x, hfirst⟩
  · exact hsendable
  · rw [validate_of_firstUnsendable hfirst] at h
    cases h

end Where

/-! ## Requests -/

namespace Call

variable {α : Type} [Document α] {operation : Operation}

/-- The body of a search. -/
def searchBody (wanted : Search) : Json :=
  .object (Json.optional "from" (wanted.offset.map Json.ofUInt64)
    ++ Json.optional "size" (wanted.limit.map Json.ofUInt64)
    ++ [("query", wanted.filters.toQuery.orMatchAll.toJson)])

/-- The request that a call on an index asks for. -/
inductive Asks (index : String) : {operation : Operation} → Call α operation → Request → Prop
  | create {document : α} {json : Json} : Document.toJson document = .ok json →
      Asks index (.create document) ⟨.post, "/" ++ segment index ++ "/_doc", some json⟩
  | createWithId {id : String} {document : α} {json : Json} : Document.toJson document = .ok json →
      Asks index (.createWithId id document)
        ⟨.post, "/" ++ segment index ++ "/_doc/" ++ segment id, some json⟩
  | get {id : String} :
      Asks index (.get id) ⟨.get, "/" ++ segment index ++ "/_doc/" ++ segment id, none⟩
  | search {wanted : Search} : wanted.filters.Sendable →
      Asks index (.search wanted)
        ⟨.get, "/" ++ segment index ++ "/_search", some (searchBody wanted)⟩
  | update {id : String} {fields : Json} :
      Asks index (.update id (.ok fields))
        ⟨.post, "/" ++ segment index ++ "/_update/" ++ segment id, some (.single "doc" fields)⟩
  | delete {id : String} :
      Asks index (.delete id) ⟨.delete, "/" ++ segment index ++ "/_doc/" ++ segment id, none⟩
  | truncate :
      Asks index .truncate ⟨.post, "/" ++ segment index ++ "/_delete_by_query",
        some (.single "query" (.single "match_all" (.object [])))⟩
  | createIndex {definition : IndexDefinition} :
      Asks index (.createIndex definition) ⟨.put, "/" ++ segment index, some definition.toJson⟩
  | dropIndex : Asks index .dropIndex ⟨.delete, "/" ++ segment index, none⟩

/-- The error of a call whose request cannot be made. -/
inductive Unmade : {operation : Operation} → Call α operation → Error → Prop
  | create {document : α} {cause : EncodeError} : Document.toJson document = .error cause →
      Unmade (.create document) (.serialization (.writing cause))
  | createWithId {id : String} {document : α} {cause : EncodeError} :
      Document.toJson document = .error cause →
      Unmade (.createWithId id document) (.serialization (.writing cause))
  | search {wanted : Search} {field : String} {x : Double} :
      wanted.filters.FirstUnsendable field x →
      Unmade (.search wanted) (.unsupportedFilter ⟨field, .notFinite (.float x)⟩)
  | update {id : String} {cause : EncodeError} :
      Unmade (.update id (.error cause)) (.serialization (.writing cause))

/-- The request of a call whose body can be made. -/
theorem request_of_body {call : Call α operation} {body : Option Json} (h : call.body = .ok body)
    (index : String) : call.request index = .ok ⟨call.method, call.path index, body⟩ := by
  rw [request, h]
  rfl

theorem path_endpoint (index endpoint : String) :
    Path.endpoint index endpoint = "/" ++ segment index ++ ("/" ++ endpoint) := by
  simp only [Path.endpoint, Path.index, String.append_assoc]

theorem path_document (index endpoint id : String) :
    Path.document index endpoint id
      = "/" ++ segment index ++ ("/" ++ endpoint ++ "/") ++ segment id := by
  simp only [Path.document, Path.endpoint, Path.index, String.append_assoc]

theorem request_of_asks {index : String} {call : Call α operation} {request : Request}
    (h : Asks index call request) : call.request index = .ok request := by
  cases h with
  | @create document json hjson =>
    have hbody : (create document).body = .ok (some json) := by rw [body, hjson, encoded]
    rw [request_of_body hbody, path, path_endpoint]
    rfl
  | @createWithId id document json hjson =>
    have hbody : (createWithId id document).body = .ok (some json) := by rw [body, hjson, encoded]
    rw [request_of_body hbody, path, path_document]
    rfl
  | get => rw [request_of_body rfl, path, path_document]; rfl
  | @search wanted hsend =>
    have hbody : (search wanted : Call α .search).body = .ok (some (searchBody wanted)) := by
      rw [body, Search.toJson, Where.validate_of_sendable hsend]
      rfl
    rw [request_of_body hbody, path, path_endpoint]
    rfl
  | update => rw [request_of_body rfl, path, path_document]; rfl
  | delete => rw [request_of_body rfl, path, path_document]; rfl
  | truncate => rw [request_of_body rfl, path, path_endpoint]; rfl
  | createIndex => rfl
  | dropIndex => rfl

theorem request_of_unmade {call : Call α operation} {error : Error} (h : Unmade call error)
    (index : String) : call.request index = .error error := by
  cases h with
  | create hcause => rw [request, body, hcause]; rfl
  | createWithId hcause => rw [request, body, hcause]; rfl
  | search hfirst =>
    rw [request, body, Search.toJson, Where.validate_of_firstUnsendable hfirst]
    rfl
  | update => rfl

/-- A call asks for a request, or its request cannot be made. -/
theorem asks_or_unmade (index : String) (call : Call α operation) :
    (∃ request, Asks index call request) ∨ ∃ error, Unmade call error := by
  cases call with
  | create document =>
    cases h : Document.toJson document with
    | ok json => exact .inl ⟨_, .create h⟩
    | error cause => exact .inr ⟨_, .create h⟩
  | createWithId id document =>
    cases h : Document.toJson document with
    | ok json => exact .inl ⟨_, .createWithId h⟩
    | error cause => exact .inr ⟨_, .createWithId h⟩
  | search wanted =>
    rcases wanted.filters.sendable_or_firstUnsendable with h | ⟨field, x, h⟩
    · exact .inl ⟨_, .search h⟩
    · exact .inr ⟨_, .search h⟩
  | update id fields =>
    cases fields with
    | ok json => exact .inl ⟨_, .update⟩
    | error cause => exact .inr ⟨_, .update⟩
  | get id => exact .inl ⟨_, .get⟩
  | delete id => exact .inl ⟨_, .delete⟩
  | truncate => exact .inl ⟨_, .truncate⟩
  | createIndex definition => exact .inl ⟨_, .createIndex⟩
  | dropIndex => exact .inl ⟨_, .dropIndex⟩

theorem request_eq_ok_iff {index : String} {call : Call α operation} {request : Request} :
    call.request index = .ok request ↔ call.Asks index request := by
  refine ⟨fun h => ?_, request_of_asks⟩
  rcases call.asks_or_unmade index with ⟨made, hasks⟩ | ⟨error, hunmade⟩
  · cases (request_of_asks hasks).symm.trans h
    exact hasks
  · cases (request_of_unmade hunmade index).symm.trans h

end Call

namespace RawQuery

/-- The request that a query on an index asks for. The slashes in front of its path do not count. -/
inductive Asks (index : String) (query : RawQuery) : Request → Prop
  | itself : (∀ c ∈ query.path.toList, c = '/') →
      Asks index query ⟨query.method, "/" ++ segment index, query.body⟩
  | below {slashes rest : List Char} {c : Char} : query.path.toList = slashes ++ c :: rest →
      (∀ slash ∈ slashes, slash = '/') → c ≠ '/' →
      Asks index query
        ⟨query.method, "/" ++ segment index ++ "/" ++ String.ofList (c :: rest), query.body⟩

theorem asks_iff {index : String} {query : RawQuery} {request : Request} :
    query.Asks index request ↔ request = query.request index := by
  constructor
  · rintro (hall | ⟨hpath, hslashes, hc⟩)
    · have hdrop : query.path.toList.dropWhile (· = '/') = [] :=
        List.dropWhile_eq_nil_iff.mpr (by simpa using hall)
      rw [RawQuery.request, Path.raw, hdrop]
      rfl
    · rw [RawQuery.request, Path.raw, hpath, List.dropWhile_append_of_pos (by simpa using hslashes),
        List.dropWhile_cons_of_neg (by simpa using hc)]
      rfl
  · rintro rfl
    have hsplit := List.takeWhile_append_dropWhile (p := (· = '/')) (l := query.path.toList)
    rw [RawQuery.request, Path.raw]
    cases hdrop : query.path.toList.dropWhile (· = '/') with
    | nil => exact .itself (by simpa using List.dropWhile_eq_nil_iff.mp hdrop)
    | cons c rest =>
      rw [hdrop] at hsplit
      refine .below hsplit.symm ?_ ?_
      · intro slash hslash
        simpa using List.mem_takeWhile_imp hslash
      · have hhead := List.head?_dropWhile_not (· = '/') query.path.toList
        rw [hdrop] at hhead
        simpa using hhead

end RawQuery

end DocSearch
