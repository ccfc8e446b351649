/-
What insertions make of the containers of named values: where-clauses, searches, range conditions
and mappings.

A container owes three facts (`Container.Lawful`): one insertion sets its entry as `Entries.set`
does, it leaves everything else that the container holds alone, and there is nothing more to a
container than its entries and that. From the first two, a run of insertions leaves the latest
entries (`Lawful.entries_insertAll`); what is true of these (`LatestEntries`) is then true of every
container.
-/
import DocSearch.Index.Mapping
import DocSearch.Proofs.SearchBodies

namespace DocSearch

/-- A kind of container: the named values of a container, what else it holds, and how a value is
inserted. -/
structure Container (σ ρ α : Type) where
  entries : σ → List (String × α)
  rest : σ → ρ
  insert : σ → String → α → σ

namespace Container

variable {σ ρ α : Type} {kind : Container σ ρ α} {start : σ}

/-- Inserts values one after the other. -/
def insertAll (kind : Container σ ρ α) (start : σ) (added : List (String × α)) : σ :=
  added.foldl (fun state entry => kind.insert state entry.1 entry.2) start

/-- A value is set among the entries and goes nowhere else. -/
structure Lawful (kind : Container σ ρ α) : Prop where
  entries_insert : ∀ state name value,
    kind.entries (kind.insert state name value) = Entries.set name value (kind.entries state)
  rest_insert : ∀ state name value, kind.rest (kind.insert state name value) = kind.rest state
  ext : ∀ {state other}, kind.entries state = kind.entries other →
    kind.rest state = kind.rest other → state = other

/-- Insertions into `start` keep one value for each name, and the names in order. -/
structure KeepsOrder (kind : Container σ ρ α) (start : σ) : Prop where
  /-- No name stands twice. -/
  nodup : ∀ added, (Entries.names (kind.entries (kind.insertAll start added))).Nodup
  /-- The names are those that were inserted. -/
  mem_names_iff : ∀ added name,
    name ∈ Entries.names (kind.entries (kind.insertAll start added)) ↔ name ∈ Entries.names added
  /-- They stand in the order in which they were first inserted. -/
  ordered : ∀ added, (Entries.names (kind.entries (kind.insertAll start added))).Pairwise
    fun a b => (Entries.names added).idxOf a < (Entries.names added).idxOf b
  /-- A name has the value that was inserted under it last. -/
  mem_iff : ∀ added name value, (name, value) ∈ kind.entries (kind.insertAll start added) ↔
    Entries.Current added name value
  /-- Nothing else is touched. -/
  rest_eq : ∀ added, kind.rest (kind.insertAll start added) = kind.rest start
  /-- A second time, the same insertions change nothing. -/
  again : ∀ added,
    kind.insertAll (kind.insertAll start added) added = kind.insertAll start added
  /-- Insertions may be made in two goes. -/
  append : ∀ added more,
    kind.insertAll start (added ++ more) = kind.insertAll (kind.insertAll start added) more
  /-- Two insertions in a row under different names may change places: at most the order of the
  entries is another, and it is the same if one of the names came before. -/
  swap : ∀ before a b after, a.1 ≠ b.1 →
    (kind.entries (kind.insertAll start (before ++ a :: b :: after))).Perm
        (kind.entries (kind.insertAll start (before ++ b :: a :: after))) ∧
      (a.1 ∈ Entries.names before ∨ b.1 ∈ Entries.names before →
        kind.insertAll start (before ++ a :: b :: after)
          = kind.insertAll start (before ++ b :: a :: after))

theorem insertAll_cons (kind : Container σ ρ α) (start : σ) (entry : String × α)
    (added : List (String × α)) :
    kind.insertAll start (entry :: added)
      = kind.insertAll (kind.insert start entry.1 entry.2) added := rfl

theorem insertAll_append (kind : Container σ ρ α) (start : σ) (added more : List (String × α)) :
    kind.insertAll start (added ++ more) = kind.insertAll (kind.insertAll start added) more :=
  List.foldl_append

namespace Lawful

theorem entries_insertAll (h : kind.Lawful) (start : σ) (added : List (String × α)) :
    kind.entries (kind.insertAll start added) = Entries.setAll (kind.entries start) added := by
  induction added generalizing start with
  | nil => rfl
  | cons entry added ih => rw [insertAll_cons, ih, h.entries_insert, Entries.setAll_cons]

theorem rest_insertAll (h : kind.Lawful) (start : σ) (added : List (String × α)) :
    kind.rest (kind.insertAll start added) = kind.rest start := by
  induction added generalizing start with
  | nil => rfl
  | cons entry added ih => rw [insertAll_cons, ih, h.rest_insert]

/-- Insertions come to the same if they leave the same entries. -/
theorem insertAll_eq (h : kind.Lawful) {added other : List (String × α)}
    (hentries : kind.entries (kind.insertAll start added)
      = kind.entries (kind.insertAll start other)) :
    kind.insertAll start added = kind.insertAll start other :=
  h.ext hentries (by rw [h.rest_insertAll, h.rest_insertAll])

/-- **Insertions into a container without entries** keep each name once, where it was first
inserted, with the value that was inserted last. -/
theorem keepsOrder (h : kind.Lawful) (hstart : kind.entries start = []) : kind.KeepsOrder start := by
  have hentries : ∀ added, kind.entries (kind.insertAll start added) = Entries.latest added := by
    intro added
    rw [h.entries_insertAll, hstart, Entries.setAll_eq_latest]
  exact {
    nodup := fun added => by
      rw [hentries]
      exact Entries.nodup_latest added
    mem_names_iff := fun added name => by
      rw [hentries, Entries.names_latest, List.mem_eraseDups]
    ordered := fun added => by
      rw [hentries, Entries.names_latest]
      exact Entries.pairwise_idxOf_eraseDups _
    mem_iff := fun added name value => by
      rw [hentries, Entries.current_iff_mem_latest]
    rest_eq := h.rest_insertAll start
    again := fun added => by
      rw [← insertAll_append]
      apply h.insertAll_eq
      rw [hentries, hentries, Entries.latest_append_self]
    append := kind.insertAll_append start
    swap := fun before a b after hne => by
      rw [hentries, hentries]
      refine ⟨Entries.latest_swap_perm hne before after, fun hmem => ?_⟩
      apply h.insertAll_eq
      rw [hentries, hentries, Entries.latest_swap_of_mem hne hmem] }

end Lawful

end Container

/-! ## The containers -/

namespace Fields

/-- Entries whose names differ, and nothing else. -/
def container (α : Type) : Container (Fields α) Unit α := ⟨entries, fun _ => (), insert⟩

theorem lawful_container (α : Type) : (container α).Lawful where
  entries_insert := entries_insert
  rest_insert _ _ _ := rfl
  ext hentries _ := ext_entries hentries

end Fields

namespace Where

/-- Where-clauses hold filters and nothing else. -/
def container : Container Where Unit Filter := ⟨toList, fun _ => (), insert⟩

theorem lawful_container : container.Lawful where
  entries_insert := toList_insert
  rest_insert _ _ _ := rfl
  ext hentries _ := eq_of_toList hentries

theorem insertAll_empty (filters : List (String × Filter)) :
    container.insertAll .empty filters = ofList filters := by
  refine eq_of_toList ?_
  rw [toList_ofList]
  exact lawful_container.entries_insertAll .empty filters

end Where

namespace Search

/-- Searches hold the filters of their where-clauses, and a page. -/
def container : Container Search (Option UInt64 × Option UInt64) Filter :=
  ⟨fun wanted => wanted.filters.toList, fun wanted => (wanted.limit, wanted.offset), filter⟩

theorem lawful_container : container.Lawful where
  entries_insert _ _ _ := rfl
  rest_insert _ _ _ := rfl
  ext := fun {wanted other} hfilters hpage => by
    obtain ⟨filters, limit, offset⟩ := wanted
    obtain ⟨others, otherLimit, otherOffset⟩ := other
    obtain rfl : filters = others := Where.eq_of_toList hfilters
    obtain ⟨rfl, rfl⟩ := Prod.mk.inj hpage
    rfl

theorem insertAll_page (limit offset : Option UInt64) (filters : List (String × Filter)) :
    container.insertAll { limit, offset } filters = { filters := .ofList filters, limit, offset } :=
  filterAll_ofList [] filters limit offset

end Search

namespace Mapping

/-- Mappings hold fields, and say what happens to others. -/
def container : Container Mapping (Option String) FieldMapping := ⟨properties, dynamic, insert⟩

theorem lawful_container : container.Lawful where
  entries_insert _ _ _ := rfl
  rest_insert _ _ _ := rfl
  ext := fun {mapping other} hproperties hdynamic => by
    obtain ⟨properties, dynamic⟩ := mapping
    obtain rfl : properties = other.properties := hproperties
    obtain rfl : dynamic = other.dynamic := hdynamic
    rfl

end Mapping

/-- **Where-clauses, range conditions and mappings keep their entries alike**, however many values
are inserted: each name once, where it was first inserted, with the value that was inserted last.
So do searches, into which filters go as into where-clauses, whatever page they ask for. Filters that
are given all at once count as inserted one after the other. -/
theorem containers_keepOrder :
    Where.container.KeepsOrder .empty ∧
    (∀ limit offset, Search.container.KeepsOrder { limit, offset }) ∧
    (Fields.container RangeOptions).KeepsOrder .empty ∧
    (∀ dynamic, Mapping.container.KeepsOrder { dynamic }) ∧
    ∀ filters, Where.ofList filters = Where.container.insertAll .empty filters ∧
      ∀ limit offset, Search.container.insertAll { limit, offset } filters
        = { filters := .ofList filters, limit, offset } :=
  ⟨Where.lawful_container.keepsOrder rfl,
    fun _ _ => Search.lawful_container.keepsOrder rfl,
    (Fields.lawful_container RangeOptions).keepsOrder rfl,
    fun _ => Mapping.lawful_container.keepsOrder rfl,
    fun filters => ⟨(Where.insertAll_empty filters).symm,
      fun limit offset => Search.insertAll_page limit offset filters⟩⟩

example : (Where.ofList [("title", .exact "Alien"), ("year", .present), ("title", .present)]).toList
    = [("title", .present), ("year", .present)] := by decide +kernel

end DocSearch
