/-
An engine that keeps its documents in a list, a new one in front of the older ones. It is lawful, so
the laws of engines can be met.
-/
import DocSearch.Proofs.EngineFacts
import DocSearch.Proofs.LatestEntries
import Mathlib.Data.Finset.Dedup

namespace DocSearch

namespace MemoryEngine

/-- The documents, each under its index and its id; the first one counts. -/
abbrev Kept : Type := List ((String × String) × Json)

/-- What is kept under an index and an id. -/
def stored (kept : Kept) : Store Json := fun index id => kept.lookup (index, id)

/-- What a path leads to. -/
inductive Target where
  | document (index id : String)
  | documents (index : String)
  deriving DecidableEq

/-- What a path leads to, if it leads to documents. -/
def target? (path : String) : Option Target :=
  match Text.pieces '/' path.toList with
  | [[], i, endpoint] =>
    if endpoint = "_delete_by_query".toList then .documents <$> Text.Percent.text? i else none
  | [[], i, endpoint, d] =>
    if endpoint = "_doc".toList then do
      let index ← Text.Percent.text? i
      let id ← Text.Percent.text? d
      some (.document index id)
    else none
  | _ => none

/-- The ids of the documents under an index. -/
def ids (kept : Kept) (index : String) : Finset String :=
  ((kept.filter fun entry => entry.1.1 = index).map fun entry => entry.1.2).toFinset

/-- The body that tells of a write. -/
def writeBody (index id result : String) : Json :=
  .object [("_index", .string index), ("_id", .string id), ("_version", .ofInt64 1),
    ("result", .string result)]

/-- The answer to a read. -/
def readAnswer (index id : String) : Option Json → Outcome
  | some source =>
    ⟨200, .object [("_index", .string index), ("_id", .string id), ("_version", .ofInt64 1),
      ("found", .bool true), ("_source", source)]⟩
  | none =>
    ⟨404, .object [("_index", .string index), ("_id", .string id), ("found", .bool false)]⟩

/-- The answer to a removal. -/
def removalAnswer (index id : String) : Option Json → Outcome
  | some _ => ⟨200, writeBody index id "deleted"⟩
  | none => ⟨404, writeBody index id "not_found"⟩

/-- Answers a request. -/
def serve (kept : Kept) (request : Request) : Kept × Outcome :=
  match request.method, target? request.path, request.body with
  | .post, some (.document index id), some json =>
    (((index, id), json) :: kept, ⟨201, writeBody index id "created"⟩)
  | .get, some (.document index id), _ => (kept, readAnswer index id (stored kept index id))
  | .delete, some (.document index id), _ =>
    (kept.filter (·.1 ≠ (index, id)), removalAnswer index id (stored kept index id))
  | .post, some (.documents index), _ =>
    (kept.filter (·.1.1 ≠ index),
      ⟨200, .single "deleted" (.ofUInt64 (.ofNat (ids kept index).card))⟩)
  | _, _, _ => (kept, ⟨400, .null⟩)

/-! ## Documents -/

theorem stored_cons (kept : Kept) (index id : String) (json : Json) :
    stored (((index, id), json) :: kept) = (stored kept).put index id json := by
  funext i d
  by_cases h : i = index ∧ d = id
  · obtain ⟨rfl, rfl⟩ := h
    simp [stored, Store.put]
  · have hbeq : ((i, d) == (index, id)) = false := by simpa using h
    rw [stored, List.lookup_cons, hbeq, Store.put, if_neg h]
    rfl

theorem stored_filter_key (kept : Kept) (index id : String) :
    stored (kept.filter (·.1 ≠ (index, id))) = (stored kept).remove index id := by
  funext i d
  rw [stored, Entries.lookup_filter (fun key : String × String => key ≠ (index, id)), Store.remove]
  by_cases h : i = index ∧ d = id <;> simp [h, stored]

theorem stored_filter_index (kept : Kept) (index : String) :
    stored (kept.filter (·.1.1 ≠ index)) = (stored kept).clear index := by
  funext i d
  rw [stored, Entries.lookup_filter (fun key : String × String => key.1 ≠ index), Store.clear]
  by_cases h : i = index <;> simp [h, stored]

theorem mem_ids (kept : Kept) (index id : String) :
    id ∈ ids kept index ↔ (stored kept index id).isSome := by
  rw [stored, List.lookup_isSome_iff, ids, List.mem_toFinset, List.mem_map]
  constructor
  · rintro ⟨⟨⟨i, d⟩, json⟩, hentry, rfl⟩
    obtain ⟨hmem, hindex⟩ := List.mem_filter.mp hentry
    obtain rfl : i = index := by simpa using hindex
    exact ⟨_, hmem, by simp⟩
  · rintro ⟨⟨⟨i, d⟩, json⟩, hmem, hkey⟩
    obtain ⟨rfl, rfl⟩ : index = i ∧ id = d := by simpa using hkey
    exact ⟨_, List.mem_filter.mpr ⟨hmem, by simp⟩, rfl⟩

/-! ## Paths -/

theorem target?_of_leadsTo {path index id : String} (h : Path.LeadsTo path index "_doc" id) :
    target? path = some (.document index id) := by
  obtain ⟨i, d, hpieces, hindex, hid⟩ := h
  rw [target?, hpieces]
  simp [hindex, hid]

theorem target?_of_leadsInto {path index : String}
    (h : Path.LeadsInto path index "_delete_by_query") : target? path = some (.documents index) := by
  obtain ⟨i, hpieces, hindex⟩ := h
  rw [target?, hpieces]
  simp [hindex]

/-! ## Answers -/

theorem hasFields_writeBody (index id : String) (result : WriteResult) :
    (writeBody index id result.name).HasFields ["_index", "_id", "_version", "result"]
      [some (.string index), some (.string id), some (.ofInt64 1), some (.string result.name)] :=
  .of_lookup (by simp [Entries.names]) rfl

theorem readAnswer_some (index id : String) (source : Json) :
    (readAnswer index id (some source)).SaysFound index id source :=
  ⟨rfl, 1, .of_lookup (by simp [Entries.names]) rfl⟩

theorem readAnswer_none (index id : String) : (readAnswer index id none).SaysAbsent := ⟨rfl, rfl⟩

theorem removalAnswer_some (index id : String) (source : Json) :
    (removalAnswer index id (some source)).SaysDeleted index id :=
  ⟨rfl, 1, hasFields_writeBody index id .deleted⟩

theorem removalAnswer_none (index id : String) :
    (removalAnswer index id none).SaysNotFound index id :=
  ⟨rfl, 1, hasFields_writeBody index id .notFound⟩

end MemoryEngine

/-- The engine that keeps its documents in a list. -/
def memoryEngine : Engine where
  State := MemoryEngine.Kept
  stored := MemoryEngine.stored
  serve := MemoryEngine.serve

theorem lawful_memoryEngine : memoryEngine.Lawful where
  create state json hpath := by
    simp only [memoryEngine, MemoryEngine.serve, MemoryEngine.target?_of_leadsTo hpath]
    exact ⟨⟨rfl, MemoryEngine.hasFields_writeBody _ _ .created⟩, MemoryEngine.stored_cons _ _ _ _⟩
  get {path index id} state hpath := by
    simp only [memoryEngine, MemoryEngine.serve, MemoryEngine.target?_of_leadsTo hpath]
    refine ⟨?_, ?_, trivial⟩
    · intro json hjson
      rw [hjson]
      exact MemoryEngine.readAnswer_some index id json
    · intro hnone
      rw [hnone]
      exact MemoryEngine.readAnswer_none index id
  delete {path index id} state hpath := by
    simp only [memoryEngine, MemoryEngine.serve, MemoryEngine.target?_of_leadsTo hpath]
    refine ⟨?_, ?_, MemoryEngine.stored_filter_key state index id⟩
    · intro hsome
      obtain ⟨json, hjson⟩ := Option.isSome_iff_exists.mp hsome
      rw [hjson]
      exact MemoryEngine.removalAnswer_some index id json
    · intro hnone
      rw [hnone]
      exact MemoryEngine.removalAnswer_none index id
  truncate {path index} state hpath := by
    simp only [memoryEngine, MemoryEngine.serve, MemoryEngine.target?_of_leadsInto hpath]
    refine ⟨⟨_, ⟨MemoryEngine.ids state index, MemoryEngine.mem_ids state index, rfl⟩, rfl, ?_⟩,
      MemoryEngine.stored_filter_index state index⟩
    exact .of_lookup (by simp [Entries.names]) rfl

end DocSearch
