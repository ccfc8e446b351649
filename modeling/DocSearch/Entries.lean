/-
Named entries in the order in which their names first arrived. Where-clauses,
range clauses, mappings and JSON objects are all built by `Entries.set`: a
name that stands already keeps its place and takes the new value, any other
name goes to the end. `Fields` carries the fact that no name stands twice.
-/

namespace DocSearch

namespace Entries

variable {α : Type}

/-- Gives `name` the value `value`, in place if the name stands already and at the end otherwise. -/
def set (name : String) (value : α) : List (String × α) → List (String × α)
  | [] => [(name, value)]
  | (n, v) :: rest => if n = name then (name, value) :: rest else (n, v) :: set name value rest

/-- Sets each of `news` in turn. -/
def setAll (entries news : List (String × α)) : List (String × α) :=
  news.foldl (fun acc entry => set entry.1 entry.2 acc) entries

/-- The names, in order. -/
def names (entries : List (String × α)) : List String := entries.map Prod.fst

@[simp] theorem names_nil : names ([] : List (String × α)) = [] := rfl

@[simp] theorem names_cons (entry : String × α) (rest : List (String × α)) :
    names (entry :: rest) = entry.1 :: names rest := rfl

@[simp] theorem setAll_nil (entries : List (String × α)) : setAll entries [] = entries := rfl

@[simp] theorem setAll_cons (entries : List (String × α)) (entry : String × α)
    (news : List (String × α)) :
    setAll entries (entry :: news) = setAll (set entry.1 entry.2 entries) news := rfl

theorem names_set_of_mem {name : String} {entries : List (String × α)} (value : α)
    (h : name ∈ names entries) : names (set name value entries) = names entries := by
  induction entries with
  | nil => simp at h
  | cons entry rest ih =>
    obtain ⟨n, v⟩ := entry
    simp only [set]
    split
    · next hn => simp [hn]
    · next hn =>
      have : name ∈ names rest := by
        simp only [names_cons, List.mem_cons] at h
        exact h.resolve_left fun e => hn e.symm
      simp [ih this]

theorem names_set_of_not_mem {name : String} {entries : List (String × α)} (value : α)
    (h : name ∉ names entries) : set name value entries = entries ++ [(name, value)] := by
  induction entries with
  | nil => rfl
  | cons entry rest ih =>
    obtain ⟨n, v⟩ := entry
    simp only [names_cons, List.mem_cons, not_or] at h
    simp only [set, if_neg (Ne.symm h.1), ih h.2, List.cons_append]

theorem mem_of_mem_set {name : String} {value : α} {entries : List (String × α)} {entry : String × α}
    (h : entry ∈ set name value entries) : entry = (name, value) ∨ entry ∈ entries := by
  induction entries with
  | nil => exact .inl (List.mem_singleton.mp h)
  | cons first rest ih =>
    obtain ⟨n, v⟩ := first
    simp only [set] at h
    split at h
    · rcases List.mem_cons.mp h with rfl | h
      · exact .inl rfl
      · exact .inr (List.mem_cons_of_mem _ h)
    · rcases List.mem_cons.mp h with rfl | h
      · exact .inr List.mem_cons_self
      · exact (ih h).imp_right (List.mem_cons_of_mem _)

theorem nodup_names_set {entries : List (String × α)} (name : String) (value : α)
    (h : (names entries).Nodup) : (names (set name value entries)).Nodup := by
  by_cases hm : name ∈ names entries
  · rw [names_set_of_mem value hm]; exact h
  · rw [names_set_of_not_mem value hm]
    simp only [names, List.map_append, List.map_cons, List.map_nil] at hm ⊢
    rw [List.nodup_append]
    refine ⟨h, by simp, ?_⟩
    intro a ha b hb hab
    simp only [List.mem_singleton] at hb
    exact hm (hb ▸ hab ▸ ha)

theorem nodup_names_setAll {entries : List (String × α)} (news : List (String × α))
    (h : (names entries).Nodup) : (names (setAll entries news)).Nodup := by
  induction news generalizing entries with
  | nil => exact h
  | cons entry news ih => exact ih (nodup_names_set entry.1 entry.2 h)

/-- Entries whose names are new and differ come behind the others as they are. -/
theorem setAll_of_nodup {entries news : List (String × α)} (h : (names (entries ++ news)).Nodup) :
    setAll entries news = entries ++ news := by
  induction news generalizing entries with
  | nil => rw [setAll_nil, List.append_nil]
  | cons entry news ih =>
    have happend : entries ++ entry :: news = (entries ++ [entry]) ++ news := by simp
    rw [happend] at h
    have hnew : entry.1 ∉ names entries := by
      simp only [names, List.map_append, List.map_cons, List.map_nil, List.nodup_append,
        List.mem_append, List.mem_singleton] at h
      intro hmem
      exact h.1.2.2 entry.1 hmem entry.1 rfl rfl
    rw [setAll_cons, names_set_of_not_mem entry.2 hnew, ih h, happend]

theorem lookup_set_self (name : String) (value : α) (entries : List (String × α)) :
    (set name value entries).lookup name = some value := by
  induction entries with
  | nil => simp [set]
  | cons entry rest ih =>
    obtain ⟨n, v⟩ := entry
    simp only [set]
    split
    · simp
    · next hn =>
      have : (name == n) = false := by simpa using Ne.symm hn
      simp [List.lookup_cons, this, ih]

theorem lookup_set_other {name other : String} (value : α) (entries : List (String × α))
    (h : other ≠ name) : (set name value entries).lookup other = entries.lookup other := by
  have hne : (other == name) = false := by simpa using h
  induction entries with
  | nil => simp [set, List.lookup_cons, hne]
  | cons entry rest ih =>
    obtain ⟨n, v⟩ := entry
    simp only [set]
    split
    · next hn => subst hn; simp [List.lookup_cons, hne]
    · simp [List.lookup_cons, ih]

end Entries

/-- Entries whose names differ. -/
structure Fields (α : Type) where
  /-- The entries, in the order in which their names first arrived. -/
  entries : List (String × α) := []
  /-- No name stands twice. -/
  nodup : (Entries.names entries).Nodup := by simp
  deriving DecidableEq

namespace Fields

variable {α : Type}

/-- No entry at all. -/
def empty : Fields α := {}

instance : Inhabited (Fields α) := ⟨empty⟩

/-- Adds an entry, or replaces the value of one with the same name in place. -/
def insert (fields : Fields α) (name : String) (value : α) : Fields α where
  entries := Entries.set name value fields.entries
  nodup := Entries.nodup_names_set name value fields.nodup

/-- The entries inserted one after the other. -/
def ofList (entries : List (String × α)) : Fields α :=
  entries.foldl (fun fields entry => fields.insert entry.1 entry.2) empty

/-- The names, in order. -/
def names (fields : Fields α) : List String := Entries.names fields.entries

/-- The value of a name. -/
def get? (fields : Fields α) (name : String) : Option α := fields.entries.lookup name

/-- The number of entries. -/
def size (fields : Fields α) : Nat := fields.entries.length

/-- Whether there is no entry. -/
def isEmpty (fields : Fields α) : Bool := fields.entries.isEmpty

@[simp] theorem entries_empty : (empty : Fields α).entries = [] := rfl

@[simp] theorem entries_insert (fields : Fields α) (name : String) (value : α) :
    (fields.insert name value).entries = Entries.set name value fields.entries := rfl

theorem get?_insert_self (fields : Fields α) (name : String) (value : α) :
    (fields.insert name value).get? name = some value :=
  Entries.lookup_set_self name value fields.entries

theorem get?_insert_other (fields : Fields α) {name other : String} (value : α) (h : other ≠ name) :
    (fields.insert name value).get? other = fields.get? other :=
  Entries.lookup_set_other value fields.entries h

theorem entries_foldl_insert (fields : Fields α) (news : List (String × α)) :
    (news.foldl (fun acc entry => acc.insert entry.1 entry.2) fields).entries
      = Entries.setAll fields.entries news := by
  induction news generalizing fields with
  | nil => rfl
  | cons entry news ih => exact ih (fields.insert entry.1 entry.2)

theorem entries_ofList (news : List (String × α)) :
    (ofList news).entries = Entries.setAll [] news :=
  entries_foldl_insert empty news

/-- Entries are determined by their list. -/
theorem ext_entries {a b : Fields α} (h : a.entries = b.entries) : a = b := by
  cases a; cases b; cases h; rfl

end Fields

end DocSearch
