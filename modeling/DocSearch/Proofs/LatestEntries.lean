/-
Entries that are set one after the other, said without the setting: each name once, where it came
first, with the value that came last (`latest`). Names and values are followed apart, from the last
entry backwards, and joined by `ext_of_nodup`: entries whose names differ are told by the order of
their names and by what each name looks up.
-/
import DocSearch.Entries
import Mathlib.Data.List.Basic
import Mathlib.Data.List.Induction
import Mathlib.Data.List.Nodup

namespace DocSearch.Entries

variable {α β : Type}

/-- Each name once, where it came first, with the value that came last. -/
def latest (entries : List (String × α)) : List (String × α) :=
  (names entries).eraseDups.filterMap fun name =>
    (entries.reverse.lookup name).map fun value => (name, value)

/-! ## Names and values -/

theorem setAll_append (entries news others : List (String × α)) :
    setAll entries (news ++ others) = setAll (setAll entries news) others := by
  simp [setAll]

theorem isSome_lookup_iff {name : String} {entries : List (String × α)} :
    (entries.lookup name).isSome = true ↔ name ∈ names entries := by
  simp [names, List.lookup_isSome_iff, @eq_comm _ name]

theorem lookup_eq_none {name : String} {entries : List (String × α)} (h : name ∉ names entries) :
    entries.lookup name = none := by
  rw [← Option.not_isSome_iff_eq_none, isSome_lookup_iff]
  exact h

/-- Filtering by names keeps what the names that stay look up; a name may be of any type. -/
theorem lookup_filter {κ : Type} [BEq κ] [LawfulBEq κ] (keep : κ → Bool) (entries : List (κ × α))
    (key : κ) :
    (entries.filter fun entry => keep entry.1).lookup key
      = if keep key then entries.lookup key else none := by
  induction entries with
  | nil => simp
  | cons entry entries ih =>
    obtain ⟨other, value⟩ := entry
    by_cases hkey : key = other
    · subst hkey
      by_cases hkeep : keep key = true
      · simp [hkeep]
      · simpa [hkeep] using ih
    · have hbeq : (key == other) = false := beq_eq_false_iff_ne.mpr hkey
      rw [List.filter_cons]
      split
      · rw [List.lookup_cons, List.lookup_cons, hbeq]
        exact ih
      · rw [List.lookup_cons, hbeq]
        exact ih

theorem name_ne_of_mem {name : String} {entries : List (String × α)} (h : name ∉ names entries)
    {entry : String × α} (hentry : entry ∈ entries) : entry.1 ≠ name := by
  rintro rfl
  exact h (List.mem_map_of_mem hentry)

theorem lookup_of_mem {name : String} {value : α} {entries : List (String × α)}
    (hnodup : (names entries).Nodup) (h : (name, value) ∈ entries) :
    entries.lookup name = some value := by
  induction entries with
  | nil => cases h
  | cons entry entries ih =>
    obtain ⟨other, content⟩ := entry
    obtain ⟨hnew, hnodup⟩ := List.nodup_cons.mp hnodup
    rcases List.mem_cons.mp h with hsame | hmem
    · cases hsame
      simp
    · have hne : (name == other) = false := by simpa using name_ne_of_mem hnew hmem
      simpa [List.lookup_cons, hne] using ih hnodup hmem

/-- Entries whose names differ are told by their names and by what each name looks up. -/
theorem ext_of_nodup {as bs : List (String × α)} (hnodup : (names as).Nodup)
    (hnames : names as = names bs) (hvalues : ∀ name, as.lookup name = bs.lookup name) :
    as = bs := by
  induction as generalizing bs with
  | nil => exact (List.map_eq_nil_iff.mp hnames.symm).symm
  | cons a as ih =>
    obtain ⟨name, value⟩ := a
    cases bs with
    | nil => cases hnames
    | cons b bs =>
      obtain ⟨other, content⟩ := b
      obtain ⟨hname, hrest⟩ : name = other ∧ names as = names bs := List.cons.inj hnames
      subst hname
      obtain ⟨hnew, hnodup⟩ := List.nodup_cons.mp hnodup
      have hvalue : value = content := by simpa using hvalues name
      have hlookup : ∀ n, as.lookup n = bs.lookup n := by
        intro n
        by_cases hn : n = name
        · have hnewBs : name ∉ names bs := hrest ▸ hnew
          rw [hn, lookup_eq_none hnew, lookup_eq_none hnewBs]
        · have hne : (n == name) = false := by simpa using hn
          simpa [List.lookup_cons, hne] using hvalues n
      rw [hvalue, ih hnodup hrest hlookup]

/-! ## Entries set one after the other -/

/-- The names that have been set are those that came, each where it came first. -/
theorem names_setAll (news : List (String × α)) :
    names (setAll [] news) = (names news).eraseDups := by
  induction news using List.reverseRecOn with
  | nil => rfl
  | append_singleton news entry ih =>
    have hnames : names (news ++ [entry]) = names news ++ [entry.1] := by simp [names]
    have hsame : entry.1 ∈ names (setAll [] news) ↔ entry.1 ∈ names news := by
      rw [ih, List.mem_eraseDups]
    rw [setAll_append, setAll_cons, setAll_nil, hnames, List.eraseDups_append, ← ih]
    by_cases h : entry.1 ∈ names news
    · rw [names_set_of_mem entry.2 (hsame.mpr h)]
      simp [List.removeAll, h]
    · rw [names_set_of_not_mem entry.2 (mt hsame.mp h)]
      simp [names, List.removeAll] at h ⊢
      simp [h, List.eraseDups_cons]

/-- What a name has been set to is what came last under it. -/
theorem lookup_setAll (news : List (String × α)) (name : String) :
    (setAll [] news).lookup name = news.reverse.lookup name := by
  induction news using List.reverseRecOn with
  | nil => rfl
  | append_singleton news entry ih =>
    rw [setAll_append, setAll_cons, setAll_nil, List.reverse_append, List.reverse_singleton,
      List.singleton_append, List.lookup_cons]
    by_cases h : name = entry.1
    · rw [h, lookup_set_self]
      simp
    · have hne : (name == entry.1) = false := by simpa using h
      rw [lookup_set_other entry.2 _ h, ih, hne]

theorem names_latest (entries : List (String × α)) :
    names (latest entries) = (names entries).eraseDups := by
  have hall : ∀ name ∈ (names entries).eraseDups,
      ((entries.reverse.lookup name).map fun value => (name, value)).map Prod.fst = some name := by
    intro name hname
    have hmem : name ∈ names entries.reverse := by
      simpa [names] using List.mem_eraseDups.mp hname
    obtain ⟨value, hvalue⟩ := Option.isSome_iff_exists.mp (isSome_lookup_iff.mpr hmem)
    simp [hvalue]
  rw [latest, names, List.map_filterMap]
  exact (List.filterMap_congr hall).trans (by simp)

theorem nodup_latest (entries : List (String × α)) : (names (latest entries)).Nodup := by
  rw [names_latest, ← names_setAll]
  exact nodup_names_setAll entries (by simp)

theorem lookup_latest (entries : List (String × α)) (name : String) :
    (latest entries).lookup name = entries.reverse.lookup name := by
  cases hlast : entries.reverse.lookup name with
  | none =>
    refine lookup_eq_none ?_
    rw [names_latest, List.mem_eraseDups]
    intro hmem
    have hsome : (entries.reverse.lookup name).isSome = true :=
      isSome_lookup_iff.mpr (by simpa [names] using hmem)
    simp [hlast] at hsome
  | some value =>
    refine lookup_of_mem (nodup_latest entries) (List.mem_filterMap.mpr ⟨name, ?_, by simp [hlast]⟩)
    rw [List.mem_eraseDups]
    have hmem : name ∈ names entries.reverse := isSome_lookup_iff.mp (by simp [hlast])
    simpa [names] using hmem

/-- **Setting entries one after the other** keeps each name once, where it came first, with the
value that came last. -/
theorem setAll_eq_latest (news : List (String × α)) : setAll [] news = latest news := by
  refine ext_of_nodup (nodup_names_setAll news (by simp)) ?_ fun name => ?_
  · rw [names_setAll, names_latest]
  · rw [lookup_setAll, lookup_latest]

/-- The entries that are left are told by what each name looked up last. -/
theorem mem_latest_iff {entries : List (String × α)} {name : String} {value : α} :
    (name, value) ∈ latest entries ↔ entries.reverse.lookup name = some value := by
  rw [← lookup_latest]
  refine ⟨lookup_of_mem (nodup_latest entries), fun h => ?_⟩
  obtain ⟨before, after, hsplit, -⟩ := List.lookup_eq_some_iff.mp h
  simp [hsplit]

/-! ## Entries without repeats, and other values -/

theorem latest_eq_self {entries : List (String × α)} (h : (names entries).Nodup) :
    latest entries = entries := by
  rw [← setAll_eq_latest, setAll_of_nodup (by simpa using h), List.nil_append]

theorem latest_latest (entries : List (String × α)) : latest (latest entries) = latest entries :=
  latest_eq_self (nodup_latest entries)

theorem mem_of_mem_latest {entry : String × α} {entries : List (String × α)}
    (h : entry ∈ latest entries) : entry ∈ entries := by
  obtain ⟨name, value⟩ := entry
  have hlast : entries.reverse.lookup name = some value := by
    rw [← lookup_latest]
    exact lookup_of_mem (nodup_latest entries) h
  obtain ⟨before, after, hsplit, -⟩ := List.lookup_eq_some_iff.mp hlast
  have hmem : (name, value) ∈ entries.reverse := by simp [hsplit]
  simpa using hmem

theorem latest_eq_nil_iff {entries : List (String × α)} : latest entries = [] ↔ entries = [] := by
  have hnames : names (latest entries) = [] ↔ names entries = [] := by
    rw [names_latest]
    cases entries <;> simp [List.eraseDups_cons]
  simpa [names] using hnames

/-- Entries of one value are told by their names. -/
theorem latest_map_const (words : List String) (value : α) :
    latest (words.map fun word => (word, value))
      = words.eraseDups.map fun word => (word, value) := by
  have hnames : names (words.map fun word => (word, value)) = words := by
    simp [names, Function.comp_def]
  have hvalue : ∀ entry ∈ latest (words.map fun word => (word, value)),
      (entry.1, value) = entry := by
    intro entry hentry
    have hmem : entry ∈ words.map fun word => (word, value) := mem_of_mem_latest hentry
    obtain ⟨word, -, rfl⟩ := List.mem_map.mp hmem
    rfl
  calc
    latest (words.map fun word => (word, value))
    _ = (latest (words.map fun word => (word, value))).map fun entry => (entry.1, value) := by
      simpa using (List.map_congr_left hvalue).symm
    _ = (names (latest (words.map fun word => (word, value)))).map fun word => (word, value) := by
      simp [names]
    _ = words.eraseDups.map fun word => (word, value) := by rw [names_latest, hnames]

theorem set_map (f : α → β) (name : String) (value : α) (entries : List (String × α)) :
    set name (f value) (entries.map fun entry => (entry.1, f entry.2))
      = (set name value entries).map fun entry => (entry.1, f entry.2) := by
  induction entries with
  | nil => rfl
  | cons entry entries ih =>
    by_cases h : entry.1 = name <;> simp [set, h, ih]

theorem setAll_map (f : α → β) (entries news : List (String × α)) :
    setAll (entries.map fun entry => (entry.1, f entry.2))
        (news.map fun entry => (entry.1, f entry.2))
      = (setAll entries news).map fun entry => (entry.1, f entry.2) := by
  induction news generalizing entries with
  | nil => rfl
  | cons entry news ih => simp [set_map, ih]

/-- The values may be changed before or after. -/
theorem latest_map (f : α → β) (entries : List (String × α)) :
    latest (entries.map fun entry => (entry.1, f entry.2))
      = (latest entries).map fun entry => (entry.1, f entry.2) := by
  rw [← setAll_eq_latest, ← setAll_eq_latest, ← setAll_map, List.map_nil]

/-! ## Entries set behind others -/

/-- A name that stands takes the new value in its place. -/
theorem set_of_mem {name : String} (value : α) {entries : List (String × α)}
    (hnodup : (names entries).Nodup) (h : name ∈ names entries) :
    set name value entries
      = entries.map fun entry => (entry.1, if entry.1 = name then value else entry.2) := by
  induction entries with
  | nil => simp at h
  | cons entry entries ih =>
    obtain ⟨other, content⟩ := entry
    obtain ⟨hnew, hnodup⟩ := List.nodup_cons.mp hnodup
    by_cases hname : other = name
    · have hrest : ∀ entry ∈ entries,
          (entry.1, if entry.1 = name then value else entry.2) = entry := by
        intro entry hentry
        simp [hname ▸ name_ne_of_mem hnew hentry]
      simp [set, hname, List.map_congr_left hrest]
    · have hmem : name ∈ names entries := by simpa [Ne.symm hname] using h
      simp [set, hname, ih hnodup hmem]

/-- Names that stand already take the new values in their places, and the other names come behind in
their order. -/
theorem setAll_eq_append {entries news : List (String × α)} (hnodup : (names entries).Nodup)
    (hnews : (names news).Nodup) :
    setAll entries news
      = (entries.map fun entry => (entry.1, (news.lookup entry.1).getD entry.2))
        ++ news.filter fun entry => entry.1 ∉ names entries := by
  induction news generalizing entries with
  | nil => simp
  | cons entry news ih =>
    obtain ⟨name, value⟩ := entry
    obtain ⟨hnew, hnews⟩ := List.nodup_cons.mp hnews
    have hnone : news.lookup name = none := lookup_eq_none hnew
    have hvalue : ∀ other : String × α, (((name, value) :: news).lookup other.1).getD other.2
        = (news.lookup other.1).getD (if other.1 = name then value else other.2) := by
      intro other
      by_cases hname : other.1 = name
      · simp [hname, hnone]
      · have hne : (other.1 == name) = false := by simpa using hname
        simp [List.lookup_cons, hne, hname]
    rw [setAll_cons, ih (nodup_names_set name value hnodup) hnews]
    simp only [hvalue]
    by_cases h : name ∈ names entries
    · rw [names_set_of_mem value h, set_of_mem value hnodup h]
      simp [h]
    · -- Neither the entries nor what is still to come has the new name.
      have hmap : entries.map (fun other =>
            (other.1, (news.lookup other.1).getD (if other.1 = name then value else other.2)))
          = entries.map fun other => (other.1, (news.lookup other.1).getD other.2) := by
        refine List.map_congr_left fun other hother => ?_
        rw [if_neg (name_ne_of_mem h hother)]
      have hfilter : (news.filter fun other => other.1 ∉ names (entries ++ [(name, value)]))
          = news.filter fun other => other.1 ∉ names entries := by
        refine List.filter_congr fun other hother => ?_
        have hne : other.1 ≠ name := name_ne_of_mem hnew hother
        rw [decide_eq_decide]
        simp [names, hne]
      rw [names_set_of_not_mem value h, hfilter, hmap]
      simp [h, hnone]

/-! ## Entries that come again, or in another order -/

/-- Entries that come again leave what they left the first time. -/
theorem latest_append_self (entries : List (String × α)) :
    latest (entries ++ entries) = latest entries := by
  refine ext_of_nodup (nodup_latest _) ?_ fun name => ?_
  · have hnone : (names entries).removeAll (names entries) = [] :=
      List.filter_eq_nil_iff.mpr fun name hname => by simp [hname]
    rw [names_latest, names_latest, names, List.map_append, ← names, List.eraseDups_append, hnone]
    simp
  · rw [lookup_latest, lookup_latest, List.reverse_append, List.lookup_append, Option.or_self]

/-- Where one of two names stands already, both may be set in either order. -/
theorem set_set_of_mem {first second : String} (hne : first ≠ second) (value other : α)
    {entries : List (String × α)} (h : first ∈ names entries) :
    set second other (set first value entries) = set first value (set second other entries) := by
  induction entries with
  | nil => simp at h
  | cons entry entries ih =>
    obtain ⟨name, content⟩ := entry
    by_cases hfirst : name = first
    · subst hfirst
      simp [set, hne]
    · have hmem : first ∈ names entries := by simpa [Ne.symm hfirst] using h
      by_cases hsecond : name = second <;> simp [set, hfirst, hsecond, Ne.symm hne, ih hmem]

/-- Two neighbours under different names are found whichever of them comes first. -/
theorem lookup_reverse_swap {a b : String × α} (hne : a.1 ≠ b.1) (before after : List (String × α))
    (name : String) :
    (before ++ a :: b :: after).reverse.lookup name
      = (before ++ b :: a :: after).reverse.lookup name := by
  obtain ⟨first, value⟩ := a
  obtain ⟨second, other⟩ := b
  have hpair : [(second, other), (first, value)].lookup name
      = [(first, value), (second, other)].lookup name := by
    by_cases hname : name = first
    · subst hname
      simp [List.lookup_cons, beq_eq_false_iff_ne.mpr hne]
    · simp [List.lookup_cons, beq_eq_false_iff_ne.mpr hname]
  have hsplit : ∀ c d : String × α, (before ++ c :: d :: after).reverse
      = after.reverse ++ ([d, c] ++ before.reverse) := by simp
  rw [hsplit, hsplit, List.lookup_append, List.lookup_append, List.lookup_append,
    List.lookup_append, hpair]

/-- Two neighbours under different names that change places leave the same entries, at most in
another order. -/
theorem latest_swap_perm {a b : String × α} (hne : a.1 ≠ b.1) (before after : List (String × α)) :
    (latest (before ++ a :: b :: after)).Perm (latest (before ++ b :: a :: after)) := by
  have hnodup : ∀ entries : List (String × α), (latest entries).Nodup := fun entries =>
    List.Nodup.of_map Prod.fst (nodup_latest entries)
  refine (List.perm_ext_iff_of_nodup (hnodup _) (hnodup _)).mpr fun (name, value) => ?_
  rw [mem_latest_iff, mem_latest_iff, lookup_reverse_swap hne]

/-- They leave them in the same order if one of the names came before. -/
theorem latest_swap_of_mem {a b : String × α} (hne : a.1 ≠ b.1) {before : List (String × α)}
    (h : a.1 ∈ names before ∨ b.1 ∈ names before) (after : List (String × α)) :
    latest (before ++ a :: b :: after) = latest (before ++ b :: a :: after) := by
  have hstands : ∀ name, name ∈ names before → name ∈ names (setAll [] before) := by
    intro name hname
    rw [names_setAll, List.mem_eraseDups]
    exact hname
  have hswap : set b.1 b.2 (set a.1 a.2 (setAll [] before))
      = set a.1 a.2 (set b.1 b.2 (setAll [] before)) := by
    rcases h with hmem | hmem
    · exact set_set_of_mem hne a.2 b.2 (hstands _ hmem)
    · exact (set_set_of_mem hne.symm b.2 a.2 (hstands _ hmem)).symm
  rw [← setAll_eq_latest, ← setAll_eq_latest, setAll_append, setAll_append, setAll_cons, setAll_cons,
    setAll_cons, setAll_cons, hswap]

end DocSearch.Entries
