/-
Entries of a log that are written as JSON objects.

Whatever an entry says, its line has no control character, for these are escaped in texts and
nothing else in a line comes from outside. And nothing is lost: the object is read back from the
line, so lines are the same just when the objects are. The fields of an object are the last values
of the keys in ascending order (`mem_sortedFields_iff`, `ascending_sortedFields`), and entries in
ascending order are told by what stands among them (`Ascending.eq_of_mem_iff`).
-/
import DocSearch.Log.Entry
import DocSearch.Proofs.BodyTexts
import DocSearch.Proofs.SearchBodies
import Mathlib.Data.String.Basic

namespace DocSearch

/-! ## Controls -/

/-- None of the characters is a control below the space. -/
def NoControl (cs : List Char) : Prop := ∀ c ∈ cs, 0x20 ≤ c.toNat

theorem noControl_cons_iff {c : Char} {cs : List Char} :
    NoControl (c :: cs) ↔ 0x20 ≤ c.toNat ∧ NoControl cs := List.forall_mem_cons

theorem noControl_append_iff {before after : List Char} :
    NoControl (before ++ after) ↔ NoControl before ∧ NoControl after := List.forall_mem_append

theorem noControl_digits (n : Nat) : NoControl (Text.Numeral.digits n) := by
  intro c hc
  have hdigit : 48 ≤ c.toNat ∧ c.toNat ≤ 57 := by
    simpa [Char.isDigit, UInt32.le_iff_toNat_le] using Text.Numeral.isDigit_of_mem_digits hc
  omega

theorem Text.Numeral.le_toNat_hexDigit {n : Nat} (h : n < 16) : 0x20 ≤ (hexDigit 'a' n).toNat := by
  have : ∀ m : Fin 16, 0x20 ≤ (hexDigit 'a' m.val).toNat := by decide
  exact this ⟨n, h⟩

namespace Json

theorem Scanner.le_toNat_of_escaped? {letter c : Char} (h : escaped? letter = some c) :
    0x20 ≤ letter.toNat := by
  unfold escaped? at h
  split at h
  all_goals first | decide | cases h

theorem noControl_escapedChar (c : Char) : NoControl (escapedChar c) := by
  rcases Scanner.escapedChar_cases c with ⟨letter, -, hread, hwritten⟩ | ⟨hcontrol, hwritten⟩ |
    ⟨-, -, hraw, hwritten⟩
  · rw [hwritten]
    simp [NoControl, Scanner.le_toNat_of_escaped? hread]
  · have hhigh := Text.Numeral.le_toNat_hexDigit (n := c.toNat / 16) (by omega)
    have hlow := Text.Numeral.le_toNat_hexDigit (n := c.toNat % 16) (by omega)
    rw [hwritten]
    simp [NoControl, hhigh, hlow]
  · rw [hwritten]
    simpa [NoControl] using hraw

theorem noControl_textChars (text : String) : NoControl (textChars text) := by
  have hinside : NoControl (text.toList.flatMap escapedChar) := by
    intro c hc
    obtain ⟨given, -, hwritten⟩ := List.mem_flatMap.mp hc
    exact noControl_escapedChar given c hwritten
  rw [textChars, noControl_append_iff, noControl_cons_iff]
  exact ⟨⟨by decide, hinside⟩, by simp [NoControl]⟩

mutual

/-- No control is written for a value without floats. -/
theorem noControl_chars : ∀ {value : Json}, value.Whole → NoControl value.chars
  | .null, _ => by simp [chars, NoControl]
  | .bool true, _ => by simp [chars, NoControl]
  | .bool false, _ => by simp [chars, NoControl]
  | .number (.integer n h), _ => by
    rw [chars, Number.chars, Text.Numeral.integerDigits]
    split
    · exact noControl_cons_iff.mpr ⟨by decide, noControl_digits _⟩
    · exact noControl_digits _
  | .string text, _ => noControl_textChars text
  | .array [], _ => by simp [chars, NoControl]
  | .array (item :: items), hwhole =>
    noControl_cons_iff.mpr ⟨by decide,
      noControl_append_iff.mpr ⟨noControl_chars hwhole.1, noControl_itemsChars hwhole.2⟩⟩
  | .object [], _ => by simp [chars, NoControl]
  | .object ((name, value) :: members), hwhole =>
    noControl_cons_iff.mpr ⟨by decide, noControl_append_iff.mpr ⟨noControl_textChars name,
      noControl_cons_iff.mpr ⟨by decide,
        noControl_append_iff.mpr ⟨noControl_chars hwhole.1, noControl_membersChars hwhole.2⟩⟩⟩⟩

theorem noControl_itemsChars : ∀ {items : List Json}, WholeItems items →
    NoControl (itemsChars items)
  | [], _ => by simp [itemsChars, NoControl]
  | item :: items, hwhole =>
    noControl_cons_iff.mpr ⟨by decide,
      noControl_append_iff.mpr ⟨noControl_chars hwhole.1, noControl_itemsChars hwhole.2⟩⟩

theorem noControl_membersChars : ∀ {members : List (String × Json)}, WholeMembers members →
    NoControl (membersChars members)
  | [], _ => by simp [membersChars, NoControl]
  | (name, value) :: members, hwhole =>
    noControl_cons_iff.mpr ⟨by decide, noControl_append_iff.mpr ⟨noControl_textChars name,
      noControl_cons_iff.mpr ⟨by decide,
        noControl_append_iff.mpr ⟨noControl_chars hwhole.1, noControl_membersChars hwhole.2⟩⟩⟩⟩

end

theorem wholeMembers_iff {members : List (String × Json)} :
    WholeMembers members ↔ ∀ member ∈ members, member.2.Whole := by
  induction members with
  | nil => simp [WholeMembers]
  | cons member members ih => simp [WholeMembers, ih]

end Json

namespace Log

/-! ## Fields -/

theorem Level.name_injective {a b : Level} (h : a.name = b.name) : a = b := by
  cases a <;> cases b <;> first | rfl | exact absurd h (by decide)

namespace Entry

open Entries (Current)

/-- The keys stand in ascending order, none of them twice. -/
def Ascending (fields : List (String × String)) : Prop := fields.Pairwise fun a b => a.1 < b.1

theorem Ascending.nodup_names {fields : List (String × String)} (h : Ascending fields) :
    (Entries.names fields).Nodup := by
  rw [Entries.names, List.Nodup, List.pairwise_map]
  exact h.imp fun hlt => ne_of_lt hlt

/-- What stands among ascending fields tells them. -/
theorem Ascending.eq_of_mem_iff {fields others : List (String × String)} (h : Ascending fields)
    (hothers : Ascending others)
    (hmem : ∀ key value, (key, value) ∈ fields ↔ (key, value) ∈ others) : fields = others := by
  have hperm : fields.Perm others :=
    (List.perm_ext_iff_of_nodup (List.Nodup.of_map Prod.fst h.nodup_names)
      (List.Nodup.of_map Prod.fst hothers.nodup_names)).mpr fun (key, value) => hmem key value
  exact hperm.eq_of_pairwise (fun a b _ _ hlt hgt => absurd hgt (lt_asymm hlt)) h hothers

/-- What is below the first key is below all of them. -/
theorem Ascending.lt_of_lt {field : String × String} {fields : List (String × String)}
    (h : Ascending (field :: fields)) {key : String} (hlt : key < field.1) :
    ∀ entry ∈ field :: fields, key < entry.1 := by
  intro entry hentry
  rcases List.mem_cons.mp hentry with rfl | hmem
  · exact hlt
  · exact hlt.trans ((List.pairwise_cons.mp h).1 entry hmem)

theorem mem_insertSorted_iff {key value : String} {fields : List (String × String)}
    (h : Ascending fields) {name content : String} :
    (name, content) ∈ insertSorted key value fields ↔
      name = key ∧ content = value ∨ name ≠ key ∧ (name, content) ∈ fields := by
  induction fields with
  | nil => simp [insertSorted]
  | cons field fields ih =>
    obtain ⟨k, v⟩ := field
    obtain ⟨hfirst, hrest⟩ := List.pairwise_cons.mp h
    rcases lt_trichotomy key k with hlt | rfl | hgt
    · have habove := h.lt_of_lt hlt
      rw [insertSorted, if_pos hlt, List.mem_cons, Prod.mk.injEq]
      exact or_congr_right ⟨fun hmem => ⟨ne_of_gt (habove _ hmem), hmem⟩, And.right⟩
    · rw [insertSorted, if_neg (lt_irrefl key), if_pos rfl, List.mem_cons, Prod.mk.injEq]
      refine or_congr_right
        ⟨fun hmem => ⟨ne_of_gt (hfirst _ hmem), List.mem_cons_of_mem _ hmem⟩, ?_⟩
      rintro ⟨hne, hmem⟩
      exact (List.mem_cons.mp hmem).resolve_left fun hsame => hne (Prod.mk.inj hsame).1
    · rw [insertSorted, if_neg (lt_asymm hgt), if_neg (ne_of_gt hgt), List.mem_cons, ih hrest,
        List.mem_cons, Prod.mk.injEq]
      by_cases hname : name = key
      · simp [hname, ne_of_gt hgt]
      · simp [hname]

theorem ascending_insertSorted (key value : String) {fields : List (String × String)}
    (h : Ascending fields) : Ascending (insertSorted key value fields) := by
  induction fields with
  | nil => exact List.pairwise_singleton _ _
  | cons field fields ih =>
    obtain ⟨k, v⟩ := field
    obtain ⟨hfirst, hrest⟩ := List.pairwise_cons.mp h
    rcases lt_trichotomy key k with hlt | rfl | hgt
    · rw [insertSorted, if_pos hlt]
      exact List.pairwise_cons.mpr ⟨h.lt_of_lt hlt, h⟩
    · rw [insertSorted, if_neg (lt_irrefl key), if_pos rfl]
      exact List.pairwise_cons.mpr ⟨hfirst, hrest⟩
    · have habove : ∀ entry ∈ insertSorted key value fields, k < entry.1 := by
        intro (name, content) hentry
        rcases (mem_insertSorted_iff hrest).mp hentry with ⟨rfl, -⟩ | ⟨-, hmem⟩
        · exact hgt
        · exact hfirst _ hmem
      rw [insertSorted, if_neg (lt_asymm hgt), if_neg (ne_of_gt hgt)]
      exact List.pairwise_cons.mpr ⟨habove, ih hrest⟩

theorem sortedFields_concat (fields : List (String × String)) (field : String × String) :
    sortedFields (fields ++ [field]) = insertSorted field.1 field.2 (sortedFields fields) := by
  simp [sortedFields]

theorem ascending_sortedFields (fields : List (String × String)) :
    Ascending (sortedFields fields) := by
  induction fields using List.reverseRecOn with
  | nil => exact List.Pairwise.nil
  | append_singleton fields field ih =>
    rw [sortedFields_concat]
    exact ascending_insertSorted field.1 field.2 ih

/-- Among the sorted fields stands the last value of each key. -/
theorem mem_sortedFields_iff {fields : List (String × String)} {key value : String} :
    (key, value) ∈ sortedFields fields ↔ Current fields key value := by
  induction fields using List.reverseRecOn with
  | nil => simp [sortedFields, Current]
  | append_singleton fields field ih =>
    rw [sortedFields_concat, mem_insertSorted_iff (ascending_sortedFields fields), ih,
      Entries.current_concat_iff]

theorem sortedFields_eq_iff {fields others : List (String × String)} :
    sortedFields fields = sortedFields others ↔
      ∀ key value, Current fields key value ↔ Current others key value := by
  simp only [← mem_sortedFields_iff]
  refine ⟨fun h key value => by rw [h], fun h => ?_⟩
  exact (ascending_sortedFields fields).eq_of_mem_iff (ascending_sortedFields others) h

theorem sortedFields_eq_nil_iff {fields : List (String × String)} :
    sortedFields fields = [] ↔ fields = [] := by
  induction fields using List.reverseRecOn with
  | nil => simp [sortedFields]
  | append_singleton fields field ih =>
    have hset : ∀ sorted, insertSorted field.1 field.2 sorted ≠ [] := by
      intro sorted
      fun_cases insertSorted field.1 field.2 sorted <;> simp
    simp [sortedFields_concat, hset]

/-! ## Lines -/

theorem toJson_eq (entry : Entry) : entry.toJson none = .object
    ([("level", .string entry.level.name), ("target", .string entry.target),
      ("message", .string entry.message)]
      ++ if entry.fields = [] then []
        else [("fields", .object ((sortedFields entry.fields).map fun field =>
          (field.1, .string field.2)))]) := by
  by_cases h : entry.fields = []
  · simp [toJson, Json.optional, fieldsMember, h, sortedFields]
  · have hsorted : sortedFields entry.fields ≠ [] := mt sortedFields_eq_nil_iff.mp h
    simp [toJson, Json.optional, fieldsMember, h, hsorted]

theorem whole_toJson (entry : Entry) (time : Option String) : (entry.toJson time).Whole := by
  have htime : ∀ member ∈ Json.optional "timestamp" (time.map Json.string), member.2.Whole := by
    cases time <;> simp [Json.optional, Json.Whole]
  have htexts (fields : List (String × String)) :
      (Json.object (fields.map fun field => (field.1, .string field.2))).Whole := by
    refine Json.wholeMembers_iff.mpr fun member hmember => ?_
    obtain ⟨field, -, rfl⟩ := List.mem_map.mp hmember
    trivial
  have hfields (fields : List (String × String)) :
      ∀ member ∈ fieldsMember fields, member.2.Whole := by
    rw [fieldsMember]
    split
    · simp
    · simpa using htexts fields
  refine Json.wholeMembers_iff.mpr (List.forall_mem_append.mpr
    ⟨List.forall_mem_append.mpr ⟨htime, ?_⟩, hfields _⟩)
  simp [Json.Whole]

/-- An entry is written with one object in another at most, and no name stands twice. -/
theorem fits_toJson (entry : Entry) : (entry.toJson none).Fits Json.maxDepth 0 := by
  have htext (level : Nat) (hlevel : level ≤ Json.maxDepth) (text : String) :
      (Json.string text).Fits Json.maxDepth level := ⟨trivial, hlevel⟩
  have hmembers : Json.MembersFit Json.maxDepth 2
      ((sortedFields entry.fields).map fun field => (field.1, .string field.2)) := by
    constructor
    · have hnodup := (ascending_sortedFields entry.fields).nodup_names
      simpa [Entries.names, Function.comp_def] using hnodup
    · intro member hmember
      obtain ⟨field, -, rfl⟩ := List.mem_map.mp hmember
      exact htext 2 (by decide) field.2
  have hfields := Json.fits_object (by decide) hmembers
  rw [toJson_eq]
  refine Json.fits_object (by decide) ?_
  by_cases h : entry.fields = []
  · rw [if_pos h]
    exact ⟨by simp, by simp [htext 1 (by decide)]⟩
  · rw [if_neg h]
    exact ⟨by simp, by simp [htext 1 (by decide), hfields]⟩

theorem parse?_line_json (entry : Entry) :
    Json.parse? (entry.line .json none) = some (entry.toJson none) :=
  Json.parse?_render (whole_toJson entry none) (fits_toJson entry)

theorem noControl_line_json (entry : Entry) (time : Option String) :
    NoControl (entry.line .json time).toList := by
  rw [line, Json.render, String.toList_ofList]
  exact Json.noControl_chars (whole_toJson entry time)

theorem fieldsMember_inj {fields others : List (String × String)} :
    fieldsMember fields = fieldsMember others ↔ fields = others := by
  have hmap : Function.Injective fun field : String × String =>
      (field.1, Json.string field.2) := by
    rintro ⟨key, value⟩ ⟨other, content⟩ h
    simpa using h
  have hmaps := (List.map_injective_iff.mpr hmap).eq_iff (a := fields) (b := others)
  cases fields with
  | nil => cases others <;> simp [fieldsMember]
  | cons field fields =>
    cases others with
    | nil => simp [fieldsMember]
    | cons other others => simpa [fieldsMember] using hmaps

theorem toJson_inj_iff {entry other : Entry} : entry.toJson none = other.toJson none ↔
    entry.level = other.level ∧ entry.target = other.target ∧ entry.message = other.message ∧
      sortedFields entry.fields = sortedFields other.fields := by
  have hlevel : entry.level.name = other.level.name ↔ entry.level = other.level :=
    ⟨Level.name_injective, congrArg Level.name⟩
  simp [toJson, Json.optional, hlevel, fieldsMember_inj]

/-- **The JSON line of an entry**, whatever characters its texts have. It has no control character, so
it is one line. Read back, it is an object with the level, the target and the message as they are
and, just when fields were given, the fields, with the last value of each key, keys ascending. So
two entries have the same line just when they agree in level, target and message and in the last
value of each key. -/
theorem line_json (entry : Entry) :
    NoControl (entry.line .json none).toList ∧
    (∃ fields : List (String × String),
      Json.parse? (entry.line .json none) = some (.object
        ([("level", .string entry.level.name), ("target", .string entry.target),
          ("message", .string entry.message)]
          ++ if entry.fields = [] then []
            else [("fields", .object (fields.map fun field => (field.1, .string field.2)))])) ∧
      Ascending fields ∧
      ∀ key value, (key, value) ∈ fields ↔ Current entry.fields key value) ∧
    ∀ other : Entry, entry.line .json none = other.line .json none ↔
      entry.level = other.level ∧ entry.target = other.target ∧ entry.message = other.message ∧
        ∀ key value, Current entry.fields key value ↔ Current other.fields key value := by
  refine ⟨noControl_line_json entry none, ⟨sortedFields entry.fields, ?_,
    ascending_sortedFields entry.fields, fun _ _ => mem_sortedFields_iff⟩, fun other => ?_⟩
  · rw [parse?_line_json, toJson_eq]
  · have hsame : entry.line .json none = other.line .json none ↔
        entry.toJson none = other.toJson none := by
      refine ⟨fun h => ?_, fun h => congrArg Json.render h⟩
      have hread := congrArg Json.parse? h
      rw [parse?_line_json, parse?_line_json] at hread
      exact Option.some.inj hread
    rw [hsame, toJson_inj_iff, sortedFields_eq_iff]

example : (Entry.mk .warn "films" "no \"Alien\"\n" [("id", "1"), ("by", "you"), ("id", "2")]).line
      .json none
    = "\x7b\"level\":\"WARN\",\"target\":\"films\",\"message\":\"no \\\"Alien\\\"\\n\","
      ++ "\"fields\":\x7b\"by\":\"you\",\"id\":\"2\"\x7d\x7d" := by decide +kernel

end Entry

end Log

end DocSearch
