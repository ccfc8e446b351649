/-
Members of an object under the names that a record knows them by. What a record is written as is
stated in rows, a name and the value if there is one, and only the rows with a value stand in the
object (`present`). Rows with different names can be told from what stands (`present_injective`).

The record is read back from them whatever spelling each name has and in whatever order the members
come, since a reader looks at what is given for each of its fields and at nothing else
(`Shape.Reads.readMembers`). `Shape.Reads` grows with the shape, field by field.
-/
import DocSearch.Proofs.ShapeFacts
import Mathlib.Data.List.Perm.Basic

namespace DocSearch.Json

/-! ## Rows -/

/-- The members of the rows that have a value. -/
def present : List (String × Option Json) → List (String × Json)
  | [] => []
  | (name, value?) :: rows => optional name value? ++ present rows

theorem mem_names_of_mem_present {name : String} {rows : List (String × Option Json)}
    (h : name ∈ Entries.names (present rows)) : name ∈ Entries.names rows := by
  induction rows with
  | nil => exact h
  | cons row rows ih =>
    obtain ⟨n, value?⟩ := row
    rw [Entries.names_cons, List.mem_cons]
    cases value? with
    | none => exact .inr (ih h)
    | some value =>
      have hcons : name = n ∨ name ∈ Entries.names (present rows) := by
        simpa [present, optional] using h
      exact hcons.imp_right ih

theorem mem_present_iff {member : String × Json} {rows : List (String × Option Json)} :
    member ∈ present rows ↔ (member.1, some member.2) ∈ rows := by
  obtain ⟨name, value⟩ := member
  induction rows with
  | nil => simp [present]
  | cons row rows ih =>
    obtain ⟨n, value?⟩ := row
    cases value? <;> simp [present, optional, ih]

/-- What stands of rows with different names tells the rows. -/
theorem present_injective {as bs : List (String × Option Json)}
    (hnames : Entries.names as = Entries.names bs) (hnodup : (Entries.names as).Nodup)
    (h : present as = present bs) : as = bs := by
  induction as generalizing bs with
  | nil => exact (List.map_eq_nil_iff.mp hnames.symm).symm
  | cons a as ih =>
    obtain ⟨name, value?⟩ := a
    match bs with
    | [] => cases hnames
    | (other, other?) :: bs =>
      obtain ⟨hname, hrest⟩ : name = other ∧ Entries.names as = Entries.names bs :=
        List.cons.inj hnames
      subst hname
      obtain ⟨hnew, hdistinct⟩ := List.nodup_cons.mp hnodup
      have hnewAs : name ∉ Entries.names (present as) := mt mem_names_of_mem_present hnew
      have hnewBs : name ∉ Entries.names (present bs) :=
        mt mem_names_of_mem_present (hrest ▸ hnew)
      -- A value on one side only would put the name among those of the other rows.
      cases value? with
      | none =>
        cases other? with
        | none => rw [ih hrest hdistinct h]
        | some value =>
          have hmem : present as = (name, value) :: present bs := h
          rw [hmem] at hnewAs
          exact absurd List.mem_cons_self hnewAs
      | some value =>
        cases other? with
        | none =>
          have hmem : (name, value) :: present as = present bs := h
          rw [← hmem] at hnewBs
          exact absurd List.mem_cons_self hnewBs
        | some content =>
          obtain ⟨hhead, htail⟩ := List.cons.inj h
          cases hhead
          rw [ih hrest hdistinct htail]

/-! ## Fields of rows -/

namespace Slot

theorem given_append (slot : Slot) (before after : List (String × Json)) :
    slot.given (before ++ after) = slot.given before ++ slot.given after := by
  simp [given]

theorem given_eq_nil {slot : Slot} {members : List (String × Json)}
    (h : ∀ name ∈ Entries.names members, slot.answersTo name = false) :
    slot.given members = [] := by
  induction members with
  | nil => rfl
  | cons member members ih =>
    obtain ⟨name, value⟩ := member
    obtain ⟨hname, hmembers⟩ := List.forall_mem_cons.mp h
    rw [given_cons, hname]
    exact ih hmembers

theorem given_optional {slot : Slot} {name : String} (h : slot.answersTo name = true)
    (value? : Option Json) : slot.given (optional name value?) = value?.toList := by
  cases value? with
  | none => rfl
  | some value => rw [optional, given_cons, h]; rfl

/-- Each field stands under one of its spellings in the row at its place. -/
def SpelledBy (slots : List Slot) (rows : List (String × Option Json)) : Prop :=
  List.Forall₂ (fun slot row => row.1 ∈ slot.spellings) slots rows

theorem SpelledBy.not_answersTo {slot : Slot} {slots : List Slot}
    {rows : List (String × Option Json)} (h : SpelledBy slots rows)
    (hother : ∀ other ∈ slots, ∀ name ∈ slot.spellings, name ∉ other.spellings) :
    ∀ name ∈ Entries.names rows, slot.answersTo name = false := by
  intro name hname
  rw [Bool.eq_false_iff]
  intro hanswers
  induction h with
  | nil => cases hname
  | @cons first row slots rows hrow _ ih =>
    rw [Entries.names_cons, List.mem_cons] at hname
    rcases hname with rfl | hname
    · exact hother first List.mem_cons_self row.1 (answersTo_iff.mp hanswers) hrow
    · exact ih (fun other ho => hother other (List.mem_cons_of_mem _ ho)) hname

/-- What stands for a field is the value of its row. -/
theorem SpelledBy.given_present {slots : List Slot} {rows : List (String × Option Json)}
    (h : SpelledBy slots rows) (hd : Distinct slots) {slot : Slot} (hs : slot ∈ slots) :
    slot.given (present rows)
      = (valueAt (slots.map Slot.name) (rows.map Prod.snd) slot.name).toList := by
  induction h with
  | nil => cases hs
  | @cons first row slots rows hrow hrows ih =>
    obtain ⟨name, value?⟩ := row
    obtain ⟨hd', hother⟩ := hd.cons
    rw [present, given_append, List.map_cons, List.map_cons, valueAt_cons]
    rcases List.mem_cons.mp hs with rfl | hs
    · have hothers : slot.given (present rows) = [] := by
        refine given_eq_nil fun other ho => ?_
        exact SpelledBy.not_answersTo hrows hother other (mem_names_of_mem_present ho)
      rw [given_optional (answersTo_iff.mpr hrow), hothers, if_pos rfl, List.append_nil]
    · have hname : slot.name ≠ first.name := by
        intro heq
        exact hother slot hs first.name (by simp [spellings]) (by simp [spellings, heq])
      have hfirst : slot.given (optional name value?) = [] := by
        refine given_eq_nil fun other ho => ?_
        rw [Bool.eq_false_iff]
        intro hanswers
        have hone : other = name := by
          cases value? <;> simp [optional] at ho
          exact ho
        exact hother slot hs name hrow (hone ▸ answersTo_iff.mp hanswers)
      rw [hfirst, if_neg hname, List.nil_append]
      exact ih hd' hs

end Slot

/-! ## Records of rows -/

theorem valueAt_concat_of_mem {names : List String} {values : List (Option Json)}
    (hlength : names.length = values.length) (last : String) (value? : Option Json) {name : String}
    (h : name ∈ names) :
    valueAt (names ++ [last]) (values ++ [value?]) name = valueAt names values name := by
  induction names generalizing values with
  | nil => cases h
  | cons first names ih =>
    match values with
    | [] => cases hlength
    | first? :: values =>
      rw [List.cons_append, List.cons_append, valueAt_cons, valueAt_cons]
      by_cases hname : name = first
      · rw [if_pos hname, if_pos hname]
      · rw [if_neg hname, if_neg hname]
        exact ih (Nat.succ.inj hlength) ((List.mem_cons.mp h).resolve_left hname)

theorem valueAt_concat_self {names : List String} {values : List (Option Json)}
    (hlength : names.length = values.length) {last : String} (h : last ∉ names)
    (value? : Option Json) :
    valueAt (names ++ [last]) (values ++ [value?]) last = value? := by
  induction names generalizing values with
  | nil =>
    obtain rfl : values = [] := List.length_eq_zero_iff.mp hlength.symm
    rw [List.nil_append, List.nil_append, valueAt_cons, if_pos rfl]
  | cons first names ih =>
    match values with
    | [] => cases hlength
    | first? :: values =>
      obtain ⟨hfirst, hrest⟩ := not_or.mp (mt List.mem_cons.mpr h)
      rw [List.cons_append, List.cons_append, valueAt_cons, if_neg hfirst]
      exact ih (Nat.succ.inj hlength) hrest

namespace Shape

variable {α β : Type}

/-- A shape reads rows, one for each field in order, as a record. -/
structure Reads (shape : Shape α) (rows : List (String × Option Json)) (r : α) : Prop where
  lawful : shape.Lawful
  spelledBy : Slot.SpelledBy shape.slots rows
  build_eq : shape.build (valueAt shape.names (rows.map Prod.snd)) = .ok r

theorem Reads.of (title : String) (make : α) : (Shape.of title make).Reads [] make :=
  ⟨.of title make, .nil, rfl⟩

theorem Reads.add {shape : Shape (β → α)} {rows : List (String × Option Json)} {make : β → α}
    (h : shape.Reads rows make) {name : String} {aliases : List String} {mayLack : Bool}
    {read : Json → Decoded β} {absent : Decoded β} {written : String} {value? : Option Json} {b : β}
    (hnew : (shape.spellings ++ name :: aliases).Nodup) (hwritten : written ∈ name :: aliases)
    (hb : (match value? with | some value => read value | none => absent) = .ok b) :
    (shape.add name aliases mayLack read absent).Reads (rows ++ [(written, value?)]) (make b) := by
  have hlength : shape.names.length = (rows.map Prod.snd).length := by
    rw [names, List.length_map, List.length_map]
    exact h.spelledBy.length_eq
  have hname : name ∉ shape.names := by
    intro hmem
    obtain ⟨slot, hslot, rfl⟩ := List.mem_map.mp hmem
    have hspelled : slot.name ∈ shape.spellings :=
      List.mem_flatMap.mpr ⟨slot, hslot, List.mem_cons_self⟩
    exact (List.nodup_append.mp hnew).2.2 _ hspelled _ List.mem_cons_self rfl
  have hnames : (shape.add name aliases mayLack read absent).names = shape.names ++ [name] := by
    rw [names, names, Shape.add, List.map_append]
    rfl
  refine ⟨h.lawful.add hnew, ?spelledBy, ?build_eq⟩
  case spelledBy => exact List.rel_append h.spelledBy (.cons hwritten .nil)
  case build_eq =>
    rw [hnames, List.map_append, build_add_eq_ok_iff]
    refine ⟨make, ?_, b, ?_, rfl⟩
    · -- The fields before do not see the new row.
      rw [← h.build_eq]
      refine h.lawful.depends _ _ fun slot hslot => ?_
      exact valueAt_concat_of_mem hlength name value? (List.mem_map_of_mem hslot)
    · rw [List.map_cons, List.map_nil, valueAt_concat_self hlength hname]
      exact hb

theorem Reads.required {shape : Shape (β → α)} {rows : List (String × Option Json)} {make : β → α}
    (h : shape.Reads rows make) {name : String} {read : Json → Decoded β} {value : Json} {b : β}
    (hnew : (shape.spellings ++ [name]).Nodup) (hb : read value = .ok b) :
    (shape.required name read).Reads (rows ++ [(name, some value)]) (make b) :=
  h.add hnew List.mem_cons_self hb

theorem Reads.setting {shape : Shape (Option β → α)} {rows : List (String × Option Json)}
    {make : Option β → α} (h : shape.Reads rows make) {name : String} {aliases : List String}
    {read : Json → Decoded β} {written : String} {value? : Option Json} {b? : Option β}
    (hnew : (shape.spellings ++ name :: aliases).Nodup) (hwritten : written ∈ name :: aliases)
    (hb : Optionally (fun value b => read value = .ok b) value? b?) :
    (shape.setting name aliases read).Reads (rows ++ [(written, value?)]) (make b?) :=
  h.add hnew hwritten (optionally_iff.mpr hb)

theorem Reads.given_present {shape : Shape α} {rows : List (String × Option Json)} {r : α}
    (h : shape.Reads rows r) {slot : Slot} (hs : slot ∈ shape.slots) :
    slot.given (present rows) = (valueAt shape.names (rows.map Prod.snd) slot.name).toList :=
  h.spelledBy.given_present h.lawful.distinct hs

/-- An object is read as the record if what it gives for each field is what the rows give. -/
theorem Reads.readMembers {shape : Shape α} {rows : List (String × Option Json)} {r : α}
    (h : shape.Reads rows r) {members : List (String × Json)}
    (hgiven : ∀ slot ∈ shape.slots, slot.given members = slot.given (present rows)) :
    shape.readMembers members = .ok r := by
  rw [readMembers_eq_ok_iff h.lawful]
  constructor
  · intro slot hs
    rw [hgiven slot hs, h.given_present hs]
    cases valueAt shape.names (rows.map Prod.snd) slot.name <;> simp
  · rw [← h.build_eq]
    refine h.lawful.depends _ _ fun slot hs => ?_
    rw [Slot.lookup_gathered h.lawful.distinct hs, hgiven slot hs, h.given_present hs]
    cases valueAt shape.names (rows.map Prod.snd) slot.name <;> rfl

/-- What is written tells the record that is read. -/
theorem Reads.eq_of_present {shape : Shape α} {rows others : List (String × Option Json)} {r s : α}
    (hr : shape.Reads rows r) (hs : shape.Reads others s) (h : present rows = present others) :
    r = s := by
  have hread : shape.readMembers (present rows) = .ok r := hr.readMembers fun _ _ => rfl
  have hother : shape.readMembers (present others) = .ok s := hs.readMembers fun _ _ => rfl
  rw [h, hother] at hread
  exact (Except.ok.inj hread).symm

end Shape

/-! ## Spellings -/

/-- Every underscore dropped and the letter behind it turned into a capital one. -/
def camelChars : List Char → List Char
  | '_' :: c :: rest => c.toUpper :: camelChars rest
  | c :: rest => c :: camelChars rest
  | [] => []

/-- A name of several words in one, the words told apart by capital letters. -/
def camelCase (name : String) : String := String.ofList (camelChars name.toList)

example : camelCase "max_determinized_states" = "maxDeterminizedStates" := by decide +kernel

/-- The member under its own name, or under that name in one word. -/
def Respells (written member : String × Json) : Prop :=
  written.2 = member.2 ∧ (written.1 = member.1 ∨ written.1 = camelCase member.1)

namespace Slot

theorem given_respelled {slot : Slot} {written members : List (String × Json)}
    (h : List.Forall₂ Respells written members)
    (hcamel : ∀ name ∈ Entries.names members,
      slot.answersTo (camelCase name) = slot.answersTo name) :
    slot.given written = slot.given members := by
  induction h with
  | nil => rfl
  | @cons first member written members hfirst _ ih =>
    obtain ⟨spelling, value⟩ := first
    obtain ⟨name, content⟩ := member
    obtain ⟨hvalue, hspelling⟩ := hfirst
    obtain ⟨hname, hmembers⟩ := List.forall_mem_cons.mp hcamel
    have hanswers : slot.answersTo spelling = slot.answersTo name := by
      obtain rfl | rfl := hspelling
      · rfl
      · exact hname
    rw [given_cons, given_cons, hanswers, ih hmembers, show value = content from hvalue]

theorem given_perm {slot : Slot} {members others : List (String × Json)}
    (h : members.Perm others) : (slot.given members).Perm (slot.given others) :=
  (h.filter _).map _

end Slot

/-- The tag is found wherever it stands, if no member has its name in either spelling. -/
theorem lookup_of_perm {tag : String} {named written members : List (String × Json)}
    (hwritten : List.Forall₂ Respells written named)
    (hnames : ∀ name ∈ Entries.names named, name ≠ tag ∧ camelCase name ≠ tag) {content : Json}
    (hperm : members.Perm ((tag, content) :: written)) : members.lookup tag = some content := by
  -- The tag is looked up as if it were a field.
  let slot : Slot := ⟨tag, [], false, fun _ => .ok ()⟩
  have hanswers : ∀ name, slot.answersTo name = decide (tag = name) := by
    intro name
    simp [Slot.answersTo, slot]
  have hnone : slot.given written = [] := by
    have hcamel : ∀ name ∈ Entries.names named,
        slot.answersTo (camelCase name) = slot.answersTo name := by
      intro name hname
      obtain ⟨hne, hne'⟩ := hnames name hname
      rw [hanswers, hanswers, decide_eq_false hne.symm, decide_eq_false hne'.symm]
    rw [Slot.given_respelled hwritten hcamel]
    refine Slot.given_eq_nil fun name hname => ?_
    rw [hanswers, decide_eq_false (hnames name hname).1.symm]
  have hone : slot.given ((tag, content) :: written) = [content] := by
    rw [Slot.given_cons, hanswers, decide_eq_true rfl, if_pos rfl, hnone]
  have hsame : (slot.given members).Perm [content] := hone ▸ Slot.given_perm hperm
  have hhead : (slot.given members).head? = members.lookup tag := Shape.head?_given rfl members
  rw [← hhead, List.perm_singleton.mp hsame]
  rfl

namespace Shape

variable {α : Type}

/-- Each field answers to a name and to the same name in one word alike, none answers to `tag`, and
no name is the tag. -/
def Knows (shape : Shape α) (tag : String) (names : List String) : Prop :=
  (∀ slot ∈ shape.slots, slot.answersTo tag = false ∧
    ∀ name ∈ names, slot.answersTo (camelCase name) = slot.answersTo name) ∧
  ∀ name ∈ names, name ≠ tag ∧ camelCase name ≠ tag

instance (shape : Shape α) (tag : String) (names : List String) :
    Decidable (shape.Knows tag names) :=
  inferInstanceAs (Decidable ((∀ slot ∈ shape.slots, _ ∧ _) ∧ ∀ name ∈ names, _ ∧ _))

/-- A record is read from what it is written as beside a tag, whichever of the two spellings each
name has and in whatever order the members come. -/
theorem Reads.readMembers_of_perm {shape : Shape α} {rows : List (String × Option Json)} {r : α}
    (h : shape.Reads rows r) {tag : String} (hknows : shape.Knows tag (Entries.names rows))
    {written members : List (String × Json)}
    (hwritten : List.Forall₂ Respells written (present rows))
    {content : Json} (hperm : members.Perm ((tag, content) :: written)) :
    shape.readMembers members = .ok r := by
  refine h.readMembers fun slot hs => ?_
  obtain ⟨htag, hcamel⟩ := hknows.1 slot hs
  have hgiven : slot.given ((tag, content) :: written) = slot.given (present rows) := by
    rw [Slot.given_cons, htag]
    refine Slot.given_respelled hwritten fun name hname => ?_
    exact hcamel name (mem_names_of_mem_present hname)
  have hsame : (slot.given members).Perm (slot.given ((tag, content) :: written)) :=
    Slot.given_perm hperm
  rw [hgiven] at hsame
  -- There is one value at most, so no order to keep.
  rw [h.given_present hs] at hsame ⊢
  cases hvalue : valueAt shape.names (rows.map Prod.snd) slot.name with
  | none => rw [hvalue] at hsame; exact hsame.eq_nil
  | some value => rw [hvalue] at hsame; exact List.perm_singleton.mp hsame

end Shape

end DocSearch.Json
