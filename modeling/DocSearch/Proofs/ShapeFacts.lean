/-
What a shape reads: an object in which no field stands twice, whatever other
members it has and in whatever order they come, or an array with one item for
each field; and then the record that the values build.

Both ways of reading hand the values to the same `build`, so a fact about a
record is proved once, on the values, and holds of either form. What makes that
work is `Lawful`: the spellings of different fields differ, the record depends
on its fields alone, and every value it is built from has passed its check.
-/
import DocSearch.Json.Shape
import Mathlib.Data.List.Forall2

namespace DocSearch.Json

/-! ## Opening readers -/

theorem bind_eq_ok_iff {ε α β : Type} {x : Except ε α} {f : α → Except ε β} {r : β} :
    (x >>= f) = .ok r ↔ ∃ a, x = .ok a ∧ f a = .ok r := by
  cases x <;> simp [bind, Except.bind]

theorem bind_eq_error_iff {ε α β : Type} {x : Except ε α} {f : α → Except ε β} {e : ε} :
    (x >>= f) = .error e ↔ x = .error e ∨ ∃ a, x = .ok a ∧ f a = .error e := by
  cases x <;> simp [bind, Except.bind]

theorem map_eq_ok_iff {ε α β : Type} {x : Except ε α} {f : α → β} {r : β} :
    f <$> x = .ok r ↔ ∃ a, x = .ok a ∧ f a = r := by
  cases x <;> simp [Functor.map, Except.map]

theorem map_eq_error_iff {ε α β : Type} {x : Except ε α} {f : α → β} {e : ε} :
    f <$> x = .error e ↔ x = .error e := by
  cases x <;> simp [Functor.map, Except.map]

theorem mapError_eq_ok_iff {ε ε' α : Type} {x : Except ε α} {f : ε → ε'} {r : α} :
    x.mapError f = .ok r ↔ x = .ok r := by
  cases x <;> simp [Except.mapError]

theorem mapError_eq_error_iff {ε ε' α : Type} {x : Except ε α} {f : ε → ε'} {e : ε'} :
    x.mapError f = .error e ↔ ∃ cause, x = .error cause ∧ f cause = e := by
  cases x <;> simp [Except.mapError]

theorem readOption_eq_ok_iff {α : Type} {read : Json → Decoded α} {value : Json} {r : Option α} :
    readOption read value = .ok r
      ↔ (value = .null ∧ r = none) ∨ (value ≠ .null ∧ ∃ a, read value = .ok a ∧ r = some a) := by
  cases value with
  | null => simp [readOption, @eq_comm _ none]
  | _ => simp [readOption, map_eq_ok_iff, @eq_comm _ _ r]

theorem mapM_eq_ok_iff {ε α β : Type} (read : β → Except ε α) (items : List β) (as : List α) :
    items.mapM read = .ok as ↔ List.Forall₂ (fun item a => read item = .ok a) items as := by
  induction items generalizing as with
  | nil => cases as <;> simp [pure, Except.pure]
  | cons item items ih =>
    rw [List.mapM_cons, bind_eq_ok_iff]
    constructor
    · rintro ⟨a, ha, h⟩
      obtain ⟨rest, hrest, h⟩ := bind_eq_ok_iff.mp h
      cases h
      exact .cons ha ((ih rest).mp hrest)
    · intro h
      cases h with
      | cons ha hrest => exact ⟨_, ha, bind_eq_ok_iff.mpr ⟨_, (ih _).mpr hrest, rfl⟩⟩

/-- A list is read when each of its items is. -/
theorem exists_mapM_eq_ok_iff {ε α β : Type} {read : β → Except ε α} {items : List β} :
    (∃ as, items.mapM read = .ok as) ↔ ∀ item ∈ items, ∃ a, read item = .ok a := by
  simp only [mapM_eq_ok_iff]
  induction items with
  | nil => simp
  | cons item items ih =>
    rw [List.forall_mem_cons, ← ih]
    constructor
    · rintro ⟨_, hall⟩
      cases hall with
      | cons hfirst hrest => exact ⟨⟨_, hfirst⟩, _, hrest⟩
    · rintro ⟨⟨a, hfirst⟩, as, hrest⟩
      exact ⟨a :: as, .cons hfirst hrest⟩

/-- A list is not read when some item of it is not, and the first such item is reported. -/
theorem mapM_eq_error_iff {ε α β : Type} {read : β → Except ε α} {items : List β} {cause : ε} :
    items.mapM read = .error cause ↔ ∃ before item after, items = before ++ item :: after ∧
      (∀ other ∈ before, ∃ a, read other = .ok a) ∧ read item = .error cause := by
  constructor
  · intro h
    induction items with
    | nil => cases h
    | cons first rest ih =>
      rw [List.mapM_cons, bind_eq_error_iff] at h
      rcases h with hfirst | ⟨a, hfirst, h⟩
      · exact ⟨[], first, rest, rfl, by simp, hfirst⟩
      · rcases bind_eq_error_iff.mp h with hrest | ⟨as, -, h⟩
        · obtain ⟨before, item, after, rfl, hbefore, hitem⟩ := ih hrest
          exact ⟨first :: before, item, after, rfl, by simpa [hfirst] using hbefore, hitem⟩
        · cases h
  · rintro ⟨before, item, after, rfl, hbefore, hitem⟩
    obtain ⟨as, has⟩ := exists_mapM_eq_ok_iff.mpr hbefore
    rw [List.mapM_append, has, List.mapM_cons, hitem]
    rfl

theorem readList_eq_ok_iff {α : Type} {read : Json → Decoded α} {value : Json} {as : List α} :
    readList read value = .ok as
      ↔ ∃ items, value = .array items ∧ List.Forall₂ (fun item a => read item = .ok a) items as := by
  cases value <;> simp [readList, mapM_eq_ok_iff]

/-! ## The fields of an object -/

namespace Slot

/-- The names under which a field may stand. -/
def spellings (slot : Slot) : List String := slot.name :: slot.aliases

/-- No name stands for two fields. -/
def Distinct (slots : List Slot) : Prop := (slots.flatMap spellings).Nodup

/-- The values of the members that answer to a field. -/
def given (slot : Slot) (members : List (String × Json)) : List Json :=
  (members.filter fun member => slot.answersTo member.1).map Prod.snd

/-- The members that answer to some field, each under the field's own name. -/
def gathered (slots : List Slot) (members : List (String × Json)) : List (String × Json) :=
  members.filterMap fun member => (find? slots member.1).map fun slot => (slot.name, member.2)

theorem answersTo_iff {slot : Slot} {name : String} :
    slot.answersTo name = true ↔ name ∈ slot.spellings := by
  simp [answersTo, spellings, @eq_comm _ name]

theorem of_find? {slots : List Slot} {name : String} {slot : Slot}
    (h : find? slots name = some slot) :
    slot ∈ slots ∧ slot.answersTo name = true :=
  ⟨List.mem_of_find?_eq_some h, by simpa using List.find?_some h⟩

theorem Distinct.cons {slot : Slot} {slots : List Slot} (h : Distinct (slot :: slots)) :
    Distinct slots ∧ ∀ other ∈ slots, ∀ name ∈ slot.spellings, name ∉ other.spellings := by
  simp only [Distinct, List.flatMap_cons, List.nodup_append] at h
  refine ⟨h.2.1, fun other ho name hn hm => ?_⟩
  exact h.2.2 name hn name (List.mem_flatMap.mpr ⟨other, ho, hm⟩) rfl

/-- A name finds the one field that answers to it. -/
theorem Distinct.find?_eq {slots : List Slot} (hd : Distinct slots) {slot : Slot}
    (hs : slot ∈ slots) {name : String} (hn : slot.answersTo name = true) :
    find? slots name = some slot := by
  induction slots with
  | nil => cases hs
  | cons first slots ih =>
    obtain ⟨hd', hne⟩ := hd.cons
    rcases List.mem_cons.mp hs with rfl | hs
    · simp [find?, hn]
    · have hfirst : first.answersTo name = false := by
        rw [Bool.eq_false_iff]
        intro h
        exact hne slot hs name (answersTo_iff.mp h) (answersTo_iff.mp hn)
      simpa [find?, List.find?_cons, hfirst] using ih hd' hs

theorem Distinct.eq_of_name {slots : List Slot} (hd : Distinct slots) {a b : Slot} (ha : a ∈ slots)
    (hb : b ∈ slots) (h : a.name = b.name) : a = b := by
  have hfind : find? slots a.name = some a :=
    hd.find?_eq ha (answersTo_iff.mpr (by simp [spellings]))
  rw [hd.find?_eq hb (answersTo_iff.mpr (by simp [spellings, h]))] at hfind
  exact (Option.some.inj hfind).symm

theorem given_cons (slot : Slot) (name : String) (value : Json) (members : List (String × Json)) :
    slot.given ((name, value) :: members)
      = if slot.answersTo name then value :: slot.given members else slot.given members := by
  simp only [given, List.filter_cons]
  split <;> simp

/-- A field may still come as often as it has not come yet, and what comes passes its check. -/
def Fits (seen members : List (String × Json)) (slot : Slot) : Prop :=
  (slot.given members).length ≤ (if (seen.lookup slot.name).isSome then 0 else 1) ∧
    ∀ value ∈ slot.given members, slot.check value = .ok ()

theorem lookup_append_singleton (seen : List (String × Json)) (name other : String) (value : Json) :
    ((seen ++ [(name, value)]).lookup other).isSome
      = ((seen.lookup other).isSome || decide (other = name)) := by
  induction seen with
  | nil => by_cases h : other = name <;> simp [List.lookup_cons, beq_eq_false_iff_ne.mpr, h]
  | cons entry seen ih =>
    obtain ⟨n, v⟩ := entry
    simp only [List.cons_append, List.lookup_cons]
    by_cases h : other == n <;> simp [h, ih]

/-- Seeing a value for one field leaves the others as they were. -/
theorem fits_cons_iff {slots : List Slot} (hd : Distinct slots) {slot : Slot} (hs : slot ∈ slots)
    {seen members : List (String × Json)} {name : String} {value : Json}
    (hn : slot.answersTo name = true) :
    (∀ other ∈ slots, other.Fits seen ((name, value) :: members)) ↔
      (seen.lookup slot.name).isSome = false ∧ slot.check value = .ok () ∧
        ∀ other ∈ slots, other.Fits (seen ++ [(slot.name, value)]) members := by
  have hother : ∀ other ∈ slots, other ≠ slot → other.answersTo name = false
      ∧ other.name ≠ slot.name := by
    intro other ho hne
    refine ⟨?_, fun h => hne (hd.eq_of_name ho hs h)⟩
    rw [Bool.eq_false_iff]
    intro h
    exact hne (Option.some.inj ((hd.find?_eq ho h).symm.trans (hd.find?_eq hs hn)))
  constructor
  · intro h
    have hslot := h slot hs
    simp only [Fits, given_cons, hn, if_true, List.length_cons] at hslot
    have hseen : (seen.lookup slot.name).isSome = false := by
      rw [Bool.eq_false_iff]
      intro hsome
      simp [hsome] at hslot
    refine ⟨hseen, hslot.2 value (by simp), fun other ho => ?_⟩
    simp only [Fits, lookup_append_singleton]
    by_cases he : other = slot
    · subst he
      simp only [hseen, decide_true, Bool.or_true, if_true, Nat.le_zero, List.length_eq_zero_iff]
      refine ⟨?_, fun v hv => hslot.2 v (by simp [hv])⟩
      simpa [hseen] using hslot.1
    · obtain ⟨hans, hname⟩ := hother other ho he
      rw [decide_eq_false hname, Bool.or_false]
      simpa [Fits, given_cons, hans] using h other ho
  · rintro ⟨hseen, hcheck, h⟩ other ho
    have hfits := h other ho
    simp only [Fits, lookup_append_singleton] at hfits
    by_cases he : other = slot
    · subst he
      simp only [decide_true, Bool.or_true, if_true, Nat.le_zero, List.length_eq_zero_iff] at hfits
      simp [Fits, given_cons, hn, hfits.1, hseen, hcheck]
    · obtain ⟨hans, hname⟩ := hother other ho he
      rw [decide_eq_false hname, Bool.or_false] at hfits
      simpa [Fits, given_cons, hans] using hfits

/-- Visiting the members of an object succeeds just when every field fits, and gathers them. -/
theorem visit_eq_ok_iff {slots : List Slot} (hd : Distinct slots)
    (members seen values : List (String × Json)) :
    visit slots seen members = .ok values
      ↔ (∀ slot ∈ slots, slot.Fits seen members) ∧ values = seen ++ gathered slots members := by
  induction members generalizing seen with
  | nil => simp [visit, Fits, given, gathered, @eq_comm _ seen]
  | cons member members ih =>
    obtain ⟨name, value⟩ := member
    cases hf : find? slots name with
    | none =>
      have hans : ∀ slot ∈ slots, slot.answersTo name = false := by
        intro slot hs
        rw [Bool.eq_false_iff]
        intro h
        rw [hd.find?_eq hs h] at hf
        cases hf
      have hfits : (∀ slot ∈ slots, slot.Fits seen ((name, value) :: members))
          ↔ ∀ slot ∈ slots, slot.Fits seen members := by
        refine forall₂_congr fun slot hs => ?_
        simp [Fits, given_cons, hans slot hs]
      simp only [visit, hf, ih, hfits, gathered, List.filterMap_cons, Option.map_none]
    | some slot =>
      obtain ⟨hs, hn⟩ := of_find? hf
      rw [fits_cons_iff hd hs hn]
      simp only [visit, hf, gathered, List.filterMap_cons, Option.map_some]
      cases hseen : (seen.lookup slot.name).isSome with
      | true => simp
      | false =>
        simp only [Bool.false_eq_true, if_false, bind_eq_ok_iff, ih, true_and, gathered,
          List.append_assoc, List.singleton_append, and_assoc]
        exact ⟨fun ⟨_, hcheck, h⟩ => ⟨hcheck, h⟩, fun ⟨hcheck, h⟩ => ⟨_, hcheck, h⟩⟩

theorem lookup_gathered {slots : List Slot} (hd : Distinct slots) {slot : Slot} (hs : slot ∈ slots)
    (members : List (String × Json)) :
    (gathered slots members).lookup slot.name = (slot.given members).head? := by
  induction members with
  | nil => rfl
  | cons member members ih =>
    obtain ⟨name, value⟩ := member
    rw [given_cons]
    simp only [gathered, List.filterMap_cons]
    cases hf : find? slots name with
    | none =>
      have hans : slot.answersTo name = false := by
        rw [Bool.eq_false_iff]
        intro h
        rw [hd.find?_eq hs h] at hf
        cases hf
      simpa [hans, gathered] using ih
    | some found =>
      simp only [Option.map_some, List.lookup_cons]
      by_cases he : found = slot
      · subst he
        simp [(of_find? hf).2]
      · have hans : slot.answersTo name = false := by
          rw [Bool.eq_false_iff]
          intro h
          exact he (Option.some.inj (hf.symm.trans (hd.find?_eq hs h)))
        have hname : (slot.name == found.name) = false := by
          rw [beq_eq_false_iff_ne]
          intro h
          exact he (hd.eq_of_name (of_find? hf).1 hs h.symm)
        simpa [hans, hname, gathered] using ih

/-! ## The fields of an array -/

/-- Placing the items of an array succeeds just when each has a field, each field without an item may
lack, and every item passes the check of its field. -/
theorem place_eq_ok_iff (title : String) (count length : Nat) (slots : List Slot)
    (items : List Json) (values : List (String × Json)) :
    place title count length slots items = .ok values ↔
      items.length ≤ slots.length ∧ (∀ slot ∈ slots.drop items.length, slot.mayLack = true) ∧
        (∀ pair ∈ slots.zip items, pair.1.check pair.2 = .ok ()) ∧
        values = (slots.zip items).map fun pair => (pair.1.name, pair.2) := by
  induction slots generalizing items values with
  | nil => cases items <;> simp [place, @eq_comm _ []]
  | cons slot slots ih =>
    cases items with
    | nil =>
      rw [place]
      split
      · next hl => simp [ih, hl]
      · next hl => simp [hl]
    | cons item items =>
      simp only [place, bind_eq_ok_iff, ih, List.length_cons, Nat.add_le_add_iff_right,
        List.drop_succ_cons, List.zip_cons_cons, List.forall_mem_cons, List.map_cons]
      constructor
      · rintro ⟨_, hc, rest, ⟨hl, hd, hr, rfl⟩, h⟩
        cases h
        exact ⟨hl, hd, ⟨hc, hr⟩, rfl⟩
      · rintro ⟨hl, hd, ⟨hc, hr⟩, rfl⟩
        exact ⟨_, hc, _, ⟨hl, hd, hr, rfl⟩, rfl⟩

theorem Distinct.name_ne {slot : Slot} {slots : List Slot} (h : Distinct (slot :: slots))
    {other : Slot} (ho : other ∈ slots) : (other.name == slot.name) = false := by
  rw [beq_eq_false_iff_ne]
  intro he
  exact h.cons.2 other ho slot.name (by simp [spellings]) (by simp [spellings, he])

theorem lookup_zip {slots : List Slot} (hd : Distinct slots) {items : List Json}
    {pair : Slot × Json} (hp : pair ∈ slots.zip items) :
    ((slots.zip items).map fun pair => (pair.1.name, pair.2)).lookup pair.1.name
      = some pair.2 := by
  induction slots generalizing items with
  | nil => simp at hp
  | cons slot slots ih =>
    cases items with
    | nil => simp at hp
    | cons item items =>
      simp only [List.zip_cons_cons, List.mem_cons] at hp
      simp only [List.zip_cons_cons, List.map_cons, List.lookup_cons]
      rcases hp with rfl | hp
      · simp
      · rw [hd.name_ne (List.of_mem_zip hp).1]
        exact ih hd.cons.1 hp

end Slot

/-! ## Building a record -/

namespace Shape

variable {α β : Type}

/-- The fields of a shape are told apart, make up the record, and are checked before. -/
structure Lawful (shape : Shape α) : Prop where
  distinct : Slot.Distinct shape.slots
  depends : ∀ f g : String → Option Json, (∀ slot ∈ shape.slots, f slot.name = g slot.name) →
    shape.build f = shape.build g
  checked : ∀ (f : String → Option Json) r, shape.build f = .ok r →
    ∀ slot ∈ shape.slots, ∀ value, f slot.name = some value → slot.check value = .ok ()

theorem Lawful.of (title : String) (make : α) : (Shape.of title make).Lawful :=
  ⟨by simp [Shape.of, Slot.Distinct], fun _ _ _ => rfl, by simp [Shape.of]⟩

theorem build_add_eq_ok_iff {shape : Shape (β → α)} {name : String} {aliases : List String}
    {mayLack : Bool} {read : Json → Decoded β} {absent : Decoded β} {f : String → Option Json}
    {r : α} :
    (shape.add name aliases mayLack read absent).build f = .ok r ↔
      ∃ make, shape.build f = .ok make ∧
        ∃ b, (match f name with | some value => read value | none => absent) = .ok b ∧
          make b = r := by
  cases hf : f name <;> simp only [add, hf, bind_eq_ok_iff, Except.ok.injEq]

/-- The names that some field answers to. -/
def spellings (shape : Shape α) : List String := shape.slots.flatMap Slot.spellings

@[simp] theorem spellings_of (title : String) (make : α) :
    (Shape.of title make).spellings = [] := rfl

@[simp] theorem spellings_required (shape : Shape (β → α)) (name : String)
    (read : Json → Decoded β) :
    (shape.required name read).spellings = shape.spellings ++ [name] := by
  simp [spellings, required, Shape.add, Slot.spellings]

@[simp] theorem spellings_optional (shape : Shape (Option β → α)) (name : String)
    (read : Json → Decoded β) :
    (shape.optional name read).spellings = shape.spellings ++ [name] := by
  simp [spellings, optional, Shape.add, Slot.spellings]

@[simp] theorem spellings_setting (shape : Shape (Option β → α)) (name : String)
    (aliases : List String) (read : Json → Decoded β) :
    (shape.setting name aliases read).spellings = shape.spellings ++ name :: aliases := by
  simp [spellings, setting, Shape.add, Slot.spellings]

/-- A field whose names are new leaves a shape lawful. -/
theorem Lawful.add {shape : Shape (β → α)} (h : shape.Lawful) {name : String}
    {aliases : List String} {mayLack : Bool} {read : Json → Decoded β} {absent : Decoded β}
    (hnew : (shape.spellings ++ name :: aliases).Nodup) :
    (shape.add name aliases mayLack read absent).Lawful where
  distinct := by simpa [Shape.add, Slot.Distinct, spellings, Slot.spellings] using hnew
  depends f g hfg := by
    have hname : f name = g name :=
      hfg ⟨name, aliases, mayLack, fun value => (fun _ => ()) <$> read value⟩ (by simp [Shape.add])
    have hbuild : shape.build f = shape.build g :=
      h.depends f g fun slot hs => hfg slot (by simp [Shape.add, hs])
    simp only [Shape.add, hbuild, hname]
  checked f r hr slot hs value hv := by
    obtain ⟨make, hmake, b, hb, -⟩ := build_add_eq_ok_iff.mp hr
    simp only [Shape.add, List.mem_append, List.mem_singleton] at hs
    rcases hs with hs | rfl
    · exact h.checked f make hmake slot hs value hv
    · simp only at hv
      rw [hv] at hb
      exact map_eq_ok_iff.mpr ⟨b, hb, rfl⟩

theorem Lawful.required {shape : Shape (β → α)} (h : shape.Lawful) {name : String}
    {read : Json → Decoded β} (hnew : (shape.spellings ++ [name]).Nodup) :
    (shape.required name read).Lawful := h.add hnew

theorem Lawful.optional {shape : Shape (Option β → α)} (h : shape.Lawful) {name : String}
    {read : Json → Decoded β} (hnew : (shape.spellings ++ [name]).Nodup) :
    (shape.optional name read).Lawful := h.add hnew

/-! ### What the values of a field build -/

@[simp] theorem build_of (title : String) (make : α) (f : String → Option Json) :
    (Shape.of title make).build f = .ok make := rfl

theorem build_required_eq_ok_iff {shape : Shape (β → α)} {name : String} {read : Json → Decoded β}
    {f : String → Option Json} {r : α} :
    (shape.required name read).build f = .ok r ↔
      ∃ make, shape.build f = .ok make ∧
        ∃ value b, f name = some value ∧ read value = .ok b ∧ make b = r := by
  rw [required, build_add_eq_ok_iff]
  cases f name <;> simp

/-- A value that may be left out or be null, and what it means otherwise. -/
inductive Optionally (means : Json → β → Prop) : Option Json → Option β → Prop
  | absent : Optionally means none none
  | null : Optionally means (some .null) none
  | given {value b} : value ≠ .null → means value b → Optionally means (some value) (some b)

theorem optionally_iff {read : Json → Decoded β} {value? : Option Json} {b? : Option β} :
    (match value? with | some value => readOption read value | none => .ok none) = .ok b?
      ↔ Optionally (fun value b => read value = .ok b) value? b? := by
  cases value? with
  | none =>
    constructor
    · rintro ⟨⟩
      exact .absent
    · rintro ⟨⟩
      rfl
  | some value =>
    rw [readOption_eq_ok_iff]
    constructor
    · rintro (⟨rfl, rfl⟩ | ⟨hv, b, hb, rfl⟩)
      · exact .null
      · exact .given hv hb
    · rintro (_ | _ | ⟨hv, hb⟩)
      · exact .inl ⟨rfl, rfl⟩
      · exact .inr ⟨hv, _, hb, rfl⟩

theorem build_optional_eq_ok_iff {shape : Shape (Option β → α)} {name : String}
    {read : Json → Decoded β} {f : String → Option Json} {r : α} :
    (shape.optional name read).build f = .ok r ↔
      ∃ make, shape.build f = .ok make ∧
        ∃ b?, Optionally (fun value b => read value = .ok b) (f name) b? ∧ make b? = r := by
  simp only [optional, build_add_eq_ok_iff, optionally_iff]

/-! ## Reading a record -/

/-- An object is read just when no field stands twice and the record can be built. -/
theorem readMembers_eq_ok_iff {shape : Shape α} (h : shape.Lawful) (members : List (String × Json))
    (r : α) :
    shape.readMembers members = .ok r ↔
      (∀ slot ∈ shape.slots, (slot.given members).length ≤ 1) ∧
        shape.build (fun name => (Slot.gathered shape.slots members).lookup name) = .ok r := by
  simp only [readMembers, bind_eq_ok_iff, Slot.visit_eq_ok_iff h.distinct, List.nil_append]
  constructor
  · rintro ⟨_, ⟨hfits, rfl⟩, hb⟩
    exact ⟨fun slot hs => by simpa using (hfits slot hs).1, hb⟩
  · rintro ⟨honce, hb⟩
    refine ⟨_, ⟨fun slot hs => ⟨by simpa using honce slot hs, fun value hv => ?_⟩, rfl⟩, hb⟩
    refine h.checked _ r hb slot hs value ?_
    -- The field stands once at most, so the value at hand is the one that was gathered.
    rw [Slot.lookup_gathered h.distinct hs]
    match hg : slot.given members, honce slot hs with
    | [only], _ =>
      rw [hg, List.mem_singleton] at hv
      rw [hv, List.head?_cons]
    | [], _ => simp [hg] at hv

/-- An array is read just when it has no more items than there are fields, none that has to stand
lacks, and the record can be built. -/
theorem readItems_eq_ok_iff {shape : Shape α} (h : shape.Lawful) (items : List Json) (r : α) :
    shape.readItems items = .ok r ↔
      items.length ≤ shape.slots.length ∧
        (∀ slot ∈ shape.slots.drop items.length, slot.mayLack = true) ∧
        shape.build (fun name =>
          ((shape.slots.zip items).map fun pair => (pair.1.name, pair.2)).lookup name) = .ok r := by
  simp only [readItems, bind_eq_ok_iff, Slot.place_eq_ok_iff]
  constructor
  · rintro ⟨_, ⟨hl, hd, -, rfl⟩, hb⟩
    exact ⟨hl, hd, hb⟩
  · rintro ⟨hl, hd, hb⟩
    refine ⟨_, ⟨hl, hd, fun pair hp => ?_, rfl⟩, hb⟩
    refine h.checked _ r hb pair.1 (List.of_mem_zip hp).1 pair.2 ?_
    exact Slot.lookup_zip h.distinct hp

end Shape

/-! ## The fields of a value -/

/-- A value has these fields with these values, `none` for one that does not stand: an object in which
none of them stands twice, or an array with one item for each. -/
inductive HasFields (names : List String) : Json → List (Option Json) → Prop
  | members {members : List (String × Json)} :
      (∀ name ∈ names, (Entries.names members).count name ≤ 1) →
      HasFields names (.object members) (names.map fun name => members.lookup name)
  | items {items : List Json} :
      items.length = names.length → HasFields names (.array items) (items.map some)

theorem HasFields.length_eq {names : List String} {value : Json} {values : List (Option Json)}
    (h : HasFields names value values) : values.length = names.length := by
  cases h with
  | members => simp
  | items h => simpa using h

theorem HasFields.of_lookup {names : List String} {members : List (String × Json)}
    {values : List (Option Json)} (h : ∀ name ∈ names, (Entries.names members).count name ≤ 1)
    (hv : (names.map fun name => members.lookup name) = values) :
    HasFields names (.object members) values := hv ▸ .members h

theorem hasFields_object_iff {names : List String} {members : List (String × Json)}
    {values : List (Option Json)} :
    HasFields names (.object members) values ↔
      (∀ name ∈ names, (Entries.names members).count name ≤ 1) ∧
        values = names.map fun name => members.lookup name := by
  constructor
  · intro h
    cases h with
    | members honce => exact ⟨honce, rfl⟩
  · rintro ⟨honce, rfl⟩
    exact .members honce

theorem hasFields_array_iff {names : List String} {items : List Json}
    {values : List (Option Json)} :
    HasFields names (.array items) values ↔
      items.length = names.length ∧ values = items.map some := by
  constructor
  · intro h
    cases h with
    | items hlength => exact ⟨hlength, rfl⟩
  · rintro ⟨hlength, rfl⟩
    exact .items hlength

/-- The value of a field among those in order. -/
def valueAt (names : List String) (values : List (Option Json)) (name : String) : Option Json :=
  ((names.zip values).lookup name).join

@[simp] theorem valueAt_cons (first : String) (names : List String) (value? : Option Json)
    (values : List (Option Json)) (name : String) :
    valueAt (first :: names) (value? :: values) name
      = if name = first then value? else valueAt names values name := by
  by_cases h : name = first
  · simp [valueAt, h]
  · simp [valueAt, List.lookup_cons, beq_eq_false_iff_ne.mpr h, h]

theorem valueAt_map {names : List String} (f : String → Option Json) {name : String}
    (h : name ∈ names) : valueAt names (names.map f) name = f name := by
  induction names with
  | nil => cases h
  | cons first names ih =>
    rw [List.map_cons, valueAt_cons]
    split
    · next hn => rw [hn]
    · next hn => exact ih ((List.mem_cons.mp h).resolve_left hn)

theorem valueAt_items (slots : List Slot) (items : List Json) (name : String) :
    valueAt (slots.map Slot.name) (items.map some) name
      = ((slots.zip items).map fun pair => (pair.1.name, pair.2)).lookup name := by
  induction slots generalizing items with
  | nil => rfl
  | cons slot slots ih =>
    cases items with
    | nil => rfl
    | cons item items =>
      simp only [List.map_cons, valueAt_cons, List.zip_cons_cons, List.lookup_cons, ih]
      by_cases hn : name = slot.name <;> simp [hn, beq_eq_false_iff_ne.mpr]

namespace Shape

variable {α : Type}

/-- The names of the fields, in order. -/
def names (shape : Shape α) : List String := shape.slots.map Slot.name

/-- Every field has one spelling and has to have a place in an array. -/
def Plain (shape : Shape α) : Prop :=
  ∀ slot ∈ shape.slots, slot.aliases = [] ∧ slot.mayLack = false

theorem length_given {slot : Slot} (h : slot.aliases = []) (members : List (String × Json)) :
    (slot.given members).length = (Entries.names members).count slot.name := by
  induction members with
  | nil => rfl
  | cons member members ih =>
    obtain ⟨name, value⟩ := member
    rw [Slot.given_cons, Entries.names_cons, List.count_cons]
    by_cases hn : slot.name = name
    · simp [Slot.answersTo, hn, ih]
    · simp [Slot.answersTo, h, hn, Ne.symm hn, ih]

theorem head?_given {slot : Slot} (h : slot.aliases = []) (members : List (String × Json)) :
    (slot.given members).head? = members.lookup slot.name := by
  induction members with
  | nil => rfl
  | cons member members ih =>
    obtain ⟨name, value⟩ := member
    rw [Slot.given_cons, List.lookup_cons]
    by_cases hn : slot.name = name
    · simp [Slot.answersTo, hn]
    · simp [Slot.answersTo, h, hn, beq_eq_false_iff_ne.mpr hn, ih]

theorem readMembers_eq_ok_iff_hasFields {shape : Shape α} (h : shape.Lawful) (hp : shape.Plain)
    {members : List (String × Json)} {r : α} :
    shape.readMembers members = .ok r ↔
      ∃ values, (Json.object members).HasFields shape.names values ∧
        shape.build (valueAt shape.names values) = .ok r := by
  have hbuild : shape.build (fun name => (Slot.gathered shape.slots members).lookup name)
      = shape.build (valueAt shape.names (shape.names.map fun name => members.lookup name)) := by
    refine h.depends _ _ fun slot hs => ?_
    rw [names, valueAt_map _ (List.mem_map_of_mem hs), Slot.lookup_gathered h.distinct hs,
      head?_given (hp slot hs).1]
  rw [readMembers_eq_ok_iff h, hbuild]
  constructor
  · rintro ⟨honce, hb⟩
    refine ⟨_, .members ?_, hb⟩
    simp only [names, List.forall_mem_map]
    intro slot hs
    rw [← length_given (hp slot hs).1]
    exact honce slot hs
  · rintro ⟨_, hfields, hb⟩
    cases hfields with
    | members honce =>
      simp only [names, List.forall_mem_map] at honce
      refine ⟨fun slot hs => ?_, hb⟩
      rw [length_given (hp slot hs).1]
      exact honce slot hs

theorem readItems_eq_ok_iff_hasFields {shape : Shape α} (h : shape.Lawful) (hp : shape.Plain)
    {items : List Json} {r : α} :
    shape.readItems items = .ok r ↔
      ∃ values, (Json.array items).HasFields shape.names values ∧
        shape.build (valueAt shape.names values) = .ok r := by
  have hbuild : shape.build (fun name =>
        ((shape.slots.zip items).map fun pair => (pair.1.name, pair.2)).lookup name)
      = shape.build (valueAt shape.names (items.map some)) := by
    refine h.depends _ _ fun slot _ => ?_
    rw [names, valueAt_items]
  rw [readItems_eq_ok_iff h, hbuild]
  constructor
  · rintro ⟨hle, hd, hb⟩
    refine ⟨_, .items ?_, hb⟩
    -- No field may lack, so none is left when the items are at their end.
    have hnil : shape.slots.drop items.length = [] := by
      rw [List.eq_nil_iff_forall_not_mem]
      intro slot hs
      have hlack := hd slot hs
      rw [(hp slot (List.mem_of_mem_drop hs)).2] at hlack
      cases hlack
    have hge := List.drop_eq_nil_iff.mp hnil
    simp only [names, List.length_map]
    omega
  · rintro ⟨_, hfields, hb⟩
    cases hfields with
    | items hl =>
      simp only [names, List.length_map] at hl
      exact ⟨by omega, by simp [hl], hb⟩

/-- **What a plain shape reads**: the values that have its fields, as the record that the values of
the fields build. -/
theorem read_eq_ok_iff {shape : Shape α} (h : shape.Lawful) (hp : shape.Plain) {value : Json}
    {r : α} :
    shape.read value = .ok r ↔
      ∃ values, value.HasFields shape.names values ∧
        shape.build (valueAt shape.names values) = .ok r := by
  cases value with
  | object members => exact readMembers_eq_ok_iff_hasFields h hp
  | array items => exact readItems_eq_ok_iff_hasFields h hp
  | _ =>
    simp only [read, reduceCtorEq, false_iff]
    rintro ⟨_, hfields, -⟩
    cases hfields

/-- What a shape of one field reads. -/
theorem read_single_eq_ok_iff {β : Type} {title name : String} {make : β → α}
    {read : Json → Decoded β} {value : Json} {r : α} :
    ((Shape.of title make).required name read).read value = .ok r ↔
      ∃ content, value.HasFields [name] [some content] ∧ ∃ b, read content = .ok b ∧ make b = r := by
  rw [read_eq_ok_iff ((Lawful.of title make).required (by simp))
    (by simp [Plain, required, add, Shape.of])]
  simp only [build_required_eq_ok_iff, build_of, Except.ok.injEq, exists_eq_left',
    show ((Shape.of title make).required name read).names = [name] from rfl]
  constructor
  · rintro ⟨values, hf, content, b, hv, hb⟩
    match values, hf.length_eq with
    | [value?], _ =>
      obtain rfl : value? = some content := by simpa using hv
      exact ⟨content, hf, b, hb⟩
  · rintro ⟨content, hf, b, hb⟩
    exact ⟨_, hf, content, b, by simp, hb⟩

end Shape

end DocSearch.Json
