/-
Objects read field by field. A record with a field more is read from the objects that give it
without that field and one value more: under one of the names of the field, and under no second one
(`Gives`). So what a shape reads from an object is said by one condition for each field, each about
the members alone (`Shape.ReadsWhen`), and the conditions grow with the shape. Neither the order of
the members nor those that no field answers to make a difference.
-/
import DocSearch.Proofs.SpelledMembers

namespace DocSearch.Json

/-! ## What the members give -/

/-- The values of the members that have one of the names. -/
def under (names : List String) (members : List (String × Json)) : List Json :=
  (members.filter fun member => member.1 ∈ names).map Prod.snd

/-- At most one member has one of the names, and it has this value. -/
def Gives (members : List (String × Json)) (names : List String) (value? : Option Json) : Prop :=
  under names members = value?.toList

instance (members : List (String × Json)) (names : List String) (value? : Option Json) :
    Decidable (Gives members names value?) :=
  inferInstanceAs (Decidable (under names members = value?.toList))

/-- At most one member has one of the names; it is null, or its value means this one. -/
def Sets {β : Type} (members : List (String × Json)) (names : List String) (means : Json → β → Prop)
    (b? : Option β) : Prop :=
  ∃ value?, Gives members names value? ∧ Shape.Optionally means value? b?

theorem Slot.given_eq_under (slot : Slot) (members : List (String × Json)) :
    slot.given members = under slot.spellings members := by
  have hanswers : ∀ name, slot.answersTo name = decide (name ∈ slot.spellings) := by
    intro name
    rw [Bool.eq_iff_iff, answersTo_iff, decide_eq_true_iff]
  simp only [given, under, hanswers]

theorem gives_iff {members : List (String × Json)} {names : List String} {value? : Option Json} :
    Gives members names value? ↔
      (under names members).length ≤ 1 ∧ (under names members).head? = value? := by
  unfold Gives
  match under names members with
  | [] => cases value? <;> simp
  | [value] => cases value? <;> simp
  | _ :: _ :: _ => cases value? <;> simp

/-- Members that no field answers to are skipped. -/
theorem Slot.visit_filter {slots : List Slot} {keep : String → Bool}
    (h : ∀ slot ∈ slots, ∀ name ∈ slot.spellings, keep name = true)
    (seen members : List (String × Json)) :
    visit slots seen (members.filter fun member => keep member.1) = visit slots seen members := by
  induction members generalizing seen with
  | nil => rfl
  | cons member members ih =>
    obtain ⟨name, value⟩ := member
    by_cases hkeep : keep name = true
    · simp only [List.filter_cons, hkeep, ite_true, visit, ih]
    · have hnone : find? slots name = none := by
        refine List.find?_eq_none.mpr fun slot hslot hanswers => ?_
        exact hkeep (h slot hslot name (answersTo_iff.mp hanswers))
      simp only [List.filter_cons, hkeep, Bool.false_eq_true, ite_false, ih, visit, hnone]

theorem gives_of_hasFields {name : String} {members : List (String × Json)} {content : Json}
    (h : (Json.object members).HasFields [name] [some content]) :
    Gives members [name] (some content) := by
  obtain ⟨honce, hvalues⟩ := hasFields_object_iff.mp h
  let slot : Slot := ⟨name, [], false, fun _ => .ok ()⟩
  have hunder : slot.given members = under [name] members := slot.given_eq_under members
  rw [gives_iff, ← hunder, Shape.length_given rfl, Shape.head?_given rfl]
  exact ⟨honce name List.mem_cons_self, (List.cons.inj hvalues).1.symm⟩

theorem Gives.filter_eq {name : String} {members : List (String × Json)} {content : Json}
    (h : Gives members [name] (some content)) :
    (members.filter fun member => member.1 ∈ [name]) = [(name, content)] := by
  obtain ⟨member, hfilter, rfl⟩ := List.map_eq_singleton_iff.mp h
  have hmem : member ∈ members.filter fun member => member.1 ∈ [name] := by
    rw [hfilter]
    exact List.mem_cons_self
  obtain rfl : member.1 = name := by simpa using (List.mem_filter.mp hmem).2
  exact hfilter

/-! ## Reading field by field -/

namespace Shape

variable {α β : Type}

theorem readMembers_of (title : String) (make : α) (members : List (String × Json)) :
    (Shape.of title make).readMembers members = .ok make := by
  rw [readMembers_eq_ok_iff (.of title make)]
  simp [Shape.of]

/-- A field more is one value more to be given. -/
theorem readMembers_add_eq_ok_iff {shape : Shape (β → α)} (h : shape.Lawful) {name : String}
    {aliases : List String} {mayLack : Bool} {read : Json → Decoded β} {absent : Decoded β}
    (hnew : (shape.spellings ++ name :: aliases).Nodup) {members : List (String × Json)} {r : α} :
    (shape.add name aliases mayLack read absent).readMembers members = .ok r ↔
      ∃ make, shape.readMembers members = .ok make ∧
        ∃ value?, Gives members (name :: aliases) value? ∧
          ∃ b, (match value? with | some value => read value | none => absent) = .ok b ∧
            make b = r := by
  have hadd : (shape.add name aliases mayLack read absent).Lawful := h.add hnew
  let slot : Slot := ⟨name, aliases, mayLack, fun value => (fun _ => ()) <$> read value⟩
  have hslots : (shape.add name aliases mayLack read absent).slots = shape.slots ++ [slot] := rfl
  have hlookup : ∀ other ∈ shape.slots ++ [slot],
      (Slot.gathered (shape.slots ++ [slot]) members).lookup other.name
        = (other.given members).head? :=
    fun other hother => Slot.lookup_gathered hadd.distinct hother members
  -- The fields before find what they found without the new one.
  have hbuild : shape.build (fun n => (Slot.gathered (shape.slots ++ [slot]) members).lookup n)
      = shape.build (fun n => (Slot.gathered shape.slots members).lookup n) := by
    refine h.depends _ _ fun other hother => ?_
    rw [hlookup other (List.mem_append_left _ hother), Slot.lookup_gathered h.distinct hother]
  have hvalue : (Slot.gathered (shape.slots ++ [slot]) members).lookup name
      = (under (name :: aliases) members).head? := by
    rw [hlookup slot (by simp), Slot.given_eq_under]
    rfl
  have hslot : (slot.given members).length ≤ 1 ↔ (under (name :: aliases) members).length ≤ 1 := by
    rw [Slot.given_eq_under]
    rfl
  rw [readMembers_eq_ok_iff hadd, hslots, build_add_eq_ok_iff, hbuild, hvalue]
  simp only [readMembers_eq_ok_iff h, gives_iff, List.forall_mem_append, List.forall_mem_singleton,
    hslot]
  constructor
  · rintro ⟨⟨honce, hone⟩, make, hmake, b, hb, hr⟩
    exact ⟨make, ⟨honce, hmake⟩, _, ⟨hone, rfl⟩, b, hb, hr⟩
  · rintro ⟨make, ⟨honce, hmake⟩, _, ⟨hone, rfl⟩, b, hb, hr⟩
    exact ⟨⟨honce, hone⟩, make, hmake, b, hb, hr⟩

/-- A shape reads the objects whose members give a record, and reads them as that record. -/
structure ReadsWhen (shape : Shape α) (gives : List (String × Json) → α → Prop) : Prop where
  lawful : shape.Lawful
  readMembers_eq_ok_iff : ∀ members r, shape.readMembers members = .ok r ↔ gives members r

theorem ReadsWhen.congr {shape : Shape α} {gives gives' : List (String × Json) → α → Prop}
    (h : shape.ReadsWhen gives) (hiff : ∀ members r, gives members r ↔ gives' members r) :
    shape.ReadsWhen gives' where
  lawful := h.lawful
  readMembers_eq_ok_iff members r := (h.readMembers_eq_ok_iff members r).trans (hiff members r)

theorem ReadsWhen.map_eq_ok_iff {shape : Shape α} {gives : List (String × Json) → α → Prop}
    (h : shape.ReadsWhen gives) (f : α → β) {members : List (String × Json)} {b : β} :
    f <$> shape.readMembers members = .ok b ↔ ∃ r, gives members r ∧ b = f r := by
  simp only [Json.map_eq_ok_iff, h.readMembers_eq_ok_iff, eq_comm (a := b)]

theorem ReadsWhen.of (title : String) (make : α) :
    (Shape.of title make).ReadsWhen fun _ r => make = r where
  lawful := .of title make
  readMembers_eq_ok_iff members r := by rw [readMembers_of, Except.ok.injEq]

theorem ReadsWhen.required {shape : Shape (β → α)} {gives : List (String × Json) → (β → α) → Prop}
    (h : shape.ReadsWhen gives) {name : String} {read : Json → Decoded β} {means : Json → β → Prop}
    (hnew : (shape.spellings ++ [name]).Nodup)
    (hread : ∀ value b, read value = .ok b ↔ means value b) :
    (shape.required name read).ReadsWhen fun members r => ∃ make, gives members make ∧
      ∃ b, (∃ value, Gives members [name] (some value) ∧ means value b) ∧ make b = r where
  lawful := h.lawful.add hnew
  readMembers_eq_ok_iff members r := by
    rw [Shape.required, readMembers_add_eq_ok_iff h.lawful hnew]
    simp only [h.readMembers_eq_ok_iff, ← hread]
    refine exists_congr fun make => and_congr_right fun _ => ⟨?_, ?_⟩
    · rintro ⟨value?, hgives, b, hb, hr⟩
      cases value? with
      | none => cases hb
      | some value => exact ⟨b, ⟨value, hgives, hb⟩, hr⟩
    · rintro ⟨b, ⟨value, hgives, hb⟩, hr⟩
      exact ⟨some value, hgives, b, hb, hr⟩

theorem ReadsWhen.setting {shape : Shape (Option β → α)}
    {gives : List (String × Json) → (Option β → α) → Prop} (h : shape.ReadsWhen gives)
    {name : String} {aliases : List String} {read : Json → Decoded β} {means : Json → β → Prop}
    (hnew : (shape.spellings ++ name :: aliases).Nodup)
    (hread : ∀ value b, read value = .ok b ↔ means value b) :
    (shape.setting name aliases read).ReadsWhen fun members r => ∃ make, gives members make ∧
      ∃ b?, Sets members (name :: aliases) means b? ∧ make b? = r where
  lawful := h.lawful.add hnew
  readMembers_eq_ok_iff members r := by
    have hmeans : (fun value b => read value = .ok b) = means :=
      funext fun value => funext fun b => propext (hread value b)
    rw [Shape.setting, readMembers_add_eq_ok_iff h.lawful hnew]
    simp only [h.readMembers_eq_ok_iff, ← hmeans]
    refine exists_congr fun make => and_congr_right fun _ => ⟨?_, ?_⟩
    · rintro ⟨value?, hgives, b?, hb, hr⟩
      exact ⟨b?, ⟨value?, hgives, optionally_iff.mp hb⟩, hr⟩
    · rintro ⟨b?, ⟨value?, hgives, hb⟩, hr⟩
      exact ⟨value?, hgives, b?, optionally_iff.mpr hb, hr⟩

/-- What the shape has no field for makes no difference to what is read, or to why nothing is. -/
theorem readMembers_filter (shape : Shape α) {keep : String → Bool}
    (h : ∀ name ∈ shape.spellings, keep name = true) (members : List (String × Json)) :
    shape.readMembers (members.filter fun member => keep member.1) = shape.readMembers members := by
  have hslots : ∀ slot ∈ shape.slots, ∀ name ∈ slot.spellings, keep name = true :=
    fun slot hslot name hname => h name (List.mem_flatMap.mpr ⟨slot, hslot, hname⟩)
  rw [readMembers, readMembers, Slot.visit_filter hslots]

/-- A record of one field comes to what its field comes to, and is refused for the same reason. -/
theorem read_single_of_hasFields {title name : String} {make : β → α} {read : Json → Decoded β}
    {value content : Json} (h : value.HasFields [name] [some content]) :
    ((Shape.of title make).required name read).read value = make <$> read content := by
  let shape := (Shape.of title make).required name read
  cases value with
  | object members =>
    have hkeep : ∀ other ∈ shape.spellings, decide (other ∈ [name]) = true := by
      simp [shape]
    have honly := shape.readMembers_filter hkeep members
    rw [(gives_of_hasFields h).filter_eq] at honly
    rw [Shape.read, ← honly]
    cases hread : read content <;>
      simp [shape, readMembers, Slot.visit, Slot.find?, Slot.answersTo, required, add, Shape.of,
        hread, bind, Except.bind, Functor.map, Except.map]
  | array items =>
    obtain ⟨hlength, hvalues⟩ := hasFields_array_iff.mp h
    obtain ⟨item, rfl⟩ := List.length_eq_one_iff.mp hlength
    obtain rfl : content = item := by simpa using hvalues
    cases hread : read content <;>
      simp [Shape.read, readItems, Slot.place, required, add, Shape.of, hread, bind, Except.bind,
        Functor.map, Except.map]
  | _ => cases h

/-- The order of the members makes no difference to what is read. -/
theorem readMembers_of_perm {shape : Shape α} (h : shape.Lawful)
    {members others : List (String × Json)} (hperm : members.Perm others) {r : α}
    (hr : shape.readMembers members = .ok r) : shape.readMembers others = .ok r := by
  rw [readMembers_eq_ok_iff h] at hr ⊢
  obtain ⟨honce, hbuild⟩ := hr
  have hsame : ∀ slot ∈ shape.slots, slot.given others = slot.given members := by
    intro slot hslot
    have hgiven : (slot.given members).Perm (slot.given others) := Slot.given_perm hperm
    match hvalues : slot.given members, honce slot hslot with
    | [], _ => exact (hvalues ▸ hgiven).symm.eq_nil
    | [value], _ => exact List.perm_singleton.mp (hvalues ▸ hgiven).symm
  refine ⟨fun slot hslot => hsame slot hslot ▸ honce slot hslot, ?_⟩
  rw [← hbuild]
  refine h.depends _ _ fun slot hslot => ?_
  rw [Slot.lookup_gathered h.distinct hslot, Slot.lookup_gathered h.distinct hslot,
    hsame slot hslot]

theorem ReadsWhen.of_perm {shape : Shape α} {gives : List (String × Json) → α → Prop}
    (h : shape.ReadsWhen gives) {members others : List (String × Json)}
    (hperm : members.Perm others) {r : α} (hr : gives members r) : gives others r := by
  rw [← h.readMembers_eq_ok_iff] at hr ⊢
  exact readMembers_of_perm h.lawful hperm hr

end Shape

end DocSearch.Json
