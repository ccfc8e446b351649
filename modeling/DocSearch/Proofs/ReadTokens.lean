/-
What the reader makes of tokens, both ways.

A value is read from its own tokens, wherever in a text they stand and whatever
follows them, as long as the arrays and objects that are open leave room for
it. The names of an object differ, so each member is added behind those before
it.

Whatever is read is well formed and within the limit. Carried along a run:
everything that is open or complete has room at its level (`FramesFit` and
`Stage.Fits`). That scanned tokens stand for no array and no object themselves
is what makes the levels count.
-/
import DocSearch.Json.Parser
import DocSearch.Proofs.WrittenTokens

namespace DocSearch

theorem Entries.set_of_nodup_append {α : Type} {done rest : List (String × α)} {name : String}
    {value : α} (h : (names (done ++ (name, value) :: rest)).Nodup) :
    set name value done = done ++ [(name, value)] := by
  refine names_set_of_not_mem value fun hmem => ?_
  simp only [names, List.map_append, List.map_cons] at h hmem
  exact (List.nodup_append.mp h).2.2 name hmem name List.mem_cons_self rfl

namespace Json

/-! ## From the tokens of a value -/

namespace Stage

theorem read_cons {limit : Nat} {frames next : List Frame} {stage following : Stage} {token : Token}
    (h : stage.step limit frames token = some (next, following)) (tokens : List Token) :
    read limit frames stage (token :: tokens) = read limit next following tokens := by
  rw [read, h]
  rfl

theorem step_beginArray {limit : Nat} {frames : List Frame} (h : frames.length < limit) :
    step limit frames .awaitValue .beginArray = some (frames, .firstItem) := if_pos h

theorem step_beginObject {limit : Nat} {frames : List Frame} (h : frames.length < limit) :
    step limit frames .awaitValue .beginObject = some (frames, .firstName) := if_pos h

/-- The first token of a value does not end an array, so the value begins an item. -/
theorem read_firstItem (limit : Nat) (frames : List Frame) (value : Json) (rest : List Token) :
    read limit frames .firstItem (value.tokens ++ rest)
      = read limit (.array [] :: frames) .awaitValue (value.tokens ++ rest) := by
  have hsame : ∀ {token : Token} (tokens : List Token), token ≠ .endArray →
      read limit frames .firstItem (token :: tokens)
        = read limit (.array [] :: frames) .awaitValue (token :: tokens) := by
    intro token tokens hne
    rw [read, read]
    cases token with
    | endArray => exact absurd rfl hne
    | _ => rfl
  cases value with
  | array items => cases items <;> exact hsame _ (by simp)
  | object members => cases members <;> exact hsame _ (by simp)
  | _ => exact hsame _ (by simp)

mutual

/-- A value is read from its tokens, if it has room below the limit. -/
theorem read_tokens {limit : Nat} : ∀ {value : Json} {frames : List Frame} {rest : List Token},
    value.WellFormed → frames.length + value.depth ≤ limit →
    read limit frames .awaitValue (value.tokens ++ rest) = read limit frames (.after value) rest
  | .null, frames, rest, _, _ => read_cons rfl rest
  | .bool b, frames, rest, _, _ => read_cons rfl rest
  | .number n, frames, rest, _, _ => read_cons rfl rest
  | .string content, frames, rest, _, _ => read_cons rfl rest
  | .array [], frames, rest, _, hdepth => by
    have hroom : frames.length < limit := by
      rw [depth] at hdepth
      omega
    rw [tokens, List.cons_append, read_cons (step_beginArray hroom)]
    exact read_cons rfl rest
  | .array (item :: items), frames, rest, hwell, hdepth => by
    rw [depth, depthItems] at hdepth
    have hroom : frames.length < limit := by omega
    have hitem : (Frame.array [] :: frames).length + item.depth ≤ limit := by
      rw [List.length_cons]
      omega
    rw [tokens, List.cons_append, read_cons (step_beginArray hroom), List.append_assoc,
      read_firstItem, read_tokens hwell.1 hitem, read_itemsTokens hwell.2 (by omega)]
    rfl
  | .object [], frames, rest, _, hdepth => by
    have hroom : frames.length < limit := by
      rw [depth] at hdepth
      omega
    rw [tokens, List.cons_append, read_cons (step_beginObject hroom)]
    exact read_cons rfl rest
  | .object ((name, value) :: members), frames, rest, hwell, hdepth => by
    rw [depth, depthMembers] at hdepth
    have hroom : frames.length < limit := by omega
    have hname : step limit frames .firstName (.text name)
        = some (frames, .awaitColon [] name) := rfl
    have hcolon : step limit frames (.awaitColon [] name) .colon
        = some (.object [] name :: frames, .awaitValue) := rfl
    have hvalue : (Frame.object [] name :: frames).length + value.depth ≤ limit := by
      rw [List.length_cons]
      omega
    rw [tokens, List.cons_append, read_cons (step_beginObject hroom), List.cons_append,
      read_cons hname, List.cons_append, read_cons hcolon, List.append_assoc,
      read_tokens hwell.2.1 hvalue,
      read_membersTokens hwell.2.2 (by simpa using hwell.1) (by omega)]
    rfl

theorem read_itemsTokens {limit : Nat} : ∀ {items done : List Json} {last : Json}
    {frames : List Frame} {rest : List Token},
    WellFormedItems items → frames.length + 1 + depthItems items ≤ limit →
    read limit (.array done :: frames) (.after last) (itemsTokens items ++ rest)
      = read limit frames (.after (.array (done.reverse ++ last :: items))) rest
  | [], done, last, frames, rest, _, _ => by
    have hclose : step limit (.array done :: frames) (.after last) .endArray
        = some (frames, .after (.array (last :: done).reverse)) := rfl
    rw [itemsTokens, List.cons_append, read_cons hclose, List.reverse_cons]
    rfl
  | item :: items, done, last, frames, rest, hwell, hdepth => by
    rw [depthItems] at hdepth
    have hcomma : step limit (.array done :: frames) (.after last) .comma
        = some (.array (last :: done) :: frames, .awaitValue) := rfl
    have hitem : (Frame.array (last :: done) :: frames).length + item.depth ≤ limit := by
      rw [List.length_cons]
      omega
    rw [itemsTokens, List.cons_append, read_cons hcomma, List.append_assoc,
      read_tokens hwell.1 hitem, read_itemsTokens hwell.2 (by omega), List.reverse_cons,
      List.append_assoc, List.singleton_append]

theorem read_membersTokens {limit : Nat} : ∀ {members done : List (String × Json)} {name : String}
    {last : Json} {frames : List Frame} {rest : List Token},
    WellFormedMembers members → (Entries.names (done ++ (name, last) :: members)).Nodup →
    frames.length + 1 + depthMembers members ≤ limit →
    read limit (.object done name :: frames) (.after last) (membersTokens members ++ rest)
      = read limit frames (.after (.object (done ++ (name, last) :: members))) rest
  | [], done, name, last, frames, rest, _, hnodup, _ => by
    have hset : Entries.set name last done = done ++ [(name, last)] :=
      Entries.set_of_nodup_append hnodup
    have hclose : step limit (.object done name :: frames) (.after last) .endObject
        = some (frames, .after (.object (done ++ [(name, last)]))) := by rw [← hset]; rfl
    rw [membersTokens, List.cons_append, read_cons hclose]
    rfl
  | (next, value) :: members, done, name, last, frames, rest, hwell, hnodup, hdepth => by
    rw [depthMembers] at hdepth
    have hset : Entries.set name last done = done ++ [(name, last)] :=
      Entries.set_of_nodup_append hnodup
    have hcomma : step limit (.object done name :: frames) (.after last) .comma
        = some (frames, .awaitName (done ++ [(name, last)])) := by rw [← hset]; rfl
    have hname : step limit frames (.awaitName (done ++ [(name, last)])) (.text next)
        = some (frames, .awaitColon (done ++ [(name, last)]) next) := rfl
    have hcolon : step limit frames (.awaitColon (done ++ [(name, last)]) next) .colon
        = some (.object (done ++ [(name, last)]) next :: frames, .awaitValue) := rfl
    have hvalue : (Frame.object (done ++ [(name, last)]) next :: frames).length + value.depth
        ≤ limit := by
      rw [List.length_cons]
      omega
    have hrest : (Entries.names ((done ++ [(name, last)]) ++ (next, value) :: members)).Nodup := by
      simpa using hnodup
    rw [membersTokens, List.cons_append, read_cons hcomma, List.cons_append, read_cons hname,
      List.cons_append, read_cons hcolon, List.append_assoc, read_tokens hwell.1 hvalue,
      read_membersTokens hwell.2 hrest (by omega), List.append_assoc, List.singleton_append]

end

end Stage

/-! ## Depth and names, item by item -/

theorem wellFormedItems_iff {items : List Json} :
    WellFormedItems items ↔ ∀ item ∈ items, item.WellFormed := by
  induction items with
  | nil => simp [WellFormedItems]
  | cons item items ih => simp [WellFormedItems, ih]

theorem wellFormedMembers_iff {members : List (String × Json)} :
    WellFormedMembers members ↔ ∀ member ∈ members, member.2.WellFormed := by
  induction members with
  | nil => simp [WellFormedMembers]
  | cons member members ih => simp [WellFormedMembers, ih]

theorem depthItems_le_iff {items : List Json} {n : Nat} :
    depthItems items ≤ n ↔ ∀ item ∈ items, item.depth ≤ n := by
  induction items with
  | nil => simp [depthItems]
  | cons item items ih => rw [depthItems, Nat.max_le, ih, List.forall_mem_cons]

theorem depthMembers_le_iff {members : List (String × Json)} {n : Nat} :
    depthMembers members ≤ n ↔ ∀ member ∈ members, member.2.depth ≤ n := by
  induction members with
  | nil => simp [depthMembers]
  | cons member members ih => rw [depthMembers, Nat.max_le, ih, List.forall_mem_cons]

/-- The value is well formed, and has room below the limit at this level. -/
def Fits (limit level : Nat) (value : Json) : Prop :=
  value.WellFormed ∧ level + value.depth ≤ limit

theorem fits_array {limit level : Nat} {items : List Json} (hlevel : level < limit)
    (h : ∀ item ∈ items, item.Fits limit (level + 1)) : (array items).Fits limit level := by
  refine ⟨wellFormedItems_iff.mpr fun item hitem => (h item hitem).1, ?_⟩
  have hdepth : depthItems items ≤ limit - (level + 1) := by
    refine depthItems_le_iff.mpr fun item hitem => ?_
    have := (h item hitem).2
    omega
  rw [depth]
  omega

/-- The members of an object that is open or complete. -/
def MembersFit (limit level : Nat) (members : List (String × Json)) : Prop :=
  (Entries.names members).Nodup ∧ ∀ member ∈ members, member.2.Fits limit level

theorem fits_object {limit level : Nat} {members : List (String × Json)} (hlevel : level < limit)
    (h : MembersFit limit (level + 1) members) : (object members).Fits limit level := by
  refine ⟨⟨h.1, wellFormedMembers_iff.mpr fun member hmember => (h.2 member hmember).1⟩, ?_⟩
  have hdepth : depthMembers members ≤ limit - (level + 1) := by
    refine depthMembers_le_iff.mpr fun member hmember => ?_
    have := (h.2 member hmember).2
    omega
  rw [depth]
  omega

theorem MembersFit.set {limit level : Nat} {members : List (String × Json)} {name : String}
    {value : Json} (h : MembersFit limit level members) (hvalue : value.Fits limit level) :
    MembersFit limit level (Entries.set name value members) := by
  refine ⟨Entries.nodup_names_set name value h.1, fun member hmember => ?_⟩
  rcases Entries.mem_of_mem_set hmember with rfl | hold
  · exact hvalue
  · exact h.2 member hold

/-! ## Tokens that are scanned -/

/-- The value is no array and no object. -/
def IsScalar (value : Json) : Prop := value.WellFormed ∧ value.depth = 0

/-- A token stands for at most a value that is no array and no object. -/
def Token.Plain : Token → Prop
  | .scalar value => value.IsScalar
  | _ => True

namespace Scanner

/-- The scanner is in the middle of at most such a value. -/
def Plain : Scanner → Prop
  | .word _ value => value.IsScalar
  | _ => True

/-- Whatever comes of a step is plain. -/
def LeavesPlain (result : Option (List Token × Scanner)) : Prop :=
  ∀ tokens next, result = some (tokens, next) → (∀ token ∈ tokens, token.Plain) ∧ next.Plain

theorem LeavesPlain.none : LeavesPlain none := by
  rintro tokens next ⟨⟩

theorem LeavesPlain.some {tokens : List Token} {next : Scanner}
    (htokens : ∀ token ∈ tokens, token.Plain) (hnext : next.Plain) :
    LeavesPlain (some (tokens, next)) := by
  rintro _ _ ⟨⟩
  exact ⟨htokens, hnext⟩

theorem LeavesPlain.ite {p : Prop} [Decidable p] {a b : Option (List Token × Scanner)}
    (ha : LeavesPlain a) (hb : LeavesPlain b) : LeavesPlain (if p then a else b) :=
  iteInduction (fun _ => ha) fun _ => hb

theorem start_plain (c : Char) : LeavesPlain (start c) := by
  rw [start]
  repeat' apply LeavesPlain.ite
  all_goals
    first
    | exact .none
    | exact .some (by simp [Token.Plain]) (by simp [Plain, IsScalar, WellFormed, depth])

theorem unitDone_plain {done : List Char} {high : Option Nat} {unit : Nat} {next : Scanner}
    (h : unitDone done high unit = some next) : next.Plain := by
  cases high with
  | some high =>
    simp only [unitDone, Option.ite_none_right_eq_some] at h
    cases h.2
    trivial
  | none =>
    simp only [unitDone] at h
    split at h
    · cases h
      trivial
    · cases (Option.ite_none_left_eq_some.mp h).2
      trivial

theorem step_plain {s : Scanner} (hs : s.Plain) (c : Char) : LeavesPlain (s.step c) := by
  cases s with
  | between => exact start_plain c
  | word rest value =>
    cases rest with
    | nil => exact .none
    | cons x xs =>
      have hvalue : value.IsScalar := hs
      exact .ite .none (.ite (.some (by simpa [Token.Plain] using hvalue) trivial)
        (.some (by simp) hvalue))
  | number done =>
    refine .ite (.some (by simp) trivial) ?_
    intro tokens next h
    obtain ⟨n, -, h⟩ := Option.bind_eq_some_iff.mp h
    obtain ⟨⟨started, after⟩, hstart, h⟩ := Option.bind_eq_some_iff.mp h
    cases h
    obtain ⟨htokens, hnext⟩ := start_plain c _ _ hstart
    exact ⟨by simpa [Token.Plain, IsScalar, WellFormed, depth] using htokens, hnext⟩
  | text done =>
    exact .ite (.some (by simp [Token.Plain]) trivial)
      (.ite (.some (by simp) trivial) (.ite .none (.some (by simp) trivial)))
  | escape done =>
    refine .ite (.some (by simp) trivial) ?_
    cases escaped? c with
    | none => exact .none
    | some letter => exact .some (by simp) trivial
  | unit done high count value =>
    intro tokens next h
    obtain ⟨d, -, h⟩ := Option.bind_eq_some_iff.mp h
    have hmore : LeavesPlain (some ([], .unit done high (count + 1) (16 * value + d))) :=
      .some (by simp) trivial
    refine LeavesPlain.ite hmore ?_ tokens next h
    cases hunit : unitDone done high (16 * value + d) with
    | none => exact .none
    | some after => exact .some (by simp) (unitDone_plain hunit)
  | lowBackslash done high => exact .ite (.some (by simp) trivial) .none
  | lowLetter done high => exact .ite (.some (by simp) trivial) .none

theorem scan_plain {s : Scanner} (hs : s.Plain) {cs : List Char} {tokens : List Token}
    (h : scan s cs = some tokens) : ∀ token ∈ tokens, token.Plain := by
  induction cs generalizing s tokens with
  | nil =>
    cases s with
    | between =>
      cases h
      simp
    | number done =>
      obtain ⟨n, -, h⟩ := Option.bind_eq_some_iff.mp h
      cases h
      simp [Token.Plain, IsScalar, WellFormed, depth]
    | _ => cases h
  | cons c cs ih =>
    obtain ⟨⟨first, next⟩, hstep, h⟩ := Option.bind_eq_some_iff.mp h
    obtain ⟨rest, hrest, h⟩ := Option.bind_eq_some_iff.mp h
    cases h
    obtain ⟨hfirst, hnext⟩ := step_plain hs c first next hstep
    intro token htoken
    rcases List.mem_append.mp htoken with hmem | hmem
    · exact hfirst token hmem
    · exact ih hnext hrest token hmem

end Scanner

/-! ## What is read -/

/-- What an open array or object holds so far has room in it. -/
def Frame.Fits (limit level : Nat) : Frame → Prop
  | .array items => ∀ item ∈ items, item.Fits limit level
  | .object members _ => MembersFit limit level members

/-- The arrays and objects that are open are no more than the limit, and what they hold has room
at the level of each. -/
def FramesFit (limit : Nat) : List Frame → Prop
  | [] => True
  | frame :: frames =>
    frames.length < limit ∧ frame.Fits limit (frames.length + 1) ∧ FramesFit limit frames

theorem FramesFit.length_le {limit : Nat} {frames : List Frame} (h : FramesFit limit frames) :
    frames.length ≤ limit := by
  cases frames with
  | nil => exact Nat.zero_le limit
  | cons frame frames => exact h.1

namespace Stage

/-- What is complete at this level has room there. -/
def Fits (limit level : Nat) : Stage → Prop
  | .awaitValue => True
  | .firstItem => level < limit
  | .firstName => level < limit
  | .awaitName members => level < limit ∧ MembersFit limit (level + 1) members
  | .awaitColon members _ => level < limit ∧ MembersFit limit (level + 1) members
  | .after value => value.Fits limit level

/-- The next stage fits, under the arrays and objects that are open then. -/
def LeavesFit (limit : Nat) (result : Option (List Frame × Stage)) : Prop :=
  ∀ frames stage, result = some (frames, stage) → FramesFit limit frames ∧
    stage.Fits limit frames.length

theorem LeavesFit.none {limit : Nat} : LeavesFit limit none := by
  rintro frames stage ⟨⟩

theorem LeavesFit.some {limit : Nat} {frames : List Frame} {stage : Stage}
    (hframes : FramesFit limit frames) (hstage : stage.Fits limit frames.length) :
    LeavesFit limit (some (frames, stage)) := by
  rintro _ _ ⟨⟩
  exact ⟨hframes, hstage⟩

theorem membersFit_nil (limit level : Nat) : MembersFit limit level [] := by
  simp [MembersFit]

theorem beginValue_fits {limit : Nat} {frames : List Frame} (hframes : FramesFit limit frames)
    {token : Token} (htoken : token.Plain) : LeavesFit limit (beginValue limit frames token) := by
  cases token with
  | scalar value =>
    obtain ⟨hwell, hdepth⟩ : value.IsScalar := htoken
    exact .some hframes ⟨hwell, by rw [hdepth]; exact hframes.length_le⟩
  | text content =>
    exact .some hframes ⟨trivial, hframes.length_le⟩
  | beginArray | beginObject =>
    rw [beginValue]
    split
    · next hroom => exact .some hframes hroom
    · exact .none
  | _ => exact .none

theorem continueFrame_fits {limit : Nat} {frames : List Frame} (hframes : FramesFit limit frames)
    {value : Json} (hvalue : value.Fits limit frames.length) (token : Token) :
    LeavesFit limit (continueFrame value frames token) := by
  cases frames with
  | nil => exact .none
  | cons frame frames =>
    obtain ⟨hroom, hframe, hframes⟩ := hframes
    cases frame with
    | array items =>
      have hitems : ∀ item ∈ value :: items, item.Fits limit (frames.length + 1) :=
        List.forall_mem_cons.mpr ⟨hvalue, hframe⟩
      cases token with
      | comma => exact .some ⟨hroom, hitems, hframes⟩ trivial
      | endArray =>
        have hreverse : ∀ item ∈ (value :: items).reverse, item.Fits limit (frames.length + 1) :=
          fun item hitem => hitems item (List.mem_reverse.mp hitem)
        exact .some hframes (fits_array hroom hreverse)
      | _ => exact .none
    | object members name =>
      have hmembers : MembersFit limit (frames.length + 1) (Entries.set name value members) :=
        MembersFit.set hframe hvalue
      cases token with
      | comma => exact .some hframes ⟨hroom, hmembers⟩
      | endObject => exact .some hframes (fits_object hroom hmembers)
      | _ => exact .none

/-- A step keeps everything that is open or complete within its room. -/
theorem step_fits {limit : Nat} {frames : List Frame} (hframes : FramesFit limit frames)
    {stage : Stage} (hstage : stage.Fits limit frames.length) {token : Token}
    (htoken : token.Plain) : LeavesFit limit (stage.step limit frames token) := by
  cases stage with
  | awaitValue => exact beginValue_fits hframes htoken
  | firstItem =>
    have hopen : FramesFit limit (.array [] :: frames) := ⟨hstage, by simp [Frame.Fits], hframes⟩
    cases token with
    | endArray => exact .some hframes (fits_array hstage (by simp))
    | _ => exact beginValue_fits hopen htoken
  | firstName =>
    cases token with
    | endObject => exact .some hframes (fits_object hstage (membersFit_nil _ _))
    | text name => exact .some hframes ⟨hstage, membersFit_nil _ _⟩
    | _ => exact .none
  | awaitName members =>
    cases token with
    | text name => exact .some hframes hstage
    | _ => exact .none
  | awaitColon members name =>
    cases token with
    | colon => exact .some ⟨hstage.1, hstage.2, hframes⟩ trivial
    | _ => exact .none
  | after value => exact continueFrame_fits hframes hstage token

theorem read_fits {limit : Nat} {frames : List Frame} {stage : Stage} {tokens : List Token}
    {value : Json} (hframes : FramesFit limit frames) (hstage : stage.Fits limit frames.length)
    (htokens : ∀ token ∈ tokens, token.Plain) (h : read limit frames stage tokens = some value) :
    value.Fits limit 0 := by
  induction tokens generalizing frames stage with
  | nil =>
    cases frames with
    | nil =>
      cases stage with
      | after result =>
        cases h
        exact hstage
      | _ => cases h
    | cons frame frames => cases h
  | cons token tokens ih =>
    obtain ⟨htoken, htokens⟩ := List.forall_mem_cons.mp htokens
    rw [read] at h
    obtain ⟨⟨next, following⟩, hstep, hread⟩ := Option.bind_eq_some_iff.mp h
    obtain ⟨hnext, hfollowing⟩ := step_fits hframes hstage htoken next following hstep
    exact ih hnext hfollowing htokens hread

end Stage

/-- What a text stands for is well formed and no deeper than the limit. -/
theorem fits_of_parseWithin? {limit : Nat} {text : String} {value : Json}
    (h : parseWithin? limit text = some value) : value.Fits limit 0 := by
  obtain ⟨tokens, hscan, hread⟩ := Option.bind_eq_some_iff.mp h
  have hbetween : Scanner.between.Plain := trivial
  have hnone : FramesFit limit [] := trivial
  have hstart : Stage.awaitValue.Fits limit ([] : List Frame).length := trivial
  have hplain : ∀ token ∈ tokens, token.Plain := Scanner.scan_plain hbetween hscan
  exact Stage.read_fits hnone hstart hplain hread

end Json

end DocSearch
