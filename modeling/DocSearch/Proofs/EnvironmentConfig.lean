/-
The configuration that an environment asks for, or the first thing that is wrong with it. What may
be wrong is said of the variables alone (`Environment.Fault`), each fault by itself, and the order
in which faults are looked for by a rank, so that an environment with several faults is covered.

Two readings of texts stand between the variables and the configuration, and each is described
without the function that does it: what is left of an address without the blanks at its ends
(`Text.Trims`), and the number that a text of digits spells (`ConnectionConfig.Spells`).
-/
import DocSearch.Config
import Mathlib.Data.List.DropRight
import Mathlib.Data.List.TakeDrop
import Mathlib.Data.Nat.Digits.Defs

namespace DocSearch

/-! ## Trimmed texts -/

namespace Text

/-- The core is the text without the blanks before and after it. -/
structure Trims (text core : String) : Prop where
  split : ∃ before after, text.toList = before ++ core.toList ++ after ∧
    (∀ c ∈ before, isBlank c = true) ∧ ∀ c ∈ after, isBlank c = true
  first : ∀ c ∈ core.toList.head?, isBlank c = false
  last : ∀ c ∈ core.toList.getLast?, isBlank c = false

theorem dropWhile_isBlank_append {before rest : List Char}
    (hbefore : ∀ c ∈ before, isBlank c = true) (hrest : ∀ c ∈ rest.head?, isBlank c = false) :
    (before ++ rest).dropWhile isBlank = rest := by
  rw [List.dropWhile_append_of_pos hbefore]
  cases rest with
  | nil => rfl
  | cons c rest => rw [List.dropWhile_cons_of_neg (by simp [hrest c rfl])]

theorem Trims.eq_trim {text core : String} (h : Trims text core) : core = trim text := by
  obtain ⟨before, after, hsplit, hbefore, hafter⟩ := h.split
  have hafter' : ∀ c ∈ after.reverse, isBlank c = true := by simpa using hafter
  by_cases hcore : core.toList = []
  · have hblank : allBlank text = true := by
      simp only [allBlank, hsplit, hcore, List.append_nil, List.all_append, List.all_eq_true,
        Bool.and_eq_true]
      exact ⟨hbefore, hafter⟩
    rw [(trim_eq_empty_iff text).mpr hblank]
    exact String.toList_inj.mp hcore
  · have hhead : ∀ c ∈ (core.toList ++ after).head?, isBlank c = false := by
      rw [List.head?_append_of_ne_nil _ hcore]
      exact h.first
    have hlast : ∀ c ∈ core.toList.reverse.head?, isBlank c = false := by
      rw [List.head?_reverse]
      exact h.last
    rw [trim, hsplit, List.append_assoc, dropWhile_isBlank_append hbefore hhead,
      List.reverse_append, dropWhile_isBlank_append hafter' hlast, List.reverse_reverse,
      String.ofList_toList]

theorem isBlank_head?_dropWhile (cs : List Char) :
    ∀ c ∈ (cs.dropWhile isBlank).head?, isBlank c = false := by
  intro c hc
  have hnot := List.head?_dropWhile_not isBlank cs
  rw [Option.mem_def.mp hc] at hnot
  simpa using hnot

theorem trims_trim (text : String) : Trims text (trim text) := by
  generalize hrest : text.toList.dropWhile isBlank = rest
  generalize hcore : (rest.reverse.dropWhile isBlank).reverse = core
  have htrim : (trim text).toList = core := by rw [trim, hrest, hcore, String.toList_ofList]
  have hfront : text.toList.takeWhile isBlank ++ rest = text.toList := by
    rw [← hrest, List.takeWhile_append_dropWhile]
  have hback : core ++ (rest.reverse.takeWhile isBlank).reverse = rest := by
    rw [← hcore, ← List.reverse_append, List.takeWhile_append_dropWhile, List.reverse_reverse]
  refine ⟨⟨text.toList.takeWhile isBlank, (rest.reverse.takeWhile isBlank).reverse, ?_,
    fun c hc => List.mem_takeWhile_imp hc,
    fun c hc => List.mem_takeWhile_imp (List.mem_reverse.mp hc)⟩, ?_, ?_⟩
  · rw [htrim, List.append_assoc, hback, hfront]
  · -- What the core begins with is what the rest begins with.
    intro c hc
    have hrestHead : c ∈ rest.head? := by
      rw [← hback, List.head?_append, ← htrim, Option.mem_def.mp hc]
      rfl
    exact isBlank_head?_dropWhile text.toList c (hrest ▸ hrestHead)
  · rw [htrim, ← hcore, List.getLast?_reverse]
    exact isBlank_head?_dropWhile rest.reverse

end Text

/-! ## Numbers of seconds -/

namespace Text.Numeral

/-- The value of digits is the one that their places give them. -/
theorem value_eq_ofDigits (cs : List Char) :
    value cs = Nat.ofDigits 10 (cs.reverse.map digitValue) := by
  induction cs using List.reverseRecOn with
  | nil => rfl
  | append_singleton cs c ih =>
    rw [value_append_singleton, ih, List.reverse_append, List.reverse_singleton,
      List.singleton_append, List.map_cons, Nat.ofDigits_cons]
    omega

end Text.Numeral

namespace ConnectionConfig

/-- The text is a number of seconds: its digits, behind an optional plus sign, if 64 bits hold
it. -/
def Spells (text : String) (seconds : Nat) : Prop :=
  ∃ digits, (text.toList = digits ∨ text.toList = '+' :: digits) ∧ digits ≠ [] ∧
    (∀ c ∈ digits, c.isDigit = true) ∧
    Nat.ofDigits 10 (digits.reverse.map Text.Numeral.digitValue) = seconds ∧
    seconds < 18446744073709551616

theorem seconds?_eq {text : String} {digits : List Char}
    (h : text.toList = '+' :: digits ∨ text.toList = digits ∧ ∀ rest, digits ≠ '+' :: rest) :
    seconds? text = if digits ≠ [] ∧ digits.all Char.isDigit = true ∧
        Text.Numeral.value digits < 18446744073709551616
      then some (Text.Numeral.value digits) else none := by
  rcases h with h | ⟨h, hsign⟩
  · simp [seconds?, h, and_assoc]
  · rw [seconds?]
    split
    · next rest hrest => exact absurd (h.symm.trans hrest) (hsign rest)
    · simp [h, and_assoc]

theorem exists_unsigned (text : String) : ∃ digits,
    text.toList = '+' :: digits ∨ text.toList = digits ∧ ∀ rest, digits ≠ '+' :: rest := by
  by_cases h : ∃ rest, text.toList = '+' :: rest
  · obtain ⟨rest, hrest⟩ := h
    exact ⟨rest, .inl hrest⟩
  · exact ⟨text.toList, .inr ⟨rfl, fun rest hrest => h ⟨rest, hrest⟩⟩⟩

theorem seconds?_eq_some_iff {text : String} {seconds : Nat} :
    seconds? text = some seconds ↔ Spells text seconds := by
  simp only [Spells, ← Text.Numeral.value_eq_ofDigits]
  constructor
  · intro h
    obtain ⟨digits, hdigits⟩ := exists_unsigned text
    rw [seconds?_eq hdigits] at h
    split at h
    · next hall =>
      cases h
      obtain ⟨hne, hall, hlt⟩ := hall
      exact ⟨digits, hdigits.symm.imp_left And.left, hne, List.all_eq_true.mp hall, rfl, hlt⟩
    · cases h
  · rintro ⟨digits, htext, hne, hall, rfl, hlt⟩
    -- A sign is no digit, so the text does not begin with one unless it is the sign.
    have hsign : ∀ rest, digits ≠ '+' :: rest := by
      rintro rest rfl
      exact absurd (hall '+' List.mem_cons_self) (by decide)
    rw [seconds?_eq (htext.symm.imp_right fun h => ⟨h, hsign⟩),
      if_pos ⟨hne, List.all_eq_true.mpr hall, hlt⟩]

theorem Spells.unique {text : String} {a b : Nat} (ha : Spells text a) (hb : Spells text b) :
    a = b := by
  rw [← seconds?_eq_some_iff] at ha hb
  exact Option.some.inj (ha.symm.trans hb)

/-- How many seconds an environment gives for an answer: 30, or the number that it spells. -/
def Waits (env : Environment) (seconds : Nat) : Prop :=
  (env.setting? "TIMEOUT_SECS" = none ∧ seconds = 30) ∨
    ∃ text, env.setting? "TIMEOUT_SECS" = some text ∧ Spells text seconds

/-- A number that the environment gives is what its text spells. -/
theorem Waits.spells {env : Environment} {seconds : Nat} {text : String} (h : Waits env seconds)
    (hset : env.setting? "TIMEOUT_SECS" = some text) : Spells text seconds := by
  rcases h with ⟨hunset, -⟩ | ⟨other, hother, hspells⟩
  · simp [hset] at hunset
  · obtain rfl := Option.some.inj (hset.symm.trans hother)
    exact hspells

theorem timeoutOf_eq_ok_iff {env : Environment} {timeout : Nat} :
    timeoutOf env = .ok timeout ↔ ∃ seconds, Waits env seconds ∧ timeout = 1000000000 * seconds := by
  simp only [timeoutOf, Waits, ← seconds?_eq_some_iff]
  cases env.setting? "TIMEOUT_SECS" with
  | none => simp [@eq_comm _ timeout]
  | some text => cases h : seconds? text <;> simp [h, @eq_comm _ timeout]

theorem timeoutOf_eq_error_iff {env : Environment} {error : ConfigError} :
    timeoutOf env = .error error ↔ ∃ text, env.setting? "TIMEOUT_SECS" = some text ∧
      (∀ seconds, ¬ Spells text seconds) ∧ error = .timeout text := by
  simp only [timeoutOf, ← seconds?_eq_some_iff]
  cases env.setting? "TIMEOUT_SECS" with
  | none => simp
  | some text => cases h : seconds? text <;> simp [h, @eq_comm _ error]

end ConnectionConfig

/-! ## Faults -/

open ConnectionConfig (Spells Waits)

/-- The text begins the way an address has to. -/
def BeginsWithScheme (text : String) : Prop :=
  "http://".toList <+: text.toList ∨ "https://".toList <+: text.toList

/-- Something that is wrong with a configuration. -/
inductive ConnectionConfig.Fault (config : ConnectionConfig) : ConfigError → Prop
  | noUrl : Text.Trims config.url "" → Fault config .noUrl
  | scheme {core : String} : Text.Trims config.url core → ¬ BeginsWithScheme core →
      Fault config (.scheme core)
  | halfCredentials : config.username.isSome ≠ config.password.isSome →
      Fault config .halfCredentials
  | zeroTimeout : config.timeout = 0 → Fault config .zeroTimeout

/-- Something that is wrong with an environment. -/
inductive Environment.Fault (env : Environment) : ConfigError → Prop
  | urlUnset : env.setting? "URL" = none → Fault env .urlUnset
  | timeout {text : String} : env.setting? "TIMEOUT_SECS" = some text →
      (∀ seconds, ¬ Spells text seconds) → Fault env (.timeout text)
  | noUrl {url : String} : env.setting? "URL" = some url → Text.Trims url "" → Fault env .noUrl
  | scheme {url core : String} : env.setting? "URL" = some url → Text.Trims url core →
      ¬ BeginsWithScheme core → Fault env (.scheme core)
  | halfCredentials : (env.setting? "USERNAME").isSome ≠ (env.setting? "PASSWORD").isSome →
      Fault env .halfCredentials
  | zeroTimeout {text : String} : env.setting? "TIMEOUT_SECS" = some text → Spells text 0 →
      Fault env .zeroTimeout

/-- The place of a fault among those that are looked for; the last ones are not looked for. -/
@[simp]
def ConfigError.rank : ConfigError → Nat
  | .urlUnset => 0
  | .timeout _ => 1
  | .noUrl => 2
  | .scheme _ => 3
  | .halfCredentials => 4
  | .zeroTimeout => 5
  | .address _ | .reported _ => 6

/-- Of all faults, the one that is looked for first. -/
def ConfigError.Foremost (Fault : ConfigError → Prop) (error : ConfigError) : Prop :=
  Fault error ∧ ∀ other, Fault other → error.rank ≤ other.rank

namespace ConnectionConfig

theorem hasScheme_iff {text : String} : hasScheme text = true ↔ BeginsWithScheme text := by
  rw [hasScheme, Bool.or_eq_true, List.isPrefixOf_iff_prefix, List.isPrefixOf_iff_prefix,
    BeginsWithScheme]

/-- The faults of a configuration by the tests that find them. -/
theorem fault_iff {config : ConnectionConfig} {error : ConfigError} :
    config.Fault error ↔
      (error = .noUrl ∧ Text.trim config.url = "") ∨
      (error = .scheme (Text.trim config.url) ∧ hasScheme (Text.trim config.url) = false) ∨
      (error = .halfCredentials ∧ config.username.isSome ≠ config.password.isSome) ∨
      (error = .zeroTimeout ∧ config.timeout = 0) := by
  constructor
  · intro h
    cases h with
    | noUrl htrim => exact .inl ⟨rfl, htrim.eq_trim.symm⟩
    | scheme htrim hnot =>
      obtain rfl := htrim.eq_trim
      exact .inr (.inl ⟨rfl, by rwa [← Bool.not_eq_true, hasScheme_iff]⟩)
    | halfCredentials h => exact .inr (.inr (.inl ⟨rfl, h⟩))
    | zeroTimeout h => exact .inr (.inr (.inr ⟨rfl, h⟩))
  · rintro (⟨rfl, h⟩ | ⟨rfl, h⟩ | ⟨rfl, h⟩ | ⟨rfl, h⟩)
    · exact .noUrl (h ▸ Text.trims_trim config.url)
    · exact .scheme (Text.trims_trim config.url) (by rwa [← hasScheme_iff, Bool.not_eq_true])
    · exact .halfCredentials h
    · exact .zeroTimeout h

/-- What is tested for later than a fault does not come before it. -/
theorem foremost_of {config : ConnectionConfig} {error : ConfigError} (h : config.Fault error)
    (hurl : Text.trim config.url = "" → error.rank ≤ 2)
    (hscheme : hasScheme (Text.trim config.url) = false → error.rank ≤ 3)
    (hhalf : config.username.isSome ≠ config.password.isSome → error.rank ≤ 4)
    (hzero : config.timeout = 0 → error.rank ≤ 5) : error.Foremost config.Fault := by
  refine ⟨h, fun other hother => ?_⟩
  rcases fault_iff.mp hother with ⟨rfl, h⟩ | ⟨rfl, h⟩ | ⟨rfl, h⟩ | ⟨rfl, h⟩
  · exact hurl h
  · exact hscheme h
  · exact hhalf h
  · exact hzero h

/-- A configuration passes its check, or its foremost fault is reported. -/
theorem validate_settles (config : ConnectionConfig) :
    (config.validate = .ok () ∧ ∀ error, ¬ config.Fault error) ∨
      ∃ error, config.validate = .error error ∧ error.Foremost config.Fault := by
  rw [validate]
  by_cases hblank : Text.trim config.url = ""
  · have hfault : config.Fault .noUrl := fault_iff.mpr (.inl ⟨rfl, hblank⟩)
    exact .inr ⟨_, if_pos hblank, foremost_of hfault (by simp) (by simp) (by simp) (by simp)⟩
  by_cases hscheme : hasScheme (Text.trim config.url) = false
  · have hfault : config.Fault (.scheme (Text.trim config.url)) :=
      fault_iff.mpr (.inr (.inl ⟨rfl, hscheme⟩))
    exact .inr ⟨_, by simp [hblank, hscheme],
      foremost_of hfault (by simp [hblank]) (by simp) (by simp) (by simp)⟩
  rw [Bool.not_eq_false] at hscheme
  by_cases hhalf : config.username.isSome = config.password.isSome
  · by_cases hzero : config.timeout = 0
    · have hfault : config.Fault .zeroTimeout := fault_iff.mpr (.inr (.inr (.inr ⟨rfl, hzero⟩)))
      exact .inr ⟨_, by simp [hblank, hscheme, hhalf, hzero],
        foremost_of hfault (by simp [hblank]) (by simp [hscheme]) (by simp [hhalf]) (by simp)⟩
    · exact .inl ⟨by simp [hblank, hscheme, hhalf, hzero],
        by simp [fault_iff, hblank, hscheme, hhalf, hzero]⟩
  · have hfault : config.Fault .halfCredentials := fault_iff.mpr (.inr (.inr (.inl ⟨rfl, hhalf⟩)))
    exact .inr ⟨_, by simp [hblank, hscheme, hhalf],
      foremost_of hfault (by simp [hblank]) (by simp [hscheme]) (by simp) (by simp)⟩

/-! ## Environments -/

/-- The configuration says what the environment does; it may have faults. -/
structure Repeats (config : ConnectionConfig) (env : Environment) : Prop where
  url : env.setting? "URL" = some config.url
  username : config.username = env.setting? "USERNAME"
  password : config.password = env.setting? "PASSWORD"
  timeout : ∃ seconds, Waits env seconds ∧ config.timeout = 1000000000 * seconds

/-- A configuration has the faults of the environment that it repeats. -/
theorem Repeats.fault_iff {config : ConnectionConfig} {env : Environment} (h : config.Repeats env)
    {error : ConfigError} : env.Fault error ↔ config.Fault error := by
  obtain ⟨seconds, hwaits, htimeout⟩ := h.timeout
  have hurl : ∀ {url : String}, env.setting? "URL" = some url → url = config.url :=
    fun hset => Option.some.inj (hset.symm.trans h.url)
  constructor
  · intro hfault
    cases hfault with
    | urlUnset hunset => simp [h.url] at hunset
    | timeout hset hnot => exact absurd (hwaits.spells hset) (hnot seconds)
    | noUrl hset htrim => exact .noUrl (hurl hset ▸ htrim)
    | scheme hset htrim hnot => exact .scheme (hurl hset ▸ htrim) hnot
    | halfCredentials hhalf =>
      rw [← h.username, ← h.password] at hhalf
      exact .halfCredentials hhalf
    | zeroTimeout hset hzero =>
      rw [(hwaits.spells hset).unique hzero] at htimeout
      exact .zeroTimeout htimeout
  · intro hfault
    cases hfault with
    | noUrl htrim => exact .noUrl h.url htrim
    | scheme htrim hnot => exact .scheme h.url htrim hnot
    | halfCredentials hhalf =>
      rw [h.username, h.password] at hhalf
      exact .halfCredentials hhalf
    | zeroTimeout hzero =>
      have hseconds : seconds = 0 := by omega
      rcases hwaits with ⟨-, hdefault⟩ | ⟨text, hset, hspells⟩
      · omega
      · exact .zeroTimeout hset (hseconds ▸ hspells)

/-- A configuration without faults comes from the environment, or its foremost fault is reported. -/
theorem ofEnvironment_settles (env : Environment) :
    (∃ config, ofEnvironment env = .ok config ∧ config.Repeats env ∧ config.validate = .ok () ∧
        ∀ error, ¬ env.Fault error) ∨
      ∃ error, ofEnvironment env = .error error ∧ error.Foremost env.Fault := by
  cases hurl : env.setting? "URL" with
  | none =>
    refine .inr ⟨.urlUnset, by rw [ofEnvironment, hurl], .urlUnset hurl, fun other _ => ?_⟩
    exact Nat.zero_le _
  | some url =>
    cases htimeout : timeoutOf env with
    | error error =>
      obtain ⟨text, hset, hnot, rfl⟩ := timeoutOf_eq_error_iff.mp htimeout
      refine .inr ⟨.timeout text, ?_, .timeout hset hnot, fun other hother => ?_⟩
      · rw [ofEnvironment, hurl, htimeout]
        rfl
      · cases hother with
        | urlUnset hunset => simp [hurl] at hunset
        | _ => simp
    | ok timeout =>
      let config : ConnectionConfig :=
        { url, username := env.setting? "USERNAME", password := env.setting? "PASSWORD", timeout }
      have hrepeats : config.Repeats env := ⟨hurl, rfl, rfl, timeoutOf_eq_ok_iff.mp htimeout⟩
      have hresult : ofEnvironment env = config.validate >>= fun _ => .ok config := by
        simp only [ofEnvironment, hurl, htimeout, bind, Except.bind, config]
      rcases config.validate_settles with ⟨hvalid, hfaultless⟩ | ⟨error, hinvalid, hfault, hfirst⟩
      · refine .inl ⟨config, ?_, hrepeats, hvalid, fun error => ?_⟩
        · rw [hresult, hvalid]
          rfl
        · rw [hrepeats.fault_iff]
          exact hfaultless error
      · refine .inr ⟨error, ?_, hrepeats.fault_iff.mpr hfault, fun other hother => ?_⟩
        · rw [hresult, hinvalid]
          rfl
        · exact hfirst other (hrepeats.fault_iff.mp hother)

end ConnectionConfig

namespace Environment

/-- Faults that are looked for together are one. -/
theorem Fault.eq_of_rank {env : Environment} {a b : ConfigError} (ha : env.Fault a)
    (hb : env.Fault b) (h : a.rank = b.rank) : a = b := by
  cases ha <;> cases hb <;> simp at h ⊢
  · next hset _ _ hother _ => exact Option.some.inj (hset.symm.trans hother)
  · next hset htrim _ _ _ hother hothertrim _ =>
    obtain rfl := Option.some.inj (hset.symm.trans hother)
    rw [htrim.eq_trim, hothertrim.eq_trim]

theorem foremost_unique {env : Environment} {a b : ConfigError} (ha : a.Foremost env.Fault)
    (hb : b.Foremost env.Fault) : a = b :=
  ha.1.eq_of_rank hb.1 (Nat.le_antisymm (ha.2 b hb.1) (hb.2 a ha.1))

/-- Nothing is wrong with an environment. -/
def Usable (env : Environment) : Prop :=
  (∃ url core, env.setting? "URL" = some url ∧ Text.Trims url core ∧ BeginsWithScheme core) ∧
    (∀ text, env.setting? "TIMEOUT_SECS" = some text →
      ∃ seconds, 0 < seconds ∧ Spells text seconds) ∧
    (env.setting? "USERNAME").isSome = (env.setting? "PASSWORD").isSome

theorem usable_iff {env : Environment} : env.Usable ↔ ∀ error, ¬ env.Fault error := by
  constructor
  · rintro ⟨⟨url, core, hurl, htrim, hscheme⟩, htimeout, hboth⟩ error hfault
    cases hfault with
    | urlUnset hunset => simp [hurl] at hunset
    | timeout hset hnot =>
      obtain ⟨seconds, -, hspells⟩ := htimeout _ hset
      exact hnot seconds hspells
    | noUrl hset hblank =>
      obtain rfl := Option.some.inj (hurl.symm.trans hset)
      rw [htrim.eq_trim, ← hblank.eq_trim] at hscheme
      exact absurd hscheme (by simp [BeginsWithScheme])
    | scheme hset hother hnot =>
      obtain rfl := Option.some.inj (hurl.symm.trans hset)
      rw [hother.eq_trim, ← htrim.eq_trim] at hnot
      exact hnot hscheme
    | halfCredentials hhalf => exact hhalf hboth
    | zeroTimeout hset hzero =>
      obtain ⟨seconds, hpos, hspells⟩ := htimeout _ hset
      rw [hspells.unique hzero] at hpos
      exact absurd hpos (Nat.lt_irrefl 0)
  · intro hfaultless
    refine ⟨?_, fun text hset => ?_, ?_⟩
    · cases hurl : env.setting? "URL" with
      | none => exact absurd (.urlUnset hurl) (hfaultless _)
      | some url =>
        refine ⟨url, Text.trim url, rfl, Text.trims_trim url, ?_⟩
        by_contra hnot
        exact hfaultless _ (.scheme hurl (Text.trims_trim url) hnot)
    · by_contra hnone
      by_cases hspells : ∃ seconds, Spells text seconds
      · obtain ⟨seconds, hspells⟩ := hspells
        have hzero : seconds = 0 :=
          Nat.eq_zero_of_not_pos fun hpos => hnone ⟨seconds, hpos, hspells⟩
        exact hfaultless _ (.zeroTimeout hset (hzero ▸ hspells))
      · exact hfaultless _ (.timeout hset fun seconds h => hspells ⟨seconds, h⟩)
    · by_contra hhalf
      exact hfaultless _ (.halfCredentials hhalf)

end Environment

/-- **An environment gives a configuration just when nothing is wrong with it.** The address is kept
with the blanks around it, the configuration passes its check, and its credentials are those of the
environment. Otherwise the fault that is looked for first is reported. -/
theorem ConnectionConfig.ofEnvironment_checks (env : Environment) :
    ((∃ config, ofEnvironment env = .ok config) ↔ env.Usable) ∧
    (∀ config, ofEnvironment env = .ok config →
      env.setting? "URL" = some config.url ∧
      (∃ seconds, Waits env seconds ∧ config.timeout = 1000000000 * seconds) ∧
      config.validate = .ok () ∧
      ∀ username password, config.credentials = some (username, password) ↔
        env.setting? "USERNAME" = some username ∧ env.setting? "PASSWORD" = some password) ∧
    ∀ error, ofEnvironment env = .error error ↔ error.Foremost env.Fault := by
  refine ⟨?succeeds, ?gives, ?reports⟩
  case succeeds =>
    refine Iff.trans ?_ env.usable_iff.symm
    rcases ofEnvironment_settles env with ⟨config, hok, -, -, hfaultless⟩ |
      ⟨error, herror, hfault, -⟩
    · exact ⟨fun _ => hfaultless, fun _ => ⟨config, hok⟩⟩
    · constructor
      · rintro ⟨config, hok⟩
        cases herror.symm.trans hok
      · intro hfaultless
        exact absurd hfault (hfaultless error)
  case gives =>
    intro config hok
    rcases ofEnvironment_settles env with ⟨other, hother, hrepeats, hvalid, -⟩ | ⟨error, herror, -⟩
    · cases hother.symm.trans hok
      refine ⟨hrepeats.url, hrepeats.timeout, hvalid, fun username password => ?_⟩
      rw [credentials, ← hrepeats.username, ← hrepeats.password]
      cases config.username <;> cases config.password <;> simp
    · cases herror.symm.trans hok
  case reports =>
    intro error
    rcases ofEnvironment_settles env with ⟨config, hok, -, -, hfaultless⟩ | ⟨other, herror, hother⟩
    · constructor
      · intro herror
        cases herror.symm.trans hok
      · rintro ⟨hfault, -⟩
        exact absurd hfault (hfaultless error)
    · rw [herror]
      constructor
      · intro h
        cases h
        exact hother
      · intro hfirst
        rw [Environment.foremost_unique hfirst hother]

/-- An address between blanks, seven seconds and an empty password; and an environment with three
faults. -/
theorem ConnectionConfig.ofEnvironment_checks_padded :
    let usable := Environment.ofList [("OPENSEQUEL_URL", " http://localhost:9200\n"),
      ("OPENSEQUEL_TIMEOUT_SECS", "+007"), ("OPENSEQUEL_USERNAME", "reader"),
      ("OPENSEQUEL_PASSWORD", "")]
    let config : ConnectionConfig :=
      { url := " http://localhost:9200\n", username := some "reader", password := some "",
        timeout := 7000000000 }
    let faulty := Environment.ofList [("OPENSEQUEL_URL", "ftp://localhost"),
      ("OPENSEQUEL_TIMEOUT_SECS", "0"), ("OPENSEQUEL_USERNAME", "reader")]
    (ofEnvironment usable = .ok config ∧ usable.Usable ∧ config.validate = .ok ()) ∧
      ofEnvironment faulty = .error (.scheme "ftp://localhost") ∧
      (ConfigError.scheme "ftp://localhost").Foremost faulty.Fault := by
  intro usable config faulty
  have hok : ofEnvironment usable = .ok config := by decide +kernel
  have herror : ofEnvironment faulty = .error (.scheme "ftp://localhost") := by decide +kernel
  obtain ⟨hsucceeds, hgives, -⟩ := ofEnvironment_checks usable
  obtain ⟨-, -, hreports⟩ := ofEnvironment_checks faulty
  exact ⟨⟨hok, hsucceeds.mp ⟨config, hok⟩, (hgives config hok).2.2.1⟩, herror,
    (hreports _).mp herror⟩

end DocSearch
