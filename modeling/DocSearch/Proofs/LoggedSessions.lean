/-
The log of a session. The level in force has a part in what is written of a step and in nothing
else: two runs that differ in the levels they put in force give the same answers and send the same
requests, and what is written of a step is what the level lets through of the same entries. Which
entries these are does not depend on levels at all (`Step.Logs`).
-/
import DocSearch.Log.Logger
import DocSearch.Proofs.StepEntries

namespace DocSearch

/-! ## Levels -/

namespace Log

/-- A higher level lets fewer of the same entries through. -/
theorem written_eq_filter (level : Level) (entries : List Entry) :
    written level entries
      = (written .trace entries).filter fun entry => level.severity ≤ entry.level.severity := by
  rw [written, written, List.filter_filter]
  refine List.filter_congr fun entry _ => ?_
  rw [Level.passes, Level.passes, Bool.and_comm]
  cases entry.level <;> simp [Level.severity]

theorem written_off (entries : List Entry) : written .off entries = [] :=
  List.filter_eq_nil_iff.mpr fun entry _ => by simp [entry.level.not_passes_off]

theorem written_trace {entries : List Entry} (h : ∀ entry ∈ entries, entry.level ≠ .off) :
    written .trace entries = entries :=
  List.filter_eq_self.mpr fun entry hentry => (Level.passes_trace _).mpr (h entry hentry)

namespace Logger

/-- The lines that a logger writes for entries, one after the other. -/
def lines (logger : Logger) (env : Environment) (time : String) : List Entry → List String
  | [] => []
  | entry :: entries =>
    (logger.write env time entry).1.toList ++ lines (logger.write env time entry).2 env time entries

/-- A logger writes what the level in force lets through, once its settings are read. -/
theorem lines_eq (logger : Logger) (env : Environment) (time : String) (entries : List Entry) :
    logger.lines env time entries
      = (written (logger.ready env).level entries).map (lineWith (logger.config env).1 time) := by
  induction entries generalizing logger with
  | nil => rfl
  | cons entry entries ih =>
    have hconfig : (logger.ready env).config env = ((logger.config env).1, logger.ready env) :=
      config_ready logger env env
    have hready : (logger.ready env).ready env = logger.ready env := by rw [ready, hconfig]
    have hwrite : logger.write env time entry = (if (logger.ready env).enabled entry.level then
        some (lineWith (logger.config env).1 time entry) else none, logger.ready env) := rfl
    rw [lines, hwrite, ih, hconfig, hready]
    cases hpasses : entry.level.passes (logger.ready env).level <;>
      simp [enabled, hpasses, written]

/-- A logger that is set to a level goes on with the settings that were read before. -/
theorem config_setLevel (logger : Logger) (env later : Environment) (level : Level) :
    ((logger.ready env).setLevel level).config later
      = ((logger.config env).1, (logger.ready env).setLevel level) := by
  cases hread : logger.settings? <;> simp [ready, config, setLevel, load, hread]

/-- A logger writes what the level that it was set to lets through, by the settings that were read
when it was set. -/
theorem lines_setLevel (logger : Logger) (env later : Environment) (time : String) (level : Level)
    (entries : List Entry) :
    ((logger.ready env).setLevel level).lines later time entries
      = (written level entries).map (lineWith (logger.config env).1 time) := by
  have hready : ((logger.ready env).setLevel level).ready later
      = (logger.ready env).setLevel level :=
    congrArg Prod.snd (config_setLevel logger env later level)
  rw [lines_eq, config_setLevel, hready]
  rfl

end Logger

end Log

/-! ## Steps and their levels -/

namespace Step

variable {α : Type}

/-- The step puts a level in force. -/
inductive IsLevel : Step α → Prop
  | setLevel (level : Log.Level) : IsLevel (.setLevel level)

/-- The step with another level, if it puts one in force. -/
def withLevel (level : Log.Level) : Step α → Step α
  | .setLevel _ => .setLevel level
  | step => step

end Step

section Levels

variable {α : Type}

/-- The steps with other levels, told by the places of the steps that put them in force. -/
def withLevels (levels : Nat → Log.Level) (steps : List (Step α)) : List (Step α) :=
  steps.mapIdx fun i step => step.withLevel (levels i)

theorem take_withLevels (levels : Nat → Log.Level) (steps : List (Step α)) (i : Nat) :
    (withLevels levels steps).take i = withLevels levels (steps.take i) := by
  refine List.ext_getElem? fun j => ?_
  simp only [withLevels, List.getElem?_take, List.getElem?_mapIdx]
  split <;> rfl

/-- What does not look at levels is the same after steps that differ in them. -/
theorem foldl_withLevels {σ : Type} {next : σ → Step α → σ}
    (h : ∀ state level step, next state (step.withLevel level) = next state step) (state : σ)
    (levels : Nat → Log.Level) (steps : List (Step α)) :
    (withLevels levels steps).foldl next state = steps.foldl next state := by
  induction steps generalizing state levels with
  | nil => rfl
  | cons step steps ih =>
    rw [withLevels, List.mapIdx_cons, List.foldl_cons, List.foldl_cons, h]
    exact ih (next state step) fun i => levels (i + 1)

theorem bindingAfter_withLevels (clients : Clients) (levels : Nat → Log.Level)
    (steps : List (Step α)) :
    bindingAfter clients (withLevels levels steps) = bindingAfter clients steps :=
  foldl_withLevels (fun _ _ step => by cases step <;> rfl) _ levels steps

theorem indexAfter_withLevels [Document α] (levels : Nat → Log.Level) (steps : List (Step α)) :
    indexAfter (withLevels levels steps) = indexAfter steps :=
  foldl_withLevels (fun _ _ step => by cases step <;> rfl) _ levels steps

end Levels

namespace Session

variable {α : Type} [Document α] {clients : Clients} {first : Log.Level}

/-- A step does not look at the level in force. -/
theorem step_level (collection : Collection) (level other : Log.Level) (step : Step α) :
    (Session.step ⟨collection, level⟩ clients step).2
      = (Session.step ⟨collection, other⟩ clients step).2 := by
  cases step with
  | bind name =>
    simp only [Session.step]
    split <;> rfl
  | connect config =>
    simp only [Session.step]
    split <;> rfl
  | openNew config =>
    simp only [Session.step]
    split <;> rfl
  | _ => rfl

/-! ## Runs -/

/-- The session after steps with other levels is the same but for the level in force. -/
theorem after_withLevels (levels : Nat → Log.Level) (steps : List (Step α)) :
    (start α first).after clients (withLevels levels steps)
      = ⟨⟨⟨bindingAfter clients steps⟩, indexAfter steps⟩,
          levelAfter first (withLevels levels steps)⟩ := by
  rw [after_start, bindingAfter_withLevels, indexAfter_withLevels]

/-- The answer to a step and its events, when the level in force is another and, if the step puts
one in force, that one is another. -/
theorem step_withLevel (clients : Clients) (collection : Collection)
    (level other chosen : Log.Level) (step : Step α) :
    (Session.step ⟨collection, level⟩ clients (step.withLevel chosen)).2.2
        = (Session.step ⟨collection, other⟩ clients step).2.2 ∧
      (¬ step.IsLevel →
        (Session.step ⟨collection, level⟩ clients (step.withLevel chosen)).2.1
          = (Session.step ⟨collection, other⟩ clients step).2.1) := by
  have hsame (h : step.withLevel chosen = step) :
      (Session.step ⟨collection, level⟩ clients (step.withLevel chosen)).2
        = (Session.step ⟨collection, other⟩ clients step).2 := by
    rw [h, step_level collection level other]
  -- Only a step that puts a level in force is another, and it has no events.
  cases step with
  | setLevel given => exact ⟨rfl, fun h => absurd (.setLevel given) h⟩
  | _ => exact ⟨congrArg Prod.snd (hsame rfl), fun _ => congrArg Prod.fst (hsame rfl)⟩

/-- **The level only filters the log.** Whichever levels a session begins with and its steps put in
force, a step gives the same answer and sends the same requests. It writes what the level in force
lets through of the same entries, in their order, and nothing while that is `off`; a logger that is
set to the level writes their lines. With all let through, a step that creates or drops an index
says so in front of its request; behind the requests it is told if an answer came to an error for
its status, an index was cleared or an engine was connected. Between these stands what a client
writes of the request and of its answer; no other transport writes of its own. -/
theorem run_withLevels (clients : Clients) (steps : List (Step α)) (i : Nat) {step : Step α}
    (hi : steps[i]? = some step) :
    let collection : Collection :=
      ⟨⟨bindingAfter clients (steps.take i)⟩, indexAfter (steps.take i)⟩
    ∃ answer announced sending sent received reported,
      let events := Event.framed (announced ++ sending) sent (received ++ reported)
      let entries := announced ++ sending ++ received ++ reported
      step.Logs clients collection announced sending received reported ∧
      ((∀ config, collection.connection.transport ≠ some (.client config)) →
        sending = [] ∧ received = []) ∧
      (∀ (first : Log.Level) (levels : Nat → Log.Level), ∃ shown,
        ((start α first).run clients (withLevels levels steps))[i]? = some (shown,
          levelAfter first (withLevels levels (steps.take i)), events) ∧
        (¬ step.IsLevel → shown = answer)) ∧
      Log.written .trace (Event.entries events) = entries ∧
      (∀ level, Log.written level (Event.entries events)
        = entries.filter fun entry => level.severity ≤ entry.level.severity) ∧
      Log.written .off (Event.entries events) = [] ∧
      ∀ (logger : Log.Logger) (env later : Environment) (time : String) (level : Log.Level),
        ((logger.ready env).setLevel level).lines later time (Event.entries events)
          = (entries.filter fun entry => level.severity ≤ entry.level.severity).map
              (Log.Logger.lineWith (logger.config env).1 time) := by
  intro collection
  -- Levels aside, every run comes to the step in this state.
  let session : Session := ⟨collection, .off⟩
  obtain ⟨announced, sending, sent, received, reported, hevents, hlogs⟩ :=
    session.step_framed clients step
  have hentries : Event.entries (Event.framed (announced ++ sending) sent (received ++ reported))
      = announced ++ sending ++ received ++ reported := by
    rw [Event.entries_framed, ← List.append_assoc]
  have htrace := Log.written_trace hlogs.level_ne_off
  have hfilter (level : Log.Level) :
      Log.written level (announced ++ sending ++ received ++ reported)
        = (announced ++ sending ++ received ++ reported).filter fun entry =>
            level.severity ≤ entry.level.severity := by
    rw [Log.written_eq_filter, htrace]
  refine ⟨(session.step clients step).2.1, announced, sending, sent, received, reported, hlogs,
    hlogs.silent, fun first levels => ?_, ?_, ?_, ?_, ?_⟩
  · have hstep : (withLevels levels steps)[i]? = some (step.withLevel (levels i)) := by
      rw [withLevels, List.getElem?_mapIdx, hi, Option.map_some]
    obtain ⟨hsame, hanswer⟩ := step_withLevel clients collection
      (levelAfter first (withLevels levels (steps.take i))) .off (levels i) step
    refine ⟨_, ?_, hanswer⟩
    rw [getElem?_run, hstep, take_withLevels, after_withLevels, Option.map_some, ← hevents,
      ← hsame]
  · rw [hentries, htrace]
  · intro level
    rw [hentries, hfilter]
  · exact Log.written_off _
  · intro logger env later time level
    rw [hentries, Log.Logger.lines_setLevel, hfilter]

/-- An index that is to be dropped through a client and is not there: that it is dropped is
announced, the client writes of the request and of the answer, and that the engine refused is noted.
At level `warn` only the latter is written. -/
theorem run_withLevels_refused_drop :
    let clients := Transport.ofConfig fun _ => .ok ()
    let steps : List (Step Json) :=
      [.connect { url := "http://node" }, .select (some "films"), .setLevel .off,
        .call .dropIndex (.ok ⟨404, .null⟩)]
    let announced : Log.Entry :=
      ⟨.info, "opensequel_model::model", "Deleting index: films", []⟩
    let sending : Log.Entry := ⟨.debug, "opensequel_model::transport", "sending request",
      [("method", "DELETE"), ("path", "/films")]⟩
    let received : Log.Entry := ⟨.debug, "opensequel_model::transport", "received response",
      [("status", "404"), ("path", "/films")]⟩
    let noted : Log.Entry :=
      ⟨.warn, "opensequel_model::response", "Request failed with status code 404",
        [("operation", "drop_index"), ("status", "404")]⟩
    ∃ events,
      (∀ first levels, ∃ shown,
        ((start Json first).run clients (withLevels levels steps))[3]?
          = some (shown, levels 2, events)) ∧
      Log.written .trace (Event.entries events) = [announced, sending, received, noted] ∧
      Log.written .warn (Event.entries events) = [noted] := by
  intro clients steps announced sending received noted
  obtain ⟨answer, _, _, sent, _, _, hlogs, -, hrun, htrace, hwritten, -⟩ :=
    run_withLevels clients steps 3 rfl
  have hbinding : bindingAfter clients (steps.take 3)
      = some (.client { url := "http://node" }) := by
    decide +kernel
  have hrefused : (404 : UInt16) < 200 ∨ 300 ≤ (404 : UInt16) := by decide
  have hresult : (Outcome.mk 404 .null).resultFor (α := Json) .dropIndex
      = .error (.http 404 .null) := rfl
  obtain rfl := hlogs.announces.eq_singleton (.dropIndex _)
  obtain rfl := hlogs.sends.eq_singleton (.client hbinding (.call .dropIndex))
  obtain rfl := hlogs.receives.eq_singleton (.client hbinding (.call .dropIndex))
  obtain rfl := hlogs.reports.eq_singleton (.failed .dropIndex hbinding hrefused hresult)
  refine ⟨_, fun first levels => (hrun first levels).imp fun _ h => h.1, htrace.trans ?_,
    (hwritten .warn).trans ?_⟩
  · decide +kernel
  · decide +kernel

end Session

end DocSearch
