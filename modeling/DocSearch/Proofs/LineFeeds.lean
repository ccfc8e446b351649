/-
How many lines a log has. A logger ends what it writes of an entry with a line feed, and an object
has no other (`noControl_line_json`). In the formats for the eye the texts of an entry stand as they
are, so that each line feed in them begins a line that no entry was written for.

Everything is counted: the line feeds of a line are those of its texts (`lineFeeds_line`), of some
lines those of each and one for each (`lineFeeds_ended`), and from there the count is carried to a
run, step by step. The texts that come from outside, and so may have line feeds, are the name of an
index, what an answer blames (`Error.quoted`), the address of an engine and, where a client writes
of requests, the path of a query of the caller's own. The path of a call has none: it is made of
segments.
-/
import DocSearch.Proofs.JsonLines
import DocSearch.Proofs.LoggedSessions
import DocSearch.Proofs.PathSegments
import Mathlib.Algebra.GroupWithZero.Nat

namespace DocSearch

/-! ## Texts -/

namespace Text

/-- How many line feeds a text has. -/
def lineFeeds (text : String) : Nat := text.toList.count '\n'

/-- The text is on one line. -/
def OneLine (text : String) : Prop := '\n' ∉ text.toList

theorem lineFeeds_eq_zero_iff {text : String} : lineFeeds text = 0 ↔ OneLine text :=
  List.count_eq_zero

@[simp] theorem lineFeeds_append (before after : String) :
    lineFeeds (before ++ after) = lineFeeds before + lineFeeds after := by
  simp [lineFeeds]

theorem lineFeeds_of_noControl {text : String} (h : NoControl text.toList) :
    lineFeeds text = 0 :=
  lineFeeds_eq_zero_iff.mpr fun hmem => absurd (h _ hmem) (by decide)

@[simp] theorem lineFeeds_ofNat (n : Nat) : lineFeeds (ofNat n) = 0 :=
  lineFeeds_of_noControl (by simpa [ofNat] using noControl_digits n)

end Text

/-! ## Lines -/

namespace Log

open Text (lineFeeds OneLine)

namespace Entry

/-- The texts that an entry is made of. -/
def texts (entry : Entry) : List String :=
  entry.target :: entry.message :: entry.fields.flatMap fun field => [field.1, field.2]

/-- How many line feeds the texts of an entry have. -/
def textFeeds (entry : Entry) : Nat := (entry.texts.map lineFeeds).sum

theorem lineFeeds_fieldText (fields : List (String × String)) :
    lineFeeds (fieldText fields)
      = ((fields.flatMap fun field => [field.1, field.2]).map lineFeeds).sum := by
  induction fields with
  | nil => rfl
  | cons field fields ih =>
    have hblank : lineFeeds " " = 0 := by decide
    have hsign : lineFeeds "=" = 0 := by decide
    have hcons : fieldText (field :: fields)
        = " " ++ field.1 ++ "=" ++ field.2 ++ fieldText fields := String.join_cons
    rw [hcons]
    simp [hblank, hsign, ih, Nat.add_assoc]

theorem lineFeeds_levelName (level : Level) : lineFeeds level.name = 0 := by
  cases level <;> decide

theorem lineFeeds_padded (width : Nat) (text : String) :
    lineFeeds (padded width text) = lineFeeds text := by
  have hblanks : lineFeeds (String.ofList (List.replicate (width - text.length) ' ')) = 0 := by
    simp [lineFeeds, List.count_replicate]
  rw [padded, Text.lineFeeds_append, hblanks, Nat.add_zero]

theorem lineFeeds_timeText {time : Option String} (h : ∀ text ∈ time, OneLine text) :
    lineFeeds (timeText time) = 0 := by
  cases time with
  | none => rfl
  | some text =>
    have htext : lineFeeds text = 0 := Text.lineFeeds_eq_zero_iff.mpr (h text rfl)
    have hblank : lineFeeds " " = 0 := by decide
    rw [timeText, Text.lineFeeds_append, htext, hblank]

/-- The line feeds in a line. -/
theorem lineFeeds_line (entry : Entry) (format : Format) {time : Option String}
    (h : ∀ text ∈ time, OneLine text) :
    lineFeeds (entry.line format time) = if format = .json then 0 else entry.textFeeds := by
  have hopen : lineFeeds " [" = 0 := by decide
  have hclose : lineFeeds "] " = 0 := by decide
  have hblank : lineFeeds " " = 0 := by decide
  have hcolon : lineFeeds ": " = 0 := by decide
  cases format with
  | pretty =>
    simp only [line, Text.lineFeeds_append, lineFeeds_timeText h, lineFeeds_padded,
      lineFeeds_levelName, lineFeeds_fieldText, hopen, hclose, textFeeds, texts, List.map_cons,
      List.sum_cons, reduceCtorEq, if_false]
    omega
  | compact =>
    have hinitial : lineFeeds (String.ofList (entry.level.name.toList.take 1)) = 0 := by
      cases entry.level <;> decide
    simp only [line, Text.lineFeeds_append, lineFeeds_timeText h, hinitial, lineFeeds_fieldText,
      hblank, hcolon, textFeeds, texts, List.map_cons, List.sum_cons, reduceCtorEq, if_false]
    omega
  | json => exact Text.lineFeeds_of_noControl (noControl_line_json entry time)

theorem textFeeds_eq_zero_iff {entry : Entry} :
    entry.textFeeds = 0 ↔ ∀ text ∈ entry.texts, OneLine text := by
  rw [textFeeds, List.sum_eq_zero_iff_forall_eq_nat]
  simp [Text.lineFeeds_eq_zero_iff]

end Entry

/-- How many line feeds of the texts of entries show in their lines. -/
def shownFeeds (format : Format) (entries : List Entry) : Nat :=
  if format = .json then 0 else (entries.map Entry.textFeeds).sum

theorem shownFeeds_append (format : Format) (before after : List Entry) :
    shownFeeds format (before ++ after) = shownFeeds format before + shownFeeds format after := by
  rw [shownFeeds, shownFeeds, shownFeeds]
  split <;> simp

theorem shownFeeds_eq_zero_iff {format : Format} {entries : List Entry} :
    shownFeeds format entries = 0 ↔
      format = .json ∨ ∀ entry ∈ entries, ∀ text ∈ entry.texts, OneLine text := by
  by_cases hjson : format = .json
  · simp [shownFeeds, hjson]
  · rw [shownFeeds, if_neg hjson, List.sum_eq_zero_iff_forall_eq_nat]
    simp [hjson, Entry.textFeeds_eq_zero_iff]

/-- Lines, with a line feed behind each. -/
def ended (lines : List String) : String := String.join (lines.map (· ++ "\n"))

theorem lineFeeds_ended (lines : List String) :
    lineFeeds (ended lines) = lines.length + (lines.map lineFeeds).sum := by
  induction lines with
  | nil => rfl
  | cons line lines ih =>
    have hend : lineFeeds "\n" = 1 := by decide
    have hcons : ended (line :: lines) = line ++ "\n" ++ ended lines := String.join_cons
    rw [hcons, Text.lineFeeds_append, Text.lineFeeds_append, hend, ih, List.length_cons,
      List.map_cons, List.sum_cons]
    omega

namespace Logger

/-- The line feeds in the line of one entry are those of its texts that show. -/
theorem lineFeeds_lineWith (settings : Settings) {time : String} (htime : OneLine time)
    (entry : Entry) :
    lineFeeds (lineWith settings time entry) = shownFeeds settings.format [entry] := by
  have hshown : shownFeeds settings.format [entry]
      = if settings.format = .json then 0 else entry.textFeeds := by simp [shownFeeds]
  rw [hshown]
  refine entry.lineFeeds_line _ fun text htext => ?_
  split at htext
  · obtain rfl := Option.some.inj htext
    exact htime
  · cases htext

theorem lineFeeds_ended_lines (settings : Settings) {time : String} (htime : OneLine time)
    (entries : List Entry) :
    lineFeeds (ended (entries.map (lineWith settings time)))
      = entries.length + shownFeeds settings.format entries := by
  rw [lineFeeds_ended, List.length_map]
  congr 1
  induction entries with
  | nil => simp [shownFeeds]
  | cons entry entries ih =>
    rw [List.map_cons, List.map_cons, List.sum_cons, ih, lineFeeds_lineWith settings htime,
      ← shownFeeds_append, List.singleton_append]

end Logger

end Log

open Text (lineFeeds OneLine)

/-! ## Texts from outside -/

/-- The texts that an error quotes from the answer that is blamed. -/
def Error.quoted : Error → List String
  | notFound index id => [index, id]
  | engine _ reason => [reason]
  | _ => []

theorem Outcome.Blames.lineFeeds_message {outcome : Outcome} {error : Error}
    (h : outcome.Blames error) :
    lineFeeds error.message = (error.quoted.map lineFeeds).sum := by
  cases h with
  | unauthorized => decide
  | @notFound index id =>
    have hmessage : (Error.notFound index id).message
        = "Document not found: " ++ index ++ "/" ++ id := rfl
    have hstart : lineFeeds "Document not found: " = 0 := by decide
    have hslash : lineFeeds "/" = 0 := by decide
    simp [hmessage, Error.quoted, hstart, hslash]
  | @engine reason =>
    have hmessage : (Error.engine outcome.status reason).message = reason := rfl
    simp [hmessage, Error.quoted]
  | http =>
    have hmessage : (Error.http outcome.status outcome.body).message
        = "Request failed with status code " ++ Text.ofNat outcome.status.toNat := rfl
    have hstart : lineFeeds "Request failed with status code " = 0 := by decide +kernel
    simp [hmessage, Error.quoted, hstart]

theorem Operation.lineFeeds_name (operation : Operation) : lineFeeds operation.name = 0 := by
  cases operation <;> decide

theorem Method.lineFeeds_name (method : Method) : lineFeeds method.name = 0 := by
  cases method <;> decide

/-- A segment has no line feed, whatever text it stands for. -/
@[simp] theorem Text.lineFeeds_segment (text : String) :
    lineFeeds (Text.Percent.segment text) = 0 :=
  Text.lineFeeds_eq_zero_iff.mpr (Text.Percent.not_mem_segment (by decide) text)

namespace Step

variable {α : Type}

/-- The texts from outside in what is written when a step is done. -/
def reported [Document α] (collection : Collection) : Step α → List String
  | @Step.call _ operation _ (.ok outcome) =>
    match outcome.resultFor (α := α) operation with
    | .error error => error.quoted
    | .ok _ => [collection.index]
  | .connect config => [config.url]
  | .openNew config => [config.url]
  | _ => []

/-- The texts from outside in what a client writes of the request of a step. -/
def queried : Step α → List String
  | .query asked _ => [asked.path]
  | _ => []

/-- The line feeds in the path of a request are those of the path that the caller gave. -/
theorem Asks.lineFeeds_path [Document α] {index : String} {step : Step α} {request : Request}
    {reply : Except Error Outcome} (h : step.Asks index request reply) :
    lineFeeds request.path = (step.queried.map lineFeeds).sum := by
  have hslash : lineFeeds "/" = 0 := by decide
  cases h with
  | call hasks =>
    have hdocument : lineFeeds "/_doc" = 0 := by decide
    have hbelow : lineFeeds "/_doc/" = 0 := by decide
    have hsearch : lineFeeds "/_search" = 0 := by decide
    have hupdate : lineFeeds "/_update/" = 0 := by decide
    have hclear : lineFeeds "/_delete_by_query" = 0 := by decide
    cases hasks <;>
      simp [queried, hslash, hdocument, hbelow, hsearch, hupdate, hclear]
  | @query asked _ _ hasks =>
    have hqueried : (((Step.query asked reply : Step α).queried).map lineFeeds).sum
        = asked.path.toList.count '\n' := by simp [queried, lineFeeds]
    have hcount {slashes : List Char} (hslashes : ∀ slash ∈ slashes, slash = '/') :
        slashes.count '\n' = 0 :=
      List.count_eq_zero.mpr fun hmem => absurd (hslashes _ hmem) (by decide)
    rw [hqueried]
    rcases hasks with hall | @⟨slashes, rest, c, hpath, hslashes, -⟩
    · rw [hcount hall]
      simp [hslash]
    · have hrest : lineFeeds (String.ofList (c :: rest)) = (c :: rest).count '\n' := by
        rw [lineFeeds, String.toList_ofList]
      rw [hpath, List.count_append, hcount hslashes, Nat.zero_add, ← hrest]
      simp [hslash]

/-- What a client writes before it sends a request has the line feeds of a path that was given. -/
theorem Sends.textFeeds_eq [Document α] {collection : Collection} {step : Step α}
    {entry : Log.Entry} (h : step.Sends collection entry) :
    entry.textFeeds = (step.queried.map lineFeeds).sum := by
  obtain ⟨-, hasks⟩ := h
  have htarget : lineFeeds "opensequel_model::transport" = 0 := by decide +kernel
  have hmessage : lineFeeds "sending request" = 0 := by decide
  have hmethod : lineFeeds "method" = 0 := by decide
  have hpath : lineFeeds "path" = 0 := by decide
  simp [Log.Entry.textFeeds, Log.Entry.texts, htarget, hmessage, hmethod, hpath,
    Method.lineFeeds_name, hasks.lineFeeds_path]

/-- So has what it writes when the answer is there. -/
theorem Receives.textFeeds_eq [Document α] {collection : Collection} {step : Step α}
    {entry : Log.Entry} (h : step.Receives collection entry) :
    entry.textFeeds = (step.queried.map lineFeeds).sum := by
  obtain ⟨-, hasks⟩ := h
  have htarget : lineFeeds "opensequel_model::transport" = 0 := by decide +kernel
  have hmessage : lineFeeds "received response" = 0 := by decide
  have hstatus : lineFeeds "status" = 0 := by decide
  have hpath : lineFeeds "path" = 0 := by decide
  simp [Log.Entry.textFeeds, Log.Entry.texts, htarget, hmessage, hstatus, hpath,
    hasks.lineFeeds_path]

/-- What is written in front of a request has the line feeds of the index. -/
theorem Announces.textFeeds_eq {index : String} {step : Step α} {entry : Log.Entry}
    (h : step.Announces index entry) : entry.textFeeds = lineFeeds index := by
  have htarget : lineFeeds "opensequel_model::model" = 0 := by decide +kernel
  cases h with
  | createIndex =>
    have hstart : lineFeeds "Creating index: " = 0 := by decide
    simp [Log.Entry.textFeeds, Log.Entry.texts, htarget, hstart]
  | dropIndex =>
    have hstart : lineFeeds "Deleting index: " = 0 := by decide
    simp [Log.Entry.textFeeds, Log.Entry.texts, htarget, hstart]

/-- What is written when a step is done has the line feeds of the texts from outside. -/
theorem Reports.textFeeds_eq [Document α] {clients : Clients} {collection : Collection}
    {step : Step α} {entry : Log.Entry} (h : step.Reports clients collection entry) :
    entry.textFeeds = ((step.reported collection).map lineFeeds).sum := by
  cases h with
  | @failed operation _ _ _ outcome error _ _ hout herror =>
    have hblames : outcome.Blames error := by
      cases ((Outcome.resultFor_eq_iff_settles hout operation _).1.mp herror) with
      | blamed _ hblames => exact hblames
    have htarget : lineFeeds "opensequel_model::response" = 0 := by decide +kernel
    have hoperation : lineFeeds "operation" = 0 := by decide
    have hstatus : lineFeeds "status" = 0 := by decide
    simp [Log.Entry.textFeeds, Log.Entry.texts, reported, herror, htarget, hoperation, hstatus,
      operation.lineFeeds_name, hblames.lineFeeds_message]
  | truncated _ hresult =>
    have htarget : lineFeeds "opensequel_model::model" = 0 := by decide +kernel
    have hmessage : lineFeeds "truncated index" = 0 := by decide
    have hindex : lineFeeds "index" = 0 := by decide
    have hcount : lineFeeds "count" = 0 := by decide
    simp [Log.Entry.textFeeds, Log.Entry.texts, reported, hresult, htarget, hmessage, hindex,
      hcount]
  | connected | opened =>
    have htarget : lineFeeds "opensequel_model::connection" = 0 := by decide +kernel
    have hstart : lineFeeds "Connected to " = 0 := by decide
    simp [Log.Entry.textFeeds, Log.Entry.texts, reported, htarget, hstart]

end Step

/-! ## Runs -/

namespace Session

variable {α : Type}

/-- The entries of a run that are let through, each by the level in force at its step. -/
def logged (run : List (Answer α × Log.Level × List Event)) : List Log.Entry :=
  run.flatMap fun seen => Log.written seen.2.1 (Event.entries seen.2.2)

/-- What is put out in a run by a logger that is always set to the level in force, with the time
of each step. -/
def output (logger : Log.Logger) (env later : Environment) (times : Nat → String)
    (run : List (Answer α × Log.Level × List Event)) : String :=
  String.join (run.mapIdx fun i seen => Log.ended
    (((logger.ready env).setLevel seen.2.1).lines later (times i) (Event.entries seen.2.2)))

/-- As many lines are put out in a run as entries are let through, and as many more as line feeds
of their texts show. -/
theorem lineFeeds_output (logger : Log.Logger) (env later : Environment) {times : Nat → String}
    (htimes : ∀ i, OneLine (times i)) (run : List (Answer α × Log.Level × List Event)) :
    lineFeeds (output logger env later times run)
      = (logged run).length + Log.shownFeeds (logger.config env).1.format (logged run) := by
  induction run generalizing times with
  | nil => simp [output, logged, Log.shownFeeds, lineFeeds]
  | cons seen run ih =>
    have hlogged : logged (seen :: run)
        = Log.written seen.2.1 (Event.entries seen.2.2) ++ logged run := List.flatMap_cons
    have houtput : output logger env later times (seen :: run)
        = Log.ended (((logger.ready env).setLevel seen.2.1).lines later (times 0)
            (Event.entries seen.2.2))
          ++ output logger env later (fun i => times (i + 1)) run := by
      rw [output, List.mapIdx_cons, String.join_cons, output]
    rw [houtput, Text.lineFeeds_append, Log.Logger.lines_setLevel,
      Log.Logger.lineFeeds_ended_lines _ (htimes 0), ih fun i => htimes (i + 1), hlogged,
      List.length_append, Log.shownFeeds_append]
    omega

/-- **How many lines a log has**, as long as its times are on one line:

* the line of an entry is one line just when it is an object or all texts of the entry are on one
  line;
* a logger puts out a line for each entry that it lets through, and one more for each line feed of
  their texts that shows;
* so it is in a run, where as many lines are put out as entries are let through just when the lines
  are objects or all texts of these entries are on one line;
* the line feeds in what a step writes come from outside: in front of its request from the index,
  around it, where a client writes, from the path that a query was given, and behind it from what
  the answer is blamed with, from the index that was cleared or from the address that was
  connected. -/
theorem lineFeeds_logged [Document α] (clients : Clients) (first : Log.Level) :
    (∀ (settings : Log.Settings) (time : String) (entry : Log.Entry), OneLine time →
      (OneLine (Log.Logger.lineWith settings time entry) ↔
        settings.format = .json ∨ ∀ text ∈ entry.texts, OneLine text)) ∧
    (∀ (logger : Log.Logger) (env : Environment) (time : String) (entries : List Log.Entry),
      OneLine time →
      let written := Log.written (logger.ready env).level entries
      lineFeeds (Log.ended (logger.lines env time entries))
        = written.length + Log.shownFeeds (logger.config env).1.format written) ∧
    (∀ (logger : Log.Logger) (env later : Environment) (times : Nat → String)
        (steps : List (Step α)), (∀ i, OneLine (times i)) →
      let run := (start α first).run clients steps
      lineFeeds (output logger env later times run)
          = (logged run).length + Log.shownFeeds (logger.config env).1.format (logged run) ∧
      (lineFeeds (output logger env later times run) = (logged run).length ↔
        (logger.config env).1.format = .json ∨
          ∀ entry ∈ logged run, ∀ text ∈ entry.texts, OneLine text)) ∧
    ∀ (steps : List (Step α)) (i : Nat) (step : Step α), steps[i]? = some step →
      let collection : Collection :=
        ⟨⟨bindingAfter clients (steps.take i)⟩, indexAfter (steps.take i)⟩
      ∃ answer announced sending sent received reported,
        ((start α first).run clients steps)[i]? = some (answer, levelAfter first (steps.take i),
          Event.framed (announced ++ sending) sent (received ++ reported)) ∧
        step.Logs clients collection announced sending received reported ∧
        (∀ entry ∈ announced, entry.textFeeds = lineFeeds collection.index) ∧
        (∀ entry ∈ sending ++ received,
          entry.textFeeds = (step.queried.map lineFeeds).sum) ∧
        ∀ entry ∈ reported, entry.textFeeds = ((step.reported collection).map lineFeeds).sum := by
  refine ⟨fun settings time entry htime => ?_, fun logger env time entries htime => ?_,
    fun logger env later times steps htimes => ?_, fun steps i step hi => ?_⟩
  · rw [← Text.lineFeeds_eq_zero_iff, Log.Logger.lineFeeds_lineWith settings htime,
      Log.shownFeeds_eq_zero_iff, List.forall_mem_singleton]
  · rw [Log.Logger.lines_eq, Log.Logger.lineFeeds_ended_lines _ htime]
  · have hcount := lineFeeds_output logger env later htimes ((start α first).run clients steps)
    refine ⟨hcount, ?_⟩
    rw [hcount, Nat.add_eq_left, Log.shownFeeds_eq_zero_iff]
  · intro collection
    let session : Session := ⟨collection, levelAfter first (steps.take i)⟩
    obtain ⟨announced, sending, sent, received, reported, hevents, hlogs⟩ :=
      session.step_framed clients step
    refine ⟨(session.step clients step).2.1, announced, sending, sent, received, reported, ?_,
      hlogs, fun entry hentry => ((hlogs.announces.mem_iff entry).mp hentry).textFeeds_eq,
      fun entry hentry => ?_,
      fun entry hentry => ((hlogs.reports.mem_iff entry).mp hentry).textFeeds_eq⟩
    · rw [getElem?_run, hi, Option.map_some, after_start, ← hevents]
    · rcases List.mem_append.mp hentry with hsending | hreceived
      · exact ((hlogs.sends.mem_iff entry).mp hsending).textFeeds_eq
      · exact ((hlogs.receives.mem_iff entry).mp hreceived).textFeeds_eq

/-- An index that is not cleared for a reason with two line feeds: an object that quotes the reason
is one line. -/
theorem lineFeeds_logged_object :
    let reason := "down\nI opensequel_model::model: Deleting index: films\n"
    let steps : List (Step Json) := [.bind "node", .select (some "films"), .setLevel .warn,
      .call .truncate (.ok ⟨500, .single "error"
        (.single "root_cause" (.array [.single "reason" (.string reason)]))⟩)]
    let run := (start Json .warn).run (Transport.ofConfig fun _ => .ok ()) steps
    let noted : Log.Entry := ⟨.warn, "opensequel_model::response", reason,
      [("operation", "truncate"), ("status", "500")]⟩
    let env := Environment.ofList [("OPENSEQUEL_LOG_FORMAT", "json")]
    let time := "12:00:00"
    OneLine time ∧ OneLine (Log.Logger.lineWith { format := .json } time noted) ∧
      lineFeeds (Log.ended (({} : Log.Logger).lines env time [noted])) = 1 ∧
      logged run = [noted] ∧ lineFeeds (output {} env env (fun _ => time) run) = 1 ∧
      ∃ answer announced sending sent received reported,
        run[3]? = some (answer, .warn,
          Event.framed (announced ++ sending) sent (received ++ reported)) ∧
        ∀ entry ∈ reported, entry.textFeeds = 2 := by
  intro reason steps run noted env time
  have htime : OneLine time := Text.lineFeeds_eq_zero_iff.mp (by decide)
  have hlogged : logged run = [noted] := by decide +kernel
  have hformat : (({} : Log.Logger).config env).1.format = .json := by decide +kernel
  obtain ⟨hline, hlogger, hrun, hstep⟩ :=
    lineFeeds_logged (α := Json) (Transport.ofConfig fun _ => .ok ()) .warn
  have houtput : lineFeeds (output {} env env (fun _ => time) run) = (logged run).length :=
    (hrun {} env env (fun _ => time) steps fun _ => htime).2.mpr (.inl hformat)
  obtain ⟨answer, announced, sending, sent, received, reported, hanswered, -, -, -, hreported⟩ :=
    hstep steps 3 _ rfl
  refine ⟨htime, (hline _ _ _ htime).mpr (.inl rfl), (hlogger _ _ _ _ htime).trans ?_, hlogged,
    houtput.trans (congrArg List.length hlogged), answer, announced, sending, sent, received,
    reported, hanswered, fun entry hentry => (hreported entry hentry).trans ?_⟩
  · decide +kernel
  · decide +kernel

/-- For the eye the same entry is three lines, and the second of them is the line of another, which
nothing wrote: that the index is dropped. -/
theorem lineFeeds_logged_forged :
    let reason := "down\nI opensequel_model::model: Deleting index: films\n"
    let steps : List (Step Json) := [.bind "node", .select (some "films"), .setLevel .warn,
      .call .truncate (.ok ⟨500, .single "error"
        (.single "root_cause" (.array [.single "reason" (.string reason)]))⟩)]
    let run := (start Json .warn).run (Transport.ofConfig fun _ => .ok ()) steps
    let forged : Log.Entry := ⟨.info, "opensequel_model::model", "Deleting index: films", []⟩
    let untimed := Environment.ofList [("OPENSEQUEL_LOG_TIMESTAMPS", "0")]
    (logged run).length = 1 ∧ forged ∉ logged run ∧
      lineFeeds (output {} untimed untimed (fun _ => "12:00:00") run) = 3 ∧
      output {} untimed untimed (fun _ => "12:00:00") run
        = "W opensequel_model::response: down\n" ++ forged.line .compact none
          ++ "\n operation=truncate status=500\n" := by
  decide +kernel

end Session

end DocSearch
