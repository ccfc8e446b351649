/-
The entries of a step, whatever level is in force. Which they are is said from the step, the binding
and the reply alone. A collection writes in front of a request and when its call is done
(`Step.Announces`, `Step.Reports`); between these a client writes in front of each request and
behind each answer (`Step.Sends`, `Step.Receives`), and a transport of another kind writes nothing.

What a step writes is then four lists of one entry at most, each with the entry that is due and with
no other (`Log.Lone`), and what it sends goes out in their middle (`Session.step_framed`).
-/
import DocSearch.Proofs.FailedAnswers
import DocSearch.Proofs.SessionFacts

namespace DocSearch

namespace Log

/-- One entry at most, the one that is to be written. -/
structure Lone (writes : Entry → Prop) (entries : List Entry) : Prop where
  length_le : entries.length ≤ 1
  mem_iff : ∀ entry, entry ∈ entries ↔ writes entry

namespace Lone

variable {writes : Entry → Prop} {entries : List Entry}

theorem nil (h : ∀ entry, ¬ writes entry) : Lone writes [] where
  length_le := Nat.zero_le 1
  mem_iff entry := ⟨by rintro ⟨⟩, fun hwrites => absurd hwrites (h entry)⟩

theorem singleton {entry : Entry} (h : ∀ other, writes other ↔ other = entry) :
    Lone writes [entry] where
  length_le := Nat.le_refl 1
  mem_iff other := List.mem_singleton.trans (h other).symm

theorem eq_singleton (h : Lone writes entries) {entry : Entry} (hwrites : writes entry) :
    entries = [entry] := by
  have hmem : entry ∈ entries := (h.mem_iff entry).mpr hwrites
  obtain ⟨other, hother⟩ := List.length_eq_one_iff.mp
    (Nat.le_antisymm h.length_le (List.length_pos_of_mem hmem))
  rw [hother, List.mem_singleton] at hmem
  rw [hother, hmem]

theorem eq_nil (h : Lone writes entries) (hnone : ∀ entry, ¬ writes entry) : entries = [] :=
  List.eq_nil_iff_forall_not_mem.mpr fun entry hentry => hnone entry ((h.mem_iff entry).mp hentry)

end Lone

end Log

/-! ## What is written -/

namespace Step

variable {α : Type}

/-- The step is there to send a request, with the reply that would come to it. -/
inductive Asks [Document α] (index : String) :
    Step α → Request → Except Error Outcome → Prop
  | call {operation : Operation} {call : Call α operation} {reply : Except Error Outcome}
      {request : Request} : call.Asks index request → Asks index (.call call reply) request reply
  | query {query : RawQuery} {reply : Except Error Outcome} {request : Request} :
      query.Asks index request → Asks index (.query query reply) request reply

/-- What is written in front of the request of a step, whether or not there is a request. -/
inductive Announces (index : String) : Step α → Log.Entry → Prop
  | createIndex (definition : IndexDefinition) (reply : Except Error Outcome) :
      Announces index (.call (.createIndex definition) reply)
        ⟨.info, "opensequel_model::model", "Creating index: " ++ index, []⟩
  | dropIndex (reply : Except Error Outcome) :
      Announces index (.call .dropIndex reply)
        ⟨.info, "opensequel_model::model", "Deleting index: " ++ index, []⟩

/-- What a client writes before it sends the request of a step. -/
inductive Sends [Document α] (collection : Collection) (step : Step α) : Log.Entry → Prop
  | client {config : ConnectionConfig} {request : Request} {reply : Except Error Outcome} :
      collection.connection.transport = some (.client config) →
      step.Asks collection.index request reply →
      Sends collection step ⟨.debug, "opensequel_model::transport", "sending request",
        [("method", request.method.name), ("path", request.path)]⟩

/-- What a client writes when the answer to the request of a step is there. -/
inductive Receives [Document α] (collection : Collection) (step : Step α) : Log.Entry → Prop
  | client {config : ConnectionConfig} {request : Request} {outcome : Outcome} :
      collection.connection.transport = some (.client config) →
      step.Asks collection.index request (.ok outcome) →
      Receives collection step ⟨.debug, "opensequel_model::transport", "received response",
        [("status", Text.ofNat outcome.status.toNat), ("path", request.path)]⟩

/-- What is written when a step is done, with the connection and the index of `collection`: that an
answer came to an error, how many documents an index was cleared of, or that an engine is connected.
Nothing is written of answers that count as success in spite of their status, of answers that
succeeded and make no sense, and of queries. -/
inductive Reports [Document α] (clients : Clients) (collection : Collection) :
    Step α → Log.Entry → Prop
  | failed {operation : Operation} {call : Call α operation} {request : Request} {via : Transport}
      {outcome : Outcome} {error : Error} :
      call.Asks collection.index request → collection.connection.transport = some via →
      outcome.status < 200 ∨ 300 ≤ outcome.status →
      outcome.resultFor (α := α) operation = .error error →
      Reports clients collection (.call call (.ok outcome))
        ⟨.warn, "opensequel_model::response", error.message,
          [("operation", operation.name), ("status", Text.ofNat outcome.status.toNat)]⟩
  | truncated {via : Transport} {outcome : Outcome} {truncation : Truncation} :
      collection.connection.transport = some via →
      outcome.resultFor (α := α) .truncate = .ok truncation →
      Reports clients collection (.call .truncate (.ok outcome))
        ⟨.debug, "opensequel_model::model", "truncated index",
          [("index", collection.index), ("count", Text.ofNat truncation.count.toNat)]⟩
  | connected {config : ConnectionConfig} {transport : Transport} :
      collection.connection.transport = none → clients config = .ok transport →
      Reports clients collection (.connect config)
        ⟨.info, "opensequel_model::connection", "Connected to " ++ config.url, []⟩
  | opened {config : ConnectionConfig} {transport : Transport} :
      clients config = .ok transport →
      Reports clients collection (.openNew config)
        ⟨.info, "opensequel_model::connection", "Connected to " ++ config.url, []⟩

/-- What is written of a step, in the order in which it is written. What is sent goes out between
the second part and the third. -/
structure Logs [Document α] (clients : Clients) (collection : Collection) (step : Step α)
    (announced sending received reported : List Log.Entry) : Prop where
  announces : Log.Lone (step.Announces collection.index) announced
  sends : Log.Lone (step.Sends collection) sending
  receives : Log.Lone (step.Receives collection) received
  reports : Log.Lone (step.Reports clients collection) reported

end Step

/-! ## Requests -/

namespace Step

variable {α : Type} [Document α] {collection : Collection} {step : Step α}

section Exchanged

variable {via : Transport} {request : Request} {reply : Except Error Outcome}
  (hvia : collection.connection.transport = some via)
  (hasks : ∀ made other,
    step.Asks collection.index made other ↔ made = request ∧ other = reply)
include hvia hasks

theorem lone_sending : Log.Lone (step.Sends collection) (via.sending request) := by
  cases via with
  | named name =>
    refine .nil ?_
    rintro _ ⟨hclient, -⟩
    cases hvia.symm.trans hclient
  | client config =>
    refine .singleton fun entry => ⟨?_, ?_⟩
    · rintro ⟨-, hmade⟩
      obtain ⟨rfl, -⟩ := (hasks _ _).mp hmade
      rfl
    · rintro rfl
      exact .client hvia ((hasks _ _).mpr ⟨rfl, rfl⟩)

theorem lone_received : Log.Lone (step.Receives collection) (via.received request reply) := by
  cases via with
  | named name =>
    refine .nil ?_
    rintro _ ⟨hclient, -⟩
    cases hvia.symm.trans hclient
  | client config =>
    cases reply with
    | error error =>
      refine .nil ?_
      rintro _ ⟨-, hmade⟩
      cases ((hasks _ _).mp hmade).2
    | ok outcome =>
      refine .singleton fun entry => ⟨?_, ?_⟩
      · rintro ⟨-, hmade⟩
        obtain ⟨rfl, hreply⟩ := (hasks _ _).mp hmade
        cases hreply
        rfl
      · rintro rfl
        exact .client hvia ((hasks _ _).mpr ⟨rfl, rfl⟩)

end Exchanged

/-- A request on its way. Nothing is written of one that is not made or not sent. -/
theorem exchange_framed {request : Except Error Request} {reply : Except Error Outcome}
    (hasks : ∀ made other,
      step.Asks collection.index made other ↔ request = .ok made ∧ other = reply) :
    ∃ sending sent received,
      (collection.connection.exchange (fun _ _ => reply) request).2
        = Event.framed sending sent received ∧
      Log.Lone (step.Sends collection) sending ∧ Log.Lone (step.Receives collection) received := by
  cases request with
  | error error =>
    refine ⟨[], [], [], rfl, .nil ?_, .nil ?_⟩
    · rintro _ ⟨-, hmade⟩
      cases ((hasks _ _).mp hmade).1
    · rintro _ ⟨-, hmade⟩
      cases ((hasks _ _).mp hmade).1
  | ok made =>
    cases hvia : collection.connection.transport with
    | none =>
      rw [Connection.exchange_unbound hvia]
      refine ⟨[], [], [], rfl, .nil ?_, .nil ?_⟩
      · rintro _ ⟨hclient, -⟩
        cases hvia.symm.trans hclient
      · rintro _ ⟨hclient, -⟩
        cases hvia.symm.trans hclient
    | some via =>
      have hmade (other : Request) (answer : Except Error Outcome) :
          step.Asks collection.index other answer ↔ other = made ∧ answer = reply := by
        rw [hasks, Except.ok.injEq, eq_comm]
      rw [Connection.exchange_bound hvia]
      exact ⟨_, _, _, rfl, lone_sending hvia hmade, lone_received hvia hmade⟩

end Step

/-! ## Calls -/

namespace Outcome

variable {α : Type} [Document α]

/-- A note is made of an answer that comes to an error for its status. -/
theorem mem_notes_iff {outcome : Outcome} {operation : Operation} {entry : Log.Entry} :
    entry ∈ (outcome.settle (α := α) operation).2 ↔
      (outcome.status < 200 ∨ 300 ≤ outcome.status) ∧
        ∃ error, outcome.resultFor (α := α) operation = .error error ∧
          entry = ⟨.warn, "opensequel_model::response", error.message,
            [("operation", operation.name), ("status", Text.ofNat outcome.status.toNat)]⟩ := by
  rw [← isSuccess_eq_false_iff]
  cases hsuccess : outcome.isSuccess with
  | true => simp [settle, hsuccess]
  | false =>
    cases hrecovered : outcome.recovered? (α := α) operation with
    | some result => simp [settle, resultFor, hsuccess, hrecovered]
    | none =>
      have hstatus : outcome.failure.status = some outcome.status :=
        (failure_eq_iff.mp rfl).status_eq
      simp [settle, resultFor, hsuccess, hrecovered, warning, hstatus, Log.Source.entry,
        Log.Source.target]

/-- Of an answer that is noted there is no result. -/
theorem notes_eq_nil_or (outcome : Outcome) (operation : Operation) :
    (outcome.settle (α := α) operation).2 = [] ∨
      ∃ error, outcome.settle (α := α) operation = (.error error, [warning operation error]) := by
  rw [settle]
  split
  · exact .inl rfl
  · split
    · exact .inl rfl
    · exact .inr ⟨_, rfl⟩

end Outcome

namespace Collection

variable {α : Type} [Document α] {operation : Operation} {collection : Collection}

omit [Document α] in
theorem length_afterwards (call : Call α operation) (result : Except Error (operation.Result α)) :
    (collection.afterwards call result).length ≤ 1 := by
  cases result with
  | error error => exact Nat.zero_le 1
  | ok result => cases call <;> simp [afterwards, Call.completion]

/-- What is written of the answer to a call. -/
def remarks (collection : Collection) (call : Call α operation) :
    Except Error Outcome → List Log.Entry
  | .ok outcome =>
    (outcome.settle (α := α) operation).2
      ++ collection.afterwards call (outcome.resultFor operation)
  | .error _ => []

theorem length_remarks (call : Call α operation) (answer : Except Error Outcome) :
    (collection.remarks call answer).length ≤ 1 := by
  cases answer with
  | error error => exact Nat.zero_le 1
  | ok outcome =>
    -- What is noted of an answer is an error, and of an error no result is written.
    rcases outcome.notes_eq_nil_or (α := α) operation with h | ⟨error, h⟩
    · rw [remarks, h, List.nil_append]
      exact length_afterwards call _
    · rw [remarks, Outcome.resultFor, h]
      exact Nat.le_refl 1

theorem mem_remarks_ok_iff {clients : Clients} {call : Call α operation} {outcome : Outcome}
    {request : Request} {via : Transport} (h : call.Asks collection.index request)
    (hvia : collection.connection.transport = some via) {entry : Log.Entry} :
    entry ∈ collection.remarks call (.ok outcome) ↔
      (Step.call call (.ok outcome)).Reports clients collection entry := by
  rw [remarks, List.mem_append, Outcome.mem_notes_iff]
  constructor
  · rintro (⟨hout, error, herror, rfl⟩ | hafter)
    · exact .failed h hvia hout herror
    · cases hresult : outcome.resultFor (α := α) operation with
      | error error =>
        rw [hresult] at hafter
        cases hafter
      | ok result =>
        rw [hresult] at hafter
        cases call with
        | truncate =>
          obtain rfl := List.mem_singleton.mp hafter
          exact .truncated hvia hresult
        | _ => cases hafter
  · intro hreports
    cases hreports with
    | failed _ _ hout herror => exact .inl ⟨hout, _, herror, rfl⟩
    | truncated _ hresult =>
      right
      rw [hresult]
      exact List.mem_singleton.mpr rfl

/-- What is reported of a call is what is written of the answer that came. -/
theorem lone_remarks {clients : Clients} (call : Call α operation)
    (reply : Except Error Outcome) :
    Log.Lone ((Step.call call reply).Reports clients collection)
      (collection.remarks call (collection.connection.exchange (fun _ _ => reply)
        (call.request collection.index)).1) := by
  refine ⟨length_remarks call _, fun entry => ?_⟩
  cases hanswer : (collection.connection.exchange (fun _ _ => reply)
      (call.request collection.index)).1 with
  | ok outcome =>
    obtain ⟨request, via, hmade, hvia, rfl⟩ := Connection.exchange_eq_ok_iff.mp hanswer
    exact mem_remarks_ok_iff (Call.request_eq_ok_iff.mp hmade) hvia
  | error error =>
    have hlost (outcome : Outcome) (request : Request) (via : Transport)
        (hasks : call.Asks collection.index request)
        (hvia : collection.connection.transport = some via) (hreply : reply = .ok outcome) :
        False := by
      cases hanswer.symm.trans (Connection.exchange_eq_ok_iff.mpr
        ⟨request, via, Call.request_eq_ok_iff.mpr hasks, hvia, hreply⟩)
    refine ⟨by rintro ⟨⟩, fun hreports => ?_⟩
    cases hreports with
    | failed hasks hvia => exact (hlost _ _ _ hasks hvia rfl).elim
    | truncated hvia => exact (hlost _ _ _ .truncate hvia rfl).elim

/-- The events of a call are those of its request, with what the collection writes around them. -/
theorem perform_events (respond : Transport → Request → Except Error Outcome)
    (call : Call α operation) :
    (collection.perform respond call).2
      = (call.announcement collection.index).map Event.wrote
        ++ (collection.connection.exchange respond (call.request collection.index)).2
        ++ (collection.remarks call
            (collection.connection.exchange respond (call.request collection.index)).1).map
              Event.wrote := by
  rw [perform]
  rcases collection.connection.exchange respond (call.request collection.index) with
    ⟨error | outcome, sent⟩
  · exact (List.append_nil _).symm
  · rfl

end Collection

namespace Call

variable {α : Type} {operation : Operation}

theorem lone_announcement (index : String) (call : Call α operation)
    (reply : Except Error Outcome) :
    Log.Lone ((Step.call call reply).Announces index) (call.announcement index) := by
  cases call with
  | createIndex definition =>
    refine .singleton fun entry => ⟨?_, ?_⟩
    · rintro ⟨⟩
      rfl
    · rintro rfl
      exact .createIndex definition reply
  | dropIndex =>
    refine .singleton fun entry => ⟨?_, ?_⟩
    · rintro ⟨⟩
      rfl
    · rintro rfl
      exact .dropIndex reply
  | _ => exact .nil (by rintro _ ⟨⟩)

end Call

/-! ## Steps -/

namespace Step

variable {α : Type} [Document α] {clients : Clients} {collection : Collection} {step : Step α}
  {announced sending received reported : List Log.Entry}

/-- A step that has nothing to announce and no request. -/
theorem Logs.unasked (hannounces : ∀ entry, ¬ step.Announces collection.index entry)
    (hasks : ∀ request reply, ¬ step.Asks collection.index request reply)
    (hreports : Log.Lone (step.Reports clients collection) reported) :
    step.Logs clients collection [] [] [] reported where
  announces := .nil hannounces
  sends := .nil (by rintro _ ⟨-, hmade⟩; exact hasks _ _ hmade)
  receives := .nil (by rintro _ ⟨-, hmade⟩; exact hasks _ _ hmade)
  reports := hreports

/-- What a step that is there to connect an engine writes when it did. -/
theorem lone_connected (connection : Connection) (config : ConnectionConfig)
    (h : ∀ entry, step.Reports clients collection entry ↔
      entry = Connection.connected config ∧
        ∃ bound, connection.connect clients config = .ok bound) :
    Log.Lone (step.Reports clients collection)
      (match connection.connect clients config with
        | .ok _ => [Connection.connected config]
        | .error _ => []) := by
  cases hconnect : connection.connect clients config with
  | error error =>
    refine .nil fun entry hentry => ?_
    obtain ⟨-, bound, hbound⟩ := (h entry).mp hentry
    cases hconnect.symm.trans hbound
  | ok bound =>
    refine .singleton fun entry => (h entry).trans ⟨And.left, fun hentry => ⟨hentry, ?_⟩⟩
    exact ⟨bound, hconnect⟩

/-- No entry is of the level that lets nothing through. -/
theorem Logs.level_ne_off
    (h : step.Logs clients collection announced sending received reported) :
    ∀ entry ∈ announced ++ sending ++ received ++ reported, entry.level ≠ .off := by
  intro entry hentry
  simp only [List.mem_append] at hentry
  rcases hentry with ((hentry | hentry) | hentry) | hentry
  · cases (h.announces.mem_iff entry).mp hentry <;> rintro ⟨⟩
  · cases (h.sends.mem_iff entry).mp hentry
    rintro ⟨⟩
  · cases (h.receives.mem_iff entry).mp hentry
    rintro ⟨⟩
  · cases (h.reports.mem_iff entry).mp hentry <;> rintro ⟨⟩

/-- Only clients write of their own. -/
theorem Logs.silent (h : step.Logs clients collection announced sending received reported)
    (hother : ∀ config, collection.connection.transport ≠ some (.client config)) :
    sending = [] ∧ received = [] := by
  refine ⟨h.sends.eq_nil ?_, h.receives.eq_nil ?_⟩
  · rintro _ ⟨hclient, -⟩
    exact hother _ hclient
  · rintro _ ⟨hclient, -⟩
    exact hother _ hclient

end Step

namespace Session

variable {α : Type} [Document α]

/-- What is written of a step, around what it sends. -/
theorem step_framed (session : Session) (clients : Clients) (step : Step α) :
    ∃ announced sending sent received reported,
      (session.step clients step).2.2
        = Event.framed (announced ++ sending) sent (received ++ reported) ∧
      step.Logs clients session.collection announced sending received reported := by
  cases step with
  | bind name =>
    refine ⟨[], [], [], [], [], ?_,
      .unasked (by rintro _ ⟨⟩) (by rintro _ _ ⟨⟩) (.nil (by rintro _ ⟨⟩))⟩
    simp only [Session.step]
    split <;> rfl
  | connect config =>
    refine ⟨[], [], [], [], _, ?_, .unasked (by rintro _ ⟨⟩) (by rintro _ _ ⟨⟩)
      (Step.lone_connected session.collection.connection config fun entry => ⟨?_, ?_⟩)⟩
    · simp only [Session.step]
      cases session.collection.connection.connect clients config <;> rfl
    · rintro (_ | _ | ⟨hnone, htransport⟩)
      exact ⟨rfl, _, Connection.connect_eq_ok_iff.mpr ⟨hnone, _, htransport, rfl⟩⟩
    · rintro ⟨rfl, bound, hbound⟩
      obtain ⟨hnone, transport, htransport, -⟩ := Connection.connect_eq_ok_iff.mp hbound
      exact .connected hnone htransport
  | openNew config =>
    refine ⟨[], [], [], [], _, ?_, .unasked (by rintro _ ⟨⟩) (by rintro _ _ ⟨⟩)
      (Step.lone_connected {} config fun entry => ⟨?_, ?_⟩)⟩
    · simp only [Session.step]
      cases ({} : Connection).connect clients config <;> rfl
    · rintro (_ | _ | _ | htransport)
      exact ⟨rfl, _, Connection.connect_eq_ok_iff.mpr ⟨rfl, _, htransport, rfl⟩⟩
    · rintro ⟨rfl, bound, hbound⟩
      obtain ⟨-, transport, htransport, -⟩ := Connection.connect_eq_ok_iff.mp hbound
      exact .opened htransport
  | call call reply =>
    have hasks (made : Request) (other : Except Error Outcome) :
        (Step.call call reply).Asks session.collection.index made other ↔
          call.request session.collection.index = .ok made ∧ other = reply := by
      rw [Call.request_eq_ok_iff]
      constructor
      · rintro ⟨hmade⟩
        exact ⟨hmade, rfl⟩
      · rintro ⟨hmade, rfl⟩
        exact .call hmade
    obtain ⟨sending, sent, received, hevents, hsends, hreceives⟩ := Step.exchange_framed hasks
    refine ⟨_, sending, sent, received, _, ?_,
      Call.lone_announcement _ call reply, hsends, hreceives, Collection.lone_remarks call reply⟩
    rw [← Event.map_wrote_append_framed, ← hevents]
    exact Collection.perform_events _ call
  | query query reply =>
    have hasks (made : Request) (other : Except Error Outcome) :
        (Step.query query reply : Step α).Asks session.collection.index made other ↔
          (.ok (query.request session.collection.index) : Except Error Request) = .ok made ∧
            other = reply := by
      rw [Except.ok.injEq, eq_comm, ← RawQuery.asks_iff]
      constructor
      · rintro (_ | hmade)
        exact ⟨hmade, rfl⟩
      · rintro ⟨hmade, rfl⟩
        exact .query hmade
    obtain ⟨sending, sent, received, hevents, hsends, hreceives⟩ := Step.exchange_framed hasks
    refine ⟨[], sending, sent, received, [], ?_,
      .nil (by rintro _ ⟨⟩), hsends, hreceives, .nil (by rintro _ ⟨⟩)⟩
    rw [List.nil_append, List.append_nil, ← hevents]
    rfl
  | _ =>
    exact ⟨[], [], [], [], [], rfl,
      .unasked (by rintro _ ⟨⟩) (by rintro _ _ ⟨⟩) (.nil (by rintro _ ⟨⟩))⟩

end Session

end DocSearch
