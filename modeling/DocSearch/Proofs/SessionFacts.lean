/-
What the requests of a session come to. A call and a query are carried by the transport that the
connection is bound to, once and as they are, or not at all, and what comes back is settled or
passed on. The binding and the index are those that the steps before have left (`bindingAfter`,
`indexAfter`), and of these steps the ones that make requests leave no trace. How clients are made
of configurations is left open (`Clients`).
-/
import DocSearch.Proofs.BodyFacts
import DocSearch.Proofs.CallFacts
import DocSearch.Session

namespace DocSearch

/-! ## Calls and queries -/

namespace Collection

variable {α : Type} [Document α] {operation : Operation}

/-- What a call comes to, and what is sent on the way: nothing if its request cannot be made or if
there is no transport. -/
inductive Carries (collection : Collection) (respond : Transport → Request → Except Error Outcome)
    (call : Call α operation) :
    Except Error (operation.Result α) → List (Transport × Request) → Prop
  | unmade {error : Error} : call.Unmade error →
      Carries collection respond call (.error error) []
  | unbound {request : Request} : call.Asks collection.index request →
      collection.connection.transport = none →
      Carries collection respond call (.error .notConnected) []
  | lost {request : Request} {via : Transport} {error : Error} :
      call.Asks collection.index request → collection.connection.transport = some via →
      respond via request = .error error →
      Carries collection respond call (.error error) [(via, request)]
  | settled {request : Request} {via : Transport} {outcome : Outcome} :
      call.Asks collection.index request → collection.connection.transport = some via →
      respond via request = .ok outcome →
      Carries collection respond call (outcome.resultFor operation) [(via, request)]

/-- What a query of the caller's own comes to, and what is sent on the way. -/
inductive Passes (collection : Collection) (respond : Transport → Request → Except Error Outcome)
    (query : RawQuery) : Except Error Outcome → List (Transport × Request) → Prop
  | unbound : collection.connection.transport = none →
      Passes collection respond query (.error .notConnected) []
  | lost {request : Request} {via : Transport} {error : Error} :
      query.Asks collection.index request → collection.connection.transport = some via →
      respond via request = .error error →
      Passes collection respond query (.error error) [(via, request)]
  | passed {request : Request} {via : Transport} {outcome : Outcome} :
      query.Asks collection.index request → collection.connection.transport = some via →
      respond via request = .ok outcome → 200 ≤ outcome.status → outcome.status < 300 →
      Passes collection respond query (.ok outcome) [(via, request)]
  | refused {request : Request} {via : Transport} {outcome : Outcome} :
      query.Asks collection.index request → collection.connection.transport = some via →
      respond via request = .ok outcome → outcome.status < 200 ∨ 300 ≤ outcome.status →
      Passes collection respond query (.error (.http outcome.status outcome.body))
        [(via, request)]

variable {collection : Collection} {respond : Transport → Request → Except Error Outcome}
  {call : Call α operation}

/-- What comes of a call is seen from what comes of its request. -/
theorem perform_of_exchange {outcome : Except Error Outcome} {sent : List Event}
    (h : collection.connection.exchange respond (call.request collection.index) = (outcome, sent)) :
    (collection.perform respond call).1 = outcome.bind (·.resultFor operation) ∧
      Event.requests (collection.perform respond call).2 = Event.requests sent := by
  cases outcome <;> simp [perform, h, Outcome.resultFor, Except.bind]

theorem perform_of_unmade {error : Error} (h : call.Unmade error) :
    (collection.perform respond call).1 = .error error ∧
      Event.requests (collection.perform respond call).2 = [] := by
  have hexchange : collection.connection.exchange respond (call.request collection.index)
      = (.error error, []) := by
    rw [Call.request_of_unmade h, Connection.exchange_error]
  exact perform_of_exchange hexchange

theorem perform_of_unbound {request : Request} (h : call.Asks collection.index request)
    (hnone : collection.connection.transport = none) :
    (collection.perform respond call).1 = .error .notConnected ∧
      Event.requests (collection.perform respond call).2 = [] := by
  have hexchange : collection.connection.exchange respond (call.request collection.index)
      = (.error .notConnected, []) := by
    rw [Call.request_of_asks h, Connection.exchange_unbound hnone]
  exact perform_of_exchange hexchange

theorem perform_of_bound {request : Request} {via : Transport}
    (h : call.Asks collection.index request) (hvia : collection.connection.transport = some via) :
    (collection.perform respond call).1 = (respond via request).bind (·.resultFor operation) ∧
      Event.requests (collection.perform respond call).2 = [(via, request)] := by
  have hexchange := Connection.exchange_bound hvia respond request
  rw [← Call.request_of_asks h] at hexchange
  obtain ⟨hresult, hsent⟩ := perform_of_exchange hexchange
  exact ⟨hresult, hsent.trans (Event.requests_framed _ _ _)⟩

/-- A call comes to one thing, the one that applies. -/
theorem perform_iff_carries {result : Except Error (operation.Result α)}
    {sent : List (Transport × Request)} :
    collection.Carries respond call result sent ↔
      result = (collection.perform respond call).1 ∧
        sent = Event.requests (collection.perform respond call).2 := by
  constructor
  · rintro (h | ⟨h, hnone⟩ | ⟨h, hvia, hresp⟩ | ⟨h, hvia, hresp⟩)
    · exact ⟨(perform_of_unmade h).1.symm, (perform_of_unmade h).2.symm⟩
    · exact ⟨(perform_of_unbound h hnone).1.symm, (perform_of_unbound h hnone).2.symm⟩
    · rw [(perform_of_bound h hvia).1, (perform_of_bound h hvia).2, hresp]
      exact ⟨rfl, rfl⟩
    · rw [(perform_of_bound h hvia).1, (perform_of_bound h hvia).2, hresp]
      exact ⟨rfl, rfl⟩
  · rintro ⟨rfl, rfl⟩
    rcases call.asks_or_unmade collection.index with ⟨request, h⟩ | ⟨error, h⟩
    · cases hvia : collection.connection.transport with
      | none =>
        rw [(perform_of_unbound h hvia).1, (perform_of_unbound h hvia).2]
        exact .unbound h hvia
      | some via =>
        rw [(perform_of_bound h hvia).1, (perform_of_bound h hvia).2]
        cases hresp : respond via request with
        | error error => exact .lost h hvia hresp
        | ok outcome => exact .settled h hvia hresp
    · rw [(perform_of_unmade h).1, (perform_of_unmade h).2]
      exact .unmade h

variable {query : RawQuery}

theorem query_of_unbound (hnone : collection.connection.transport = none) :
    collection.query respond query = (.error .notConnected, []) := by
  rw [Collection.query, Connection.exchange_unbound hnone]
  rfl

theorem query_of_bound {request : Request} {via : Transport}
    (h : query.Asks collection.index request) (hvia : collection.connection.transport = some via) :
    collection.query respond query = ((respond via request).bind Outcome.orRefused,
      Event.framed (via.sending request) [(via, request)]
        (via.received request (respond via request))) := by
  rw [Collection.query, Connection.exchange_bound hvia, RawQuery.asks_iff.mp h]
  rfl

/-- A query comes to one thing, the one that applies. -/
theorem query_iff_passes {result : Except Error Outcome} {sent : List (Transport × Request)} :
    collection.Passes respond query result sent ↔
      result = (collection.query respond query).1 ∧
        sent = Event.requests (collection.query respond query).2 := by
  constructor
  · rintro (hnone | ⟨h, hvia, hresp⟩ | ⟨h, hvia, hresp, hlow, hhigh⟩ | ⟨h, hvia, hresp, hout⟩)
    · rw [query_of_unbound hnone]
      exact ⟨rfl, rfl⟩
    · rw [query_of_bound h hvia, hresp, Event.requests_framed]
      exact ⟨rfl, rfl⟩
    · rw [query_of_bound h hvia, hresp, Event.requests_framed]
      refine ⟨?_, rfl⟩
      show _ = Outcome.orRefused _
      rw [Outcome.orRefused, if_pos (Outcome.isSuccess_iff.mpr ⟨hlow, hhigh⟩)]
    · rw [query_of_bound h hvia, hresp, Event.requests_framed]
      refine ⟨?_, rfl⟩
      show _ = Outcome.orRefused _
      rw [Outcome.orRefused, Outcome.isSuccess_eq_false_iff.mpr hout]
      rfl
  · rintro ⟨rfl, rfl⟩
    cases hvia : collection.connection.transport with
    | none =>
      rw [query_of_unbound hvia]
      exact .unbound hvia
    | some via =>
      have h : query.Asks collection.index (query.request collection.index) :=
        RawQuery.asks_iff.mpr rfl
      rw [query_of_bound h hvia, Event.requests_framed]
      cases hresp : respond via (query.request collection.index) with
      | error error => exact .lost h hvia hresp
      | ok outcome =>
        show collection.Passes respond query outcome.orRefused _
        cases hsuccess : outcome.isSuccess with
        | true =>
          rw [Outcome.orRefused, if_pos hsuccess]
          obtain ⟨hlow, hhigh⟩ := Outcome.isSuccess_iff.mp hsuccess
          exact .passed h hvia hresp hlow hhigh
        | false =>
          rw [Outcome.orRefused, hsuccess]
          exact .refused h hvia hresp (Outcome.isSuccess_eq_false_iff.mp hsuccess)

end Collection

/-! ## Steps -/

namespace Step

variable {α : Type}

/-- The step makes a call or sends a query. -/
inductive IsRequest : Step α → Prop
  | call {operation : Operation} (call : Call α operation) (reply : Except Error Outcome) :
      IsRequest (.call call reply)
  | query (query : RawQuery) (reply : Except Error Outcome) : IsRequest (.query query reply)

/-- What a connection is bound to after a step: to what it was bound before, or else to what the
step binds it to, unless the step goes on with another connection. -/
def rebind (clients : Clients) (bound : Option Transport) : Step α → Option Transport
  | .newConnection => none
  | .bind name => bound <|> some (.named name)
  | .connect config => bound <|> (clients config).toOption
  | .openNew config => (clients config).toOption <|> bound
  | _ => bound

/-- The index in use after a step. -/
def reindex [Document α] (index : String) : Step α → String
  | .select name => name.getD (Document.index α)
  | _ => index

/-- The level in force after a step. -/
def relevel (level : Log.Level) : Step α → Log.Level
  | .setLevel next => next
  | _ => level

/-- What a request step of a session comes to, and what is sent on the way, when the connection and
the index are those of `collection`. -/
inductive Serves [Document α] (collection : Collection) :
    Step α → Answer α → List (Transport × Request) → Prop
  | call {operation : Operation} {call : Call α operation} {reply : Except Error Outcome}
      {result : Except Error (operation.Result α)} {sent : List (Transport × Request)} :
      collection.Carries (fun _ _ => reply) call result sent →
      Serves collection (.call call reply) (.result result) sent
  | query {query : RawQuery} {reply : Except Error Outcome} {result : Except Error Outcome}
      {sent : List (Transport × Request)} : collection.Passes (fun _ _ => reply) query result sent →
      Serves collection (.query query reply) (.outcome result) sent

end Step

/-- A request step sends one request at most. -/
theorem Step.Serves.length_le {α : Type} [Document α] {collection : Collection} {step : Step α}
    {answer : Answer α} {sent : List (Transport × Request)}
    (h : step.Serves collection answer sent) : sent.length ≤ 1 := by
  cases h with
  | call h => cases h <;> simp
  | query h => cases h <;> simp

/-- The transport that the connection is bound to after some steps of a session. -/
def bindingAfter {α : Type} (clients : Clients) (steps : List (Step α)) : Option Transport :=
  steps.foldl (Step.rebind clients) none

/-- The index in use after some steps of a session. -/
def indexAfter {α : Type} [Document α] (steps : List (Step α)) : String :=
  steps.foldl Step.reindex (Document.index α)

/-- The level in force after some steps of a session that begins with a level. -/
def levelAfter {α : Type} (level : Log.Level) (steps : List (Step α)) : Log.Level :=
  steps.foldl Step.relevel level

namespace Session

variable {α : Type} [Document α] {clients : Clients} {first : Log.Level}

/-- The session after some steps. -/
def after (session : Session) (clients : Clients) (steps : List (Step α)) : Session :=
  steps.foldl (fun session step => (session.step clients step).1) session

/-- A request leaves the session as it was. -/
theorem step_of_isRequest (session : Session) {step : Step α} (h : step.IsRequest) :
    (session.step clients step).1 = session := by
  cases h <;> rfl

/-- Only a request sends anything. -/
theorem requests_step_of_not_isRequest (session : Session) {step : Step α} (h : ¬ step.IsRequest) :
    Event.requests (session.step clients step).2.2 = [] := by
  cases step with
  | call call reply => exact absurd (.call call reply) h
  | query query reply => exact absurd (.query query reply) h
  | bind name =>
    simp only [Session.step]
    split <;> rfl
  | connect config =>
    simp only [Session.step]
    split <;> rfl
  | openNew config =>
    simp only [Session.step]
    split <;> rfl
  | _ => rfl

/-- A request comes to the one thing that applies. -/
theorem step_iff_serves (session : Session) {step : Step α} (h : step.IsRequest) {answer : Answer α}
    {sent : List (Transport × Request)} :
    step.Serves session.collection answer sent ↔
      answer = (session.step clients step).2.1 ∧
        sent = Event.requests (session.step clients step).2.2 := by
  cases h with
  | call call reply =>
    constructor
    · rintro ⟨hcarries⟩
      obtain ⟨rfl, rfl⟩ := Collection.perform_iff_carries.mp hcarries
      exact ⟨rfl, rfl⟩
    · rintro ⟨rfl, rfl⟩
      exact .call (Collection.perform_iff_carries.mpr ⟨rfl, rfl⟩)
  | query query reply =>
    constructor
    · rintro (_ | hpasses)
      obtain ⟨rfl, rfl⟩ := Collection.query_iff_passes.mp hpasses
      exact ⟨rfl, rfl⟩
    · rintro ⟨rfl, rfl⟩
      exact .query (Collection.query_iff_passes.mpr ⟨rfl, rfl⟩)

/-- What a step makes of a session, each part apart from the others. -/
theorem step_fst (session : Session) (step : Step α) :
    (session.step clients step).1
      = ⟨⟨⟨step.rebind clients session.collection.connection.transport⟩,
          step.reindex session.collection.index⟩, step.relevel session.level⟩ := by
  obtain ⟨⟨⟨transport⟩, index⟩, level⟩ := session
  cases step with
  | bind name => cases transport <;> rfl
  | connect config =>
    cases transport <;> cases hc : clients config <;>
      simp [Session.step, Connection.connect, Connection.isConnected, Connection.bind, Step.rebind,
        Step.reindex, Step.relevel, withConnection, Except.toOption, hc]
  | openNew config =>
    cases hc : clients config <;>
      simp [Session.step, Connection.connect, Connection.isConnected, Connection.bind, Step.rebind,
        Step.reindex, Step.relevel, withConnection, Except.toOption, hc]
  | _ => rfl

/-! ## Runs -/

theorem after_append (session : Session) (before steps : List (Step α)) :
    session.after clients (before ++ steps)
      = (session.after clients before).after clients steps := List.foldl_append

/-- What steps make of a session, each part apart from the others. -/
theorem after_eq (session : Session) (steps : List (Step α)) :
    session.after clients steps
      = ⟨⟨⟨steps.foldl (Step.rebind clients) session.collection.connection.transport⟩,
          steps.foldl Step.reindex session.collection.index⟩, levelAfter session.level steps⟩ := by
  induction steps generalizing session with
  | nil => rfl
  | cons step steps ih =>
    rw [after, List.foldl_cons, ← after, ih, step_fst]
    rfl

/-- The session after some steps. -/
theorem after_start (clients : Clients) (first : Log.Level) (steps : List (Step α)) :
    (start α first).after clients steps
      = ⟨⟨⟨bindingAfter clients steps⟩, indexAfter steps⟩, levelAfter first steps⟩ :=
  after_eq (start α first) steps

/-- The entry of a run for a step is what the step gives after the steps before it. -/
theorem getElem?_run (session : Session) (steps : List (Step α)) (i : Nat) :
    (session.run clients steps)[i]? = steps[i]?.map fun step =>
      let before := session.after clients (steps.take i)
      ((before.step clients step).2.1, before.level, (before.step clients step).2.2) := by
  induction steps generalizing session i with
  | nil => rfl
  | cons step steps ih =>
    cases i with
    | zero => rfl
    | succ i =>
      rw [run, List.getElem?_cons_succ, List.getElem?_cons_succ, ih]
      rfl

/-- What is sent in one step: one request or none. -/
theorem length_requests_step (session : Session) (step : Step α) :
    (Event.requests (session.step clients step).2.2).length ≤ 1 := by
  by_cases h : step.IsRequest
  · exact ((session.step_iff_serves h).mpr ⟨rfl, rfl⟩).length_le
  · rw [session.requests_step_of_not_isRequest h]
    simp

/-- **The requests of a session**, whatever its steps and however clients are made. A step sends one
request at most, and none if it is not there to make one. A request comes to the one thing that
applies to the connection as the steps before have bound it and to the index that they have put in
use, and it leaves the session as it was. -/
theorem run_serves (clients : Clients) (first : Log.Level) (steps : List (Step α)) (i : Nat)
    {step : Step α} (hi : steps[i]? = some step) :
    ∃ answer level events,
      ((start α first).run clients steps)[i]? = some (answer, level, events) ∧
      (Event.requests events).length ≤ 1 ∧
      (¬ step.IsRequest → Event.requests events = []) ∧
      (step.IsRequest →
        (∀ other sent,
          step.Serves ⟨⟨bindingAfter clients (steps.take i)⟩, indexAfter (steps.take i)⟩
              other sent ↔
            other = answer ∧ sent = Event.requests events) ∧
        (start α first).after clients (steps.take (i + 1))
          = (start α first).after clients (steps.take i)) := by
  refine ⟨_, _, _, by rw [getElem?_run, hi]; rfl, length_requests_step _ step, ?_, ?_⟩
  · exact requests_step_of_not_isRequest _
  · intro hreq
    refine ⟨?_, ?_⟩
    · intro other sent
      rw [after_start]
      exact step_iff_serves ⟨_, _⟩ hreq
    · rw [List.take_add_one, hi, after_append]
      exact step_of_isRequest _ hreq

/-- A search for a number that is no number, on a connection that a name was bound to and then given
up: the filter is at fault, not the connection, and nothing is sent. -/
theorem run_serves_unsendable :
    let wanted : Search := { filters := .ofList [("year", .literal (.float .nan))] }
    let clients := Transport.ofConfig fun _ => .ok ()
    let steps : List (Step Json) :=
      [.bind "node", .newConnection, .call (.search wanted) (.ok ⟨200, .null⟩)]
    steps[2]? = some (.call (.search wanted) (.ok ⟨200, .null⟩)) ∧
      ∃ level events, ((start Json .warn).run clients steps)[2]? = some (@Answer.result Json .search
          (.error (.unsupportedFilter ⟨"year", .notFinite (.float .nan)⟩)), level, events) ∧
        Event.requests events = [] := by
  intro wanted clients steps
  refine ⟨rfl, ?_⟩
  obtain ⟨answer, level, events, hrun, -, -, hserves⟩ := run_serves clients .warn steps 2 rfl
  have hfirst : wanted.filters.FirstUnsendable "year" .nan :=
    ⟨[], [], rfl, by simp, by decide⟩
  obtain ⟨rfl, hsent⟩ := ((hserves (.call _ _)).1 _ []).mp (.call (.unmade (.search hfirst)))
  exact ⟨level, events, hrun, hsent.symm⟩

end Session

end DocSearch
