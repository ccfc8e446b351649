/-
Sessions: a connection and a collection in use, step by step. A step has an answer
and events; which of the entries among them are written is decided at the end,
by the level in force.
-/
import DocSearch.Collection

namespace DocSearch

/-- The state of a session. -/
structure Session where
  /-- The collection in use, with its connection. -/
  collection : Collection
  /-- The level in force. -/
  level : Log.Level := .warn
  deriving DecidableEq

/-- One step of a session on documents of type `α`; a request comes with the reply that the
transport gives to it. -/
inductive Step (α : Type) where
  /-- Go on with a new connection and the same index. -/
  | newConnection
  /-- Bind the connection to the transport of a name. -/
  | bind (name : String)
  /-- Bind the connection to the client of a configuration. -/
  | connect (config : ConnectionConfig)
  /-- Go on with a new connection to the client of a configuration and the same index, if there is
  such a client. -/
  | openNew (config : ConnectionConfig)
  /-- Go on with an index, or with the one that such documents are kept in. -/
  | select (index : Option String)
  | look
  | setLevel (level : Log.Level)
  | call {operation : Operation} (call : Call α operation) (reply : Except Error Outcome)
  | query (query : RawQuery) (reply : Except Error Outcome)

/-- The answer to a step. -/
inductive Answer (α : Type) where
  | done
  /-- Whether a connection was bound. -/
  | bound (result : Except Error Unit)
  | index (name : String)
  | state (collection : Collection)
  | level (level : Log.Level)
  | result {operation : Operation} (result : Except Error (operation.Result α))
  | outcome (result : Except Error Outcome)

namespace Session

variable {α : Type} [Document α]

/-- A session that begins, without transport and with a level in force. -/
def start (α : Type) [Document α] (level : Log.Level) : Session := ⟨.ofDocument α {}, level⟩

/-- The session with another connection. -/
def withConnection (session : Session) (connection : Connection) : Session :=
  { session with collection := { session.collection with connection } }

/-- Takes a step. -/
def step (session : Session) (clients : Clients) : Step α → Session × Answer α × List Event
  | .newConnection => (session.withConnection {}, .done, [])
  | .bind name =>
    match session.collection.connection.bind (.named name) with
    | .ok connection => (session.withConnection connection, .bound (.ok ()), [])
    | .error error => (session, .bound (.error error), [])
  | .connect config =>
    match session.collection.connection.connect clients config with
    | .ok connection =>
      (session.withConnection connection, .bound (.ok ()), [.wrote (Connection.connected config)])
    | .error error => (session, .bound (.error error), [])
  | .openNew config =>
    match ({} : Connection).connect clients config with
    | .ok connection =>
      (session.withConnection connection, .bound (.ok ()), [.wrote (Connection.connected config)])
    | .error error => (session, .bound (.error error), [])
  | .select index =>
    let name := index.getD (Document.index α)
    ({ session with collection := { session.collection with index := name } }, .index name, [])
  | .look => (session, .state session.collection, [])
  | .setLevel level => ({ session with level }, .level level, [])
  | .call call reply =>
    let (result, events) := session.collection.perform (fun _ _ => reply) call
    (session, .result result, events)
  | .query query reply =>
    let (outcome, events) := session.collection.query (fun _ _ => reply) query
    (session, .outcome outcome, events)

/-- The answers to steps and what was seen of each, the level in force included. -/
def run (session : Session) (clients : Clients) :
    List (Step α) → List (Answer α × Log.Level × List Event)
  | [] => []
  | step :: steps =>
    let (next, answer, events) := session.step clients step
    (answer, session.level, events) :: run next clients steps

@[simp] theorem run_nil (session : Session) (clients : Clients) :
    session.run clients ([] : List (Step α)) = [] := rfl

@[simp] theorem length_run (session : Session) (clients : Clients) (steps : List (Step α)) :
    (session.run clients steps).length = steps.length := by
  induction steps generalizing session with
  | nil => rfl
  | cons step steps ih => simp [run, ih]

end Session

end DocSearch
