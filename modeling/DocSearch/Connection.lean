/-
Connections: where requests go. A connection has no transport at first; it is
bound to one, once and for all, and only then can requests be sent.
-/
import DocSearch.Error
import DocSearch.Log.Source
import DocSearch.Request.Basic
import DocSearch.Response.Outcome
import DocSearch.Text.Quoted

namespace DocSearch

/-- What carries requests to an engine and brings its answers back. -/
inductive Transport where
  | named (name : String)
  /-- A client that reaches the engine of a configuration. -/
  | client (config : ConnectionConfig)
  deriving DecidableEq

/-- How clients are made: the transport that a configuration gives, or why it gives none. -/
def Clients : Type := ConnectionConfig → Except ConfigError Transport

namespace Transport

/-- A client for each configuration that can be used and whose address names an engine, unless
`build` has a reason why there can be none. -/
def ofConfig (build : ConnectionConfig → Except String Unit) : Clients := fun config => do
  config.checkReachable
  (build config).mapError .reported
  .ok (.client config)

/-- How a transport shows itself. -/
def describe : Transport → String
  | named name => name
  | client config => "OpenSearchTransport \x7b url: " ++ Text.quoted config.url ++ " \x7d"

/-- What is noted in front of a request, by a client only. -/
def sending (request : Request) : Transport → List Log.Entry
  | named _ => []
  | client _ => [Log.Source.transport.entry .debug "sending request"
      [("method", request.method.name), ("path", request.path)]]

/-- What is noted of the answer to a request, if one comes, by a client only. -/
def received (request : Request) : Transport → Except Error Outcome → List Log.Entry
  | client _, .ok outcome => [Log.Source.transport.entry .debug "received response"
      [("status", Text.ofNat outcome.status.toNat), ("path", request.path)]]
  | _, _ => []

end Transport

/-- What can be seen of a connection from outside. -/
inductive Event where
  | wrote (entry : Log.Entry)
  | sent (via : Transport) (request : Request)
  deriving DecidableEq

namespace Event

/-- The entries among some events. -/
def entries (events : List Event) : List Log.Entry :=
  events.filterMap fun
    | wrote entry => some entry
    | sent _ _ => none

/-- The requests among some events, with their transports. -/
def requests (events : List Event) : List (Transport × Request) :=
  events.filterMap fun
    | wrote _ => none
    | sent via request => some (via, request)

@[simp] theorem entries_append (xs ys : List Event) :
    entries (xs ++ ys) = entries xs ++ entries ys := by simp [entries]

@[simp] theorem requests_append (xs ys : List Event) :
    requests (xs ++ ys) = requests xs ++ requests ys := by simp [requests]

@[simp] theorem entries_map_wrote (notes : List Log.Entry) : entries (notes.map wrote) = notes := by
  induction notes with
  | nil => rfl
  | cons note notes ih => simp_all [entries]

@[simp] theorem requests_map_wrote (notes : List Log.Entry) : requests (notes.map wrote) = [] := by
  induction notes with
  | nil => rfl
  | cons note notes ih => simp_all [requests]

/-- The events in which `before` is written, `sent` is sent and `after` is written. -/
def framed (before : List Log.Entry) (sent : List (Transport × Request))
    (after : List Log.Entry) : List Event :=
  before.map wrote ++ sent.map (fun request => .sent request.1 request.2) ++ after.map wrote

@[simp] theorem entries_framed (before : List Log.Entry) (sent : List (Transport × Request))
    (after : List Log.Entry) : entries (framed before sent after) = before ++ after := by
  have hsent : entries (sent.map fun request => .sent request.1 request.2) = [] := by
    simp [entries]
  rw [framed, entries_append, entries_append, hsent, entries_map_wrote, entries_map_wrote,
    List.append_nil]

@[simp] theorem requests_framed (before : List Log.Entry) (sent : List (Transport × Request))
    (after : List Log.Entry) : requests (framed before sent after) = sent := by
  have hsent : requests (sent.map fun request => .sent request.1 request.2) = sent := by
    induction sent with
    | nil => rfl
    | cons request sent ih => simp_all [requests]
  rw [framed, requests_append, requests_append, hsent, requests_map_wrote, requests_map_wrote,
    List.nil_append, List.append_nil]

/-- What is written around events that are framed belongs to the frame. -/
theorem map_wrote_append_framed (announced before : List Log.Entry)
    (sent : List (Transport × Request)) (after reported : List Log.Entry) :
    announced.map wrote ++ framed before sent after ++ reported.map wrote
      = framed (announced ++ before) sent (after ++ reported) := by
  simp [framed]

end Event

/-- Where requests go. -/
structure Connection where
  transport : Option Transport := none
  deriving DecidableEq

namespace Connection

/-- Whether requests can be sent. -/
def isConnected (connection : Connection) : Bool := connection.transport.isSome

/-- What carries the requests. -/
def transport? (connection : Connection) : Except Error Transport :=
  match connection.transport with
  | some transport => .ok transport
  | none => .error .notConnected

/-- Binds a connection to a transport, if it has none. -/
def bind (connection : Connection) (transport : Transport) : Except Error Connection :=
  match connection.transport with
  | some _ => .error .alreadyConfigured
  | none => .ok ⟨some transport⟩

/-- Binds a connection to the client that a configuration gives, if it has no transport. -/
def connect (connection : Connection) (clients : Clients) (config : ConnectionConfig) :
    Except Error Connection :=
  if connection.isConnected then .error .alreadyConfigured
  else match clients config with
    | .ok transport => connection.bind transport
    | .error cause => .error (.configuration cause)

theorem connect_eq_ok_iff {connection bound : Connection} {clients : Clients}
    {config : ConnectionConfig} :
    connection.connect clients config = .ok bound ↔ connection.transport = none ∧
      ∃ transport, clients config = .ok transport ∧ bound = ⟨some transport⟩ := by
  cases h : connection.transport <;> cases hc : clients config <;>
    simp [connect, isConnected, bind, h, hc, eq_comm]

theorem connect_of_isConnected {connection : Connection} (h : connection.isConnected = true)
    (clients : Clients) (config : ConnectionConfig) :
    connection.connect clients config = .error .alreadyConfigured := by
  simp [connect, h]

/-- How it is noted that a connection was made. -/
def connected (config : ConnectionConfig) : Log.Entry :=
  Log.Source.connection.entry .info ("Connected to " ++ config.url) []

/-- Sends the request that was made, if one was, and waits for the answer. -/
def exchange (connection : Connection) (respond : Transport → Request → Except Error Outcome)
    (request : Except Error Request) : Except Error Outcome × List Event :=
  match request with
  | .error error => (.error error, [])
  | .ok request =>
    match connection.transport with
    | none => (.error .notConnected, [])
    | some transport =>
      let answer := respond transport request
      (answer, Event.framed (transport.sending request) [(transport, request)]
        (transport.received request answer))

theorem exchange_error (connection : Connection)
    (respond : Transport → Request → Except Error Outcome) (error : Error) :
    connection.exchange respond (.error error) = (.error error, []) := rfl

theorem exchange_unbound {connection : Connection} (h : connection.transport = none)
    (respond : Transport → Request → Except Error Outcome) (request : Request) :
    connection.exchange respond (.ok request) = (.error .notConnected, []) := by
  simp [exchange, h]

theorem exchange_bound {connection : Connection} {transport : Transport}
    (h : connection.transport = some transport)
    (respond : Transport → Request → Except Error Outcome) (request : Request) :
    connection.exchange respond (.ok request)
      = (respond transport request, Event.framed (transport.sending request)
          [(transport, request)] (transport.received request (respond transport request))) := by
  simp [exchange, h]

/-- An answer comes to a request that was made and sent. -/
theorem exchange_eq_ok_iff {connection : Connection}
    {respond : Transport → Request → Except Error Outcome} {request : Except Error Request}
    {outcome : Outcome} :
    (connection.exchange respond request).1 = .ok outcome ↔
      ∃ made via, request = .ok made ∧ connection.transport = some via ∧
        respond via made = .ok outcome := by
  cases request with
  | error error => simp [exchange]
  | ok made => cases h : connection.transport <;> simp [exchange, h]

/-- How a truth value shows itself. -/
def flagText (flag : Bool) : String := if flag then "true" else "false"

/-- How a connection shows itself. -/
def describe (connection : Connection) : String :=
  "Connection \x7b connected: " ++ flagText connection.isConnected ++ " \x7d"

end Connection

end DocSearch
