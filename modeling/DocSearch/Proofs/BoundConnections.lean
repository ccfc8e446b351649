/-
A connection that is shared: attempts to bind it, and calls and queries of the collections that hold
it, in any order. The first attempt that has a transport to give binds the connection, the attempts
before it fail for their configurations and leave no trace, and those after it fail because they
come too late. Every request goes to the transport of that one attempt.

The history is said by the uses alone: the binding is the first offer among them (`firstOffer`), and
a use is judged by the first offer among those before it (`Use.Attempts`). Which configurations have
a client to give is left open (`Clients`).
-/
import DocSearch.Proofs.SessionFacts

namespace DocSearch

/-! ## Uses -/

/-- A use of a connection that is shared. Calls and queries are those of a collection that holds it,
told by its place among all that do; their documents may be of any type. -/
inductive Use : Type 1 where
  | bind (transport : Transport)
  | connect (config : ConnectionConfig)
  /-- Make a collection that holds the connection. -/
  | hold (index : String)
  | call {α : Type} [Document α] {operation : Operation} (holder : Nat) (call : Call α operation)
      (respond : Transport → Request → Except Error Outcome)
  | query (holder : Nat) (query : RawQuery)
      (respond : Transport → Request → Except Error Outcome)

namespace Use

/-- The transport that a use has to give. -/
def offer? (clients : Clients) : Use → Option Transport
  | bind transport => some transport
  | connect config => (clients config).toOption
  | _ => none

/-- The index of the collection that a use makes. -/
def holder? : Use → Option String
  | hold index => some index
  | _ => none

/-- The use is there to bind the connection. -/
inductive IsAttempt : Use → Prop
  | bind (transport : Transport) : IsAttempt (.bind transport)
  | connect (config : ConnectionConfig) : IsAttempt (.connect config)

/-- What comes of a use as an attempt to bind the connection, when `bound` is its transport. -/
inductive Attempts (clients : Clients) (bound : Option Transport) :
    Use → Option (Except Error Unit) → Prop
  | binds {use : Use} {transport : Transport} : bound = none →
      use.offer? clients = some transport → Attempts clients bound use (some (.ok ()))
  | misconfigured {config : ConnectionConfig} {cause : ConfigError} : bound = none →
      clients config = .error cause →
      Attempts clients bound (.connect config) (some (.error (.configuration cause)))
  | late {use : Use} {transport : Transport} : bound = some transport → use.IsAttempt →
      Attempts clients bound use (some (.error .alreadyConfigured))
  | none {use : Use} : ¬ use.IsAttempt → Attempts clients bound use none

/-- The request that a use asks for, when the collections that hold the connection are those of
`holders`. -/
inductive Asks (holders : List String) : Use → Request → Prop
  | call {α : Type} [Document α] {operation : Operation} {holder : Nat} {call : Call α operation}
      {respond : Transport → Request → Except Error Outcome} {index : String} {request : Request} :
      holders[holder]? = some index → call.Asks index request →
      Asks holders (.call holder call respond) request
  | query {holder : Nat} {query : RawQuery}
      {respond : Transport → Request → Except Error Outcome} {index : String} {request : Request} :
      holders[holder]? = some index → query.Asks index request →
      Asks holders (.query holder query respond) request

variable {clients : Clients}

theorem isAttempt_of_offer? {use : Use} {transport : Transport}
    (h : use.offer? clients = some transport) : use.IsAttempt := by
  cases use with
  | bind transport => exact .bind transport
  | connect config => exact .connect config
  | _ => cases h

/-- An attempt comes to one thing. -/
theorem Attempts.unique {bound : Option Transport} {use : Use}
    {result other : Option (Except Error Unit)} (h : use.Attempts clients bound result)
    (hother : use.Attempts clients bound other) : result = other := by
  cases h with
  | binds hbound hoffer =>
    cases hother with
    | binds => rfl
    | misconfigured _ hcause => simp [offer?, hcause, Except.toOption] at hoffer
    | late hlate => cases hbound.symm.trans hlate
    | none hnot => exact absurd (isAttempt_of_offer? hoffer) hnot
  | misconfigured hbound hcause =>
    cases hother with
    | binds _ hoffer => simp [offer?, hcause, Except.toOption] at hoffer
    | misconfigured _ hother => cases hcause.symm.trans hother; rfl
    | late hlate => cases hbound.symm.trans hlate
    | none hnot => exact absurd (.connect _) hnot
  | late hbound hattempt =>
    cases hother with
    | binds hnone => cases hnone.symm.trans hbound
    | misconfigured hnone => cases hnone.symm.trans hbound
    | late => rfl
    | none hnot => exact absurd hattempt hnot
  | none hnot =>
    cases hother with
    | binds _ hoffer => exact absurd (isAttempt_of_offer? hoffer) hnot
    | misconfigured => exact absurd (.connect _) hnot
    | late _ hattempt => exact absurd hattempt hnot
    | none => rfl

end Use

/-- The first transport that uses have to give. -/
def firstOffer (clients : Clients) (uses : List Use) : Option Transport :=
  uses.findSome? (Use.offer? clients)

/-- The indices of the collections that uses make. -/
def holdersOf (uses : List Use) : List String := uses.filterMap Use.holder?

theorem firstOffer_cons (use : Use) (uses : List Use) :
    firstOffer clients (use :: uses) = (use.offer? clients).or (firstOffer clients uses) := by
  rw [firstOffer, List.findSome?_cons, firstOffer]
  cases use.offer? clients <;> rfl

/-- What holds of the offers up to a use holds of all. -/
theorem firstOffer_of_take {uses : List Use} {i : Nat} {transport : Transport}
    (h : firstOffer clients (uses.take i) = some transport) :
    firstOffer clients uses = some transport := by
  rw [firstOffer] at h ⊢
  rw [← List.take_append_drop i uses, List.findSome?_append, h, Option.some_or]

/-- A connection, and the indices of the collections that hold it in the order in which they were
made. -/
structure SharedConnection where
  connection : Connection := {}
  holders : List String := []

namespace SharedConnection

/-- A collection that holds the connection. -/
def holder? (shared : SharedConnection) (i : Nat) : Option Collection :=
  shared.holders[i]?.map fun index => ⟨shared.connection, index⟩

/-- Makes use of the connection. If the use is an attempt to bind it, it has a result. -/
def use (shared : SharedConnection) (clients : Clients) :
    Use → SharedConnection × Option (Except Error Unit) × List Event
  | .bind transport =>
    match shared.connection.bind transport with
    | .ok connection => ({ shared with connection }, some (.ok ()), [])
    | .error error => (shared, some (.error error), [])
  | .connect config =>
    match shared.connection.connect clients config with
    | .ok connection =>
      ({ shared with connection }, some (.ok ()), [.wrote (Connection.connected config)])
    | .error error => (shared, some (.error error), [])
  | .hold index => ({ shared with holders := shared.holders ++ [index] }, none, [])
  | @Use.call _ _ _ holder call respond =>
    match shared.holder? holder with
    | some collection => (shared, none, (collection.perform respond call).2)
    | none => (shared, none, [])
  | .query holder query respond =>
    match shared.holder? holder with
    | some collection => (shared, none, (collection.query respond query).2)
    | none => (shared, none, [])

/-- The results of attempts to bind the connection and the events, use by use. -/
def run (shared : SharedConnection) (clients : Clients) :
    List Use → List (Option (Except Error Unit) × List Event)
  | [] => []
  | use :: uses => (shared.use clients use).2 :: run (shared.use clients use).1 clients uses

/-- The connection and its holders after some uses. -/
def after (shared : SharedConnection) (clients : Clients) (uses : List Use) : SharedConnection :=
  uses.foldl (fun shared use => (shared.use clients use).1) shared

/-! ## One use -/

theorem transport_use (shared : SharedConnection) (use : Use) :
    (shared.use clients use).1.connection.transport
      = shared.connection.transport.or (use.offer? clients) := by
  cases use with
  | bind transport =>
    cases h : shared.connection.transport <;>
      simp [SharedConnection.use, Connection.bind, Use.offer?, h]
  | connect config =>
    cases h : shared.connection.transport <;> cases hc : clients config <;>
      simp [SharedConnection.use, Connection.connect, Connection.isConnected, Connection.bind,
        Use.offer?, Except.toOption, h, hc]
  | hold index => simp [SharedConnection.use, Use.offer?]
  | call holder call respond =>
    simp only [SharedConnection.use, Use.offer?, Option.or_none]
    split <;> rfl
  | query holder query respond =>
    simp only [SharedConnection.use, Use.offer?, Option.or_none]
    split <;> rfl

theorem holders_use (shared : SharedConnection) (use : Use) :
    (shared.use clients use).1.holders = shared.holders ++ use.holder?.toList := by
  cases use with
  | hold index => rfl
  | _ =>
    simp only [SharedConnection.use, Use.holder?, Option.toList_none, List.append_nil]
    split <;> rfl

theorem attempts_use (shared : SharedConnection) (use : Use) :
    use.Attempts clients shared.connection.transport (shared.use clients use).2.1 := by
  cases use with
  | bind transport =>
    cases hbound : shared.connection.transport with
    | none =>
      simp only [SharedConnection.use, Connection.bind, hbound]
      exact .binds rfl rfl
    | some first =>
      simp only [SharedConnection.use, Connection.bind, hbound]
      exact .late rfl (.bind transport)
  | connect config =>
    cases hbound : shared.connection.transport with
    | none =>
      cases hconfig : clients config with
      | ok transport =>
        simp only [SharedConnection.use, Connection.connect, Connection.isConnected,
          Connection.bind, hbound, hconfig]
        exact .binds rfl (congrArg Except.toOption hconfig)
      | error cause =>
        simp only [SharedConnection.use, Connection.connect, Connection.isConnected, hbound,
          hconfig]
        exact .misconfigured rfl hconfig
    | some first =>
      -- The binding is looked at before the configuration.
      have hconnected : shared.connection.isConnected = true := by
        rw [Connection.isConnected, hbound, Option.isSome_some]
      simp only [SharedConnection.use, Connection.connect_of_isConnected hconnected]
      exact .late rfl (.connect config)
  | hold index => exact .none (by rintro ⟨⟩)
  | call holder call respond =>
    simp only [SharedConnection.use]
    split <;> exact .none (by rintro ⟨⟩)
  | query holder query respond =>
    simp only [SharedConnection.use]
    split <;> exact .none (by rintro ⟨⟩)

/-- An attempt to bind the connection comes to the one thing that applies. -/
theorem attempts_iff {shared : SharedConnection} {use : Use}
    {result : Option (Except Error Unit)} :
    use.Attempts clients shared.connection.transport result
      ↔ result = (shared.use clients use).2.1 := by
  constructor
  · intro h
    exact h.unique (shared.attempts_use use)
  · rintro rfl
    exact shared.attempts_use use

/-- Only the first offer is taken. -/
theorem succeeds_iff {shared : SharedConnection} {use : Use} :
    (shared.use clients use).2.1 = some (.ok ())
      ↔ shared.connection.transport = none ∧ (use.offer? clients).isSome := by
  rw [eq_comm, ← attempts_iff, Option.isSome_iff_exists]
  constructor
  · rintro ⟨hbound, hoffer⟩
    exact ⟨hbound, _, hoffer⟩
  · rintro ⟨hbound, transport, hoffer⟩
    exact .binds hbound hoffer

theorem requests_use_of_asks {shared : SharedConnection} {use : Use} {request : Request}
    (h : use.Asks shared.holders request) :
    Event.requests (shared.use clients use).2.2
      = shared.connection.transport.toList.map fun via => (via, request) := by
  cases h with
  | call hholder hasks =>
    simp only [SharedConnection.use, holder?, hholder, Option.map_some]
    cases hvia : shared.connection.transport with
    | none => exact (Collection.perform_of_unbound hasks hvia).2
    | some via => exact (Collection.perform_of_bound hasks hvia).2
  | query hholder hasks =>
    simp only [SharedConnection.use, holder?, hholder, Option.map_some]
    cases hvia : shared.connection.transport with
    | none => rw [Collection.query_of_unbound hvia]; rfl
    | some via => rw [Collection.query_of_bound hasks hvia, Event.requests_framed]; rfl

theorem requests_use_of_not_asks {shared : SharedConnection} {use : Use}
    (h : ∀ request, ¬ use.Asks shared.holders request) :
    Event.requests (shared.use clients use).2.2 = [] := by
  cases use with
  | bind transport =>
    simp only [SharedConnection.use]
    split <;> rfl
  | connect config =>
    simp only [SharedConnection.use]
    split <;> rfl
  | hold index => rfl
  | call holder call respond =>
    simp only [SharedConnection.use, holder?]
    cases hholder : shared.holders[holder]? with
    | none => rfl
    | some index =>
      rcases call.asks_or_unmade index with ⟨request, hasks⟩ | ⟨error, hunmade⟩
      · exact absurd (.call hholder hasks) (h request)
      · exact (Collection.perform_of_unmade hunmade).2
  | query holder query respond =>
    simp only [SharedConnection.use, holder?]
    cases hholder : shared.holders[holder]? with
    | none => rfl
    | some index => exact absurd (.query hholder (RawQuery.asks_iff.mpr rfl)) (h _)

/-- What is sent goes to the transport of the connection. -/
theorem transport_of_mem_requests {shared : SharedConnection} {use : Use}
    {sent : Transport × Request} (h : sent ∈ Event.requests (shared.use clients use).2.2) :
    shared.connection.transport = some sent.1 := by
  by_cases hasks : ∃ request, use.Asks shared.holders request
  · obtain ⟨request, hasks⟩ := hasks
    rw [requests_use_of_asks hasks] at h
    obtain ⟨via, hvia, rfl⟩ := List.mem_map.mp h
    exact Option.mem_toList.mp hvia
  · rw [requests_use_of_not_asks (not_exists.mp hasks)] at h
    cases h

/-! ## Runs -/

theorem transport_after (shared : SharedConnection) (uses : List Use) :
    (shared.after clients uses).connection.transport
      = shared.connection.transport.or (firstOffer clients uses) := by
  induction uses generalizing shared with
  | nil => exact (Option.or_none).symm
  | cons use uses ih =>
    rw [after, List.foldl_cons, ← after, ih, transport_use, firstOffer_cons, Option.or_assoc]

theorem holders_after (shared : SharedConnection) (uses : List Use) :
    (shared.after clients uses).holders = shared.holders ++ holdersOf uses := by
  induction uses generalizing shared with
  | nil => exact (List.append_nil _).symm
  | cons use uses ih =>
    have hholders : holdersOf (use :: uses) = use.holder?.toList ++ holdersOf uses := by
      rw [holdersOf, List.filterMap_cons, holdersOf]
      cases use.holder? <;> rfl
    rw [after, List.foldl_cons, ← after, ih, holders_use, hholders, List.append_assoc]

/-- The entry of a run for a use is what the use gives after the uses before it. -/
theorem getElem?_run (shared : SharedConnection) (uses : List Use) (i : Nat) :
    (shared.run clients uses)[i]?
      = uses[i]?.map fun use => ((shared.after clients (uses.take i)).use clients use).2 := by
  induction uses generalizing shared i with
  | nil => rfl
  | cons use uses ih =>
    cases i with
    | zero => rfl
    | succ i =>
      rw [run, List.getElem?_cons_succ, List.getElem?_cons_succ, ih]
      rfl

/-- A connection that is bound stays so, and of one that is not yet bound one attempt succeeds if
any has a transport to give. -/
theorem countP_run (shared : SharedConnection) (uses : List Use) :
    (shared.run clients uses).countP (fun seen => seen.1 = some (.ok ()))
      = if shared.connection.transport = none ∧ (firstOffer clients uses).isSome then 1 else 0 := by
  induction uses generalizing shared with
  | nil => simp [run, firstOffer]
  | cons use uses ih =>
    rw [run, List.countP_cons, ih, transport_use, firstOffer_cons]
    simp only [decide_eq_true_eq, succeeds_iff]
    cases hbound : shared.connection.transport with
    | none =>
      -- The use succeeds if it has a transport to give, and then no later one does.
      cases hoffer : use.offer? clients <;> simp
    | some first => simp

/-- **A shared connection is bound once**, however it is used and however clients are made. One
attempt to bind it succeeds if any has a transport to give, and that is the first one that has; the
others fail, for their configuration before it and for being late after it. At any time the
connection shows the first transport that was offered so far, and none before. A request that is
asked for is sent there, by whichever holder, or not at all as long as nothing was offered. -/
theorem bound_once (clients : Clients) (uses : List Use) :
    (run {} clients uses).countP (fun seen => seen.1 = some (.ok ()))
        = (if (firstOffer clients uses).isSome then 1 else 0) ∧
      ∀ i,
        let bound := firstOffer clients (uses.take i)
        let connection := (after {} clients (uses.take i)).connection
        connection.isConnected = bound.isSome ∧
        connection.transport? = bound.elim (.error .notConnected) .ok ∧
        ∀ use, uses[i]? = some use → ∃ result events,
          (run {} clients uses)[i]? = some (result, events) ∧
          (∀ other, use.Attempts clients bound other ↔ other = result) ∧
          (∀ request, use.Asks (holdersOf (uses.take i)) request →
            Event.requests events = bound.toList.map fun via => (via, request)) ∧
          ((∀ request, ¬ use.Asks (holdersOf (uses.take i)) request) →
            Event.requests events = []) ∧
          ∀ sent ∈ Event.requests events, firstOffer clients uses = some sent.1 := by
  refine ⟨by simpa using countP_run {} uses, fun i => ?_⟩
  have htransport : (after {} clients (uses.take i)).connection.transport
      = firstOffer clients (uses.take i) :=
    (transport_after {} (uses.take i)).trans Option.none_or
  have hholders : (after {} clients (uses.take i)).holders = holdersOf (uses.take i) :=
    (holders_after {} (uses.take i)).trans (List.nil_append _)
  refine ⟨?_, ?_, ?_⟩
  · rw [Connection.isConnected, htransport]
  · rw [Connection.transport?, htransport]
    cases firstOffer clients (uses.take i) <;> rfl
  · intro use hi
    refine ⟨_, _, by rw [getElem?_run, hi]; rfl, ?_, ?_, ?_, ?_⟩
    · intro other
      rw [← htransport]
      exact attempts_iff
    · intro request hasks
      rw [← htransport]
      rw [← hholders] at hasks
      exact requests_use_of_asks hasks
    · intro hnone
      rw [← hholders] at hnone
      exact requests_use_of_not_asks hnone
    · intro sent hsent
      have hvia := transport_of_mem_requests hsent
      rw [htransport] at hvia
      exact firstOffer_of_take hvia

/-- A collection that was made before the connection was bound, an attempt that fails for its
configuration before the first name is given, and the same attempt and a second name after it. -/
theorem bound_once_two_names :
    let clients := Transport.ofConfig fun _ => .ok ()
    let absent : Outcome := ⟨404, .object [("found", .bool false)]⟩
    let uses : List Use :=
      [.hold "films", .connect { url := "" }, .bind (.named "a"), .connect { url := "" },
        .bind (.named "b"), .call 0 (.get "1" : Call Json .get) fun _ _ => .ok absent]
    (run {} clients uses).countP (fun seen => seen.1 = some (.ok ())) = 1 ∧
      (∃ events, (run {} clients uses)[1]? = some (some (.error (.configuration .noUrl)), events)) ∧
      (∃ events, (run {} clients uses)[3]? = some (some (.error .alreadyConfigured), events)) ∧
      ∃ result events, (run {} clients uses)[5]? = some (result, events) ∧
        Event.requests events = [(.named "a", ⟨.get, "/films/_doc/1", none⟩)] := by
  intro clients absent uses
  obtain ⟨hcount, huses⟩ := bound_once clients uses
  refine ⟨hcount, ?_, ?_, ?_⟩
  · obtain ⟨result, events, hrun, hattempts, -⟩ := (huses 1).2.2 _ rfl
    have hconfig : clients { url := "" } = .error .noUrl := rfl
    obtain rfl := (hattempts _).mp (.misconfigured rfl hconfig)
    exact ⟨events, hrun⟩
  · obtain ⟨result, events, hrun, hattempts, -⟩ := (huses 3).2.2 _ rfl
    have hbound : firstOffer clients (uses.take 3) = some (.named "a") := by decide +kernel
    obtain rfl := (hattempts _).mp (.late hbound (.connect _))
    exact ⟨events, hrun⟩
  · obtain ⟨result, events, hrun, -, hrequests, -⟩ := (huses 5).2.2 _ rfl
    have hbound : firstOffer clients (uses.take 5) = some (.named "a") := by decide +kernel
    have hpath : "/" ++ Text.Percent.segment "films" ++ "/_doc/" ++ Text.Percent.segment "1"
        = "/films/_doc/1" := by decide +kernel
    refine ⟨result, events, hrun, ?_⟩
    rw [hrequests _ (.call rfl .get), hbound, hpath]
    rfl

end SharedConnection

end DocSearch
