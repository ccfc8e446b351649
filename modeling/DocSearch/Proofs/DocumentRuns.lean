/-
Documents that are stored, read and removed through collections. However many indexes are in use,
and whatever the order of the calls, what they come to is what a plain store of documents would give:
the engine behind the connection and the paths, bodies and answers in between do not show.

The store and the engine are related by `Holds`: the engine keeps, under every index and id, a JSON
value that is read as the document in the store. A call keeps the two related, and its result is the
one that the store gives (`perform_fulfils`); the runs follow by induction on the calls. What is in
the store at a time is what was created last (`foldl_after_eq_some_iff`).
-/
import DocSearch.Proofs.MemoryEngine
import DocSearch.Proofs.SessionFacts

namespace DocSearch

open Text.Percent (segment)

/-- A call that stores, reads or removes documents. -/
inductive Task (α : Type) where
  | create (id : String) (document : α)
  | find (id : String)
  | destroy (id : String)
  | truncate

namespace Task

variable {α : Type}

/-- The operation of a task. -/
def operation : Task α → Operation
  | create _ _ => .create
  | find _ => .get
  | destroy _ => .delete
  | truncate => .truncate

/-- The call that is made for a task. -/
def call : (task : Task α) → Call α task.operation
  | create id document => .createWithId id document
  | find id => .get id
  | destroy id => .delete id
  | truncate => .truncate

end Task

/-! ## What a store gives -/

namespace Store

variable {α : Type}

/-- The store after a task on an index. -/
def after (docs : Store α) (index : String) : Task α → Store α
  | .create id document => docs.put index id document
  | .find _ => docs
  | .destroy id => docs.remove index id
  | .truncate => docs.clear index

/-- The answer is the one that the store gives to a task on an index. Only the version of a record
is left open. -/
inductive Fulfils (docs : Store α) (index : String) : Task α → Answer α → Prop
  | created {id : String} {document : α} :
      Fulfils docs index (.create id document) (@Answer.result α .create (.ok ⟨index, id, 1⟩))
  | found {id : String} {document : α} {version : Option Int64} : docs index id = some document →
      Fulfils docs index (.find id)
        (@Answer.result α .get (.ok (some ⟨index, id, version, none, document⟩)))
  | absent {id : String} : docs index id = none →
      Fulfils docs index (.find id) (@Answer.result α .get (.ok none))
  | destroyed {id : String} : (docs index id).isSome →
      Fulfils docs index (.destroy id) (@Answer.result α .delete (.ok ⟨index, id, .deleted⟩))
  | spared {id : String} : docs index id = none →
      Fulfils docs index (.destroy id) (@Answer.result α .delete (.ok ⟨index, id, .notFound⟩))
  | emptied {count : Nat} : docs.Counts index count →
      Fulfils docs index .truncate (@Answer.result α .truncate (.ok ⟨.ofNat count⟩))

/-- The answers are those that the store gives to the tasks, one after the other. -/
inductive FulfilsAll : Store α → List (String × Task α) → List (Answer α) → Prop
  | nil {docs : Store α} : FulfilsAll docs [] []
  | cons {docs : Store α} {index : String} {task : Task α} {tasks : List (String × Task α)}
      {answer : Answer α} {answers : List (Answer α)} : docs.Fulfils index task answer →
      FulfilsAll (docs.after index task) tasks answers →
      FulfilsAll docs ((index, task) :: tasks) (answer :: answers)

/-- The task decides what is under an index and an id from then on. -/
def Decides (index id : String) : String × Task α → Prop
  | (i, .create d _) => i = index ∧ d = id
  | (_, .find _) => False
  | (i, .destroy d) => i = index ∧ d = id
  | (i, .truncate) => i = index

theorem after_of_not_decides (docs : Store α) {index id : String} {entry : String × Task α}
    (h : ¬ Decides index id entry) : docs.after entry.1 entry.2 index id = docs index id := by
  obtain ⟨i, task⟩ := entry
  cases task with
  | create d document => exact if_neg fun hsame => h ⟨hsame.1.symm, hsame.2.symm⟩
  | find d => rfl
  | destroy d => exact if_neg fun hsame => h ⟨hsame.1.symm, hsame.2.symm⟩
  | truncate => exact if_neg fun hsame => h hsame.symm

theorem after_of_decides (docs : Store α) {index id : String} {entry : String × Task α}
    (h : Decides index id entry) {document : α} :
    docs.after entry.1 entry.2 index id = some document ↔ entry = (index, .create id document) := by
  obtain ⟨i, task⟩ := entry
  cases task with
  | create d other =>
    obtain ⟨rfl, rfl⟩ := h
    simp [after, put]
  | find d => cases h
  | destroy d =>
    obtain ⟨rfl, rfl⟩ := h
    simp [after, remove]
  | truncate =>
    obtain rfl := h
    simp [after, clear]

theorem concat_eq_append_cons_iff {β : Type} {xs before since : List β} {last b : β} :
    xs ++ [last] = before ++ b :: since ↔ (since = [] ∧ xs = before ∧ last = b) ∨
      ∃ others, since = others ++ [last] ∧ xs = before ++ b :: others := by
  constructor
  · intro h
    rcases List.eq_nil_or_concat since with rfl | ⟨others, other, rfl⟩
    · obtain ⟨hxs, hlast⟩ := List.append_inj' h rfl
      exact .inl ⟨rfl, hxs, List.singleton_inj.mp hlast⟩
    · have hsplit : xs ++ [last] = (before ++ b :: others) ++ [other] := by simp [h]
      obtain ⟨hxs, hlast⟩ := List.append_inj' hsplit rfl
      exact .inr ⟨others, by rw [List.singleton_inj.mp hlast, List.concat_eq_append], hxs⟩
  · rintro (⟨rfl, rfl, rfl⟩ | ⟨others, rfl, rfl⟩)
    · rfl
    · simp

/-- A document is in the store when it was created there and nothing has been created, destroyed or
truncated there since. -/
theorem foldl_after_eq_some_iff (tasks : List (String × Task α)) {index id : String}
    {document : α} :
    tasks.foldl (fun docs entry => docs.after entry.1 entry.2) empty index id = some document ↔
      ∃ before since, tasks = before ++ (index, .create id document) :: since ∧
        ∀ entry ∈ since, ¬ Decides index id entry := by
  induction tasks using List.reverseRecOn with
  | nil => simp [empty]
  | append_singleton tasks entry ih =>
    simp only [List.foldl_append, List.foldl_cons, List.foldl_nil, concat_eq_append_cons_iff]
    by_cases h : Decides index id entry
    · rw [after_of_decides _ h]
      constructor
      · rintro rfl
        exact ⟨tasks, [], .inl ⟨rfl, rfl, rfl⟩, by simp⟩
      · rintro ⟨before, since, ⟨-, -, hentry⟩ | ⟨others, rfl, -⟩, hsince⟩
        · exact hentry
        · exact absurd h (hsince entry (by simp))
    · rw [after_of_not_decides _ h, ih]
      constructor
      · rintro ⟨before, since, rfl, hsince⟩
        refine ⟨before, since ++ [entry], .inr ⟨since, rfl, rfl⟩, ?_⟩
        intro other hother
        rcases List.mem_append.mp hother with hother | hother
        · exact hsince other hother
        · exact List.mem_singleton.mp hother ▸ h
      · rintro ⟨before, since, ⟨-, -, rfl⟩ | ⟨others, rfl, rfl⟩, hsince⟩
        · exact absurd ⟨rfl, rfl⟩ h
        · exact ⟨before, others, rfl, fun other hother => hsince other (by simp [hother])⟩

end Store

/-! ## What an engine gives -/

section

variable {α : Type} [Document α]

/-- The JSON value is not null and is read as the document. -/
def Json.StandsFor (json : Json) (document : α) : Prop :=
  json ≠ .null ∧ Document.ofJson json = .ok document

/-- The document has a JSON form that stands for it. -/
def Document.Keeps (document : α) : Prop :=
  ∃ json, Document.toJson document = .ok json ∧ json.StandsFor document

namespace Engine

/-- The engine keeps the documents of a store and no others. -/
def Holds (engine : Engine) (state : engine.State) (docs : Store α) : Prop :=
  ∀ index id, Option.Rel Json.StandsFor (engine.stored state index id) (docs index id)

/-- What a task on an index comes to when the connection leads to the engine: what the engine comes
to by the requests that are sent, and the answer. -/
def perform (engine : Engine) (connection : Connection) (state : engine.State) (index : String)
    (task : Task α) : engine.State × Answer α :=
  let performed := Collection.perform ⟨connection, index⟩
    (fun _ request => .ok (engine.serve state request).2) task.call
  ((Event.requests performed.2).foldl (fun state sent => (engine.serve state sent.2).1) state,
    .result performed.1)

/-- The answers to tasks on some indexes, one after the other. -/
def run (engine : Engine) (connection : Connection) (state : engine.State) :
    List (String × Task α) → List (Answer α)
  | [] => []
  | (index, task) :: tasks =>
    let (next, answer) := engine.perform connection state index task
    answer :: run engine connection next tasks

variable {engine : Engine} {connection : Connection} {via : Transport} {state : engine.State}
  {docs : Store α} {index id : String}

/-- A task sends one request to the engine, and its answer is settled. -/
theorem perform_of_asks (hvia : connection.transport = some via) {task : Task α} {request : Request}
    (h : task.call.Asks index request) :
    engine.perform connection state index task = ((engine.serve state request).1,
      .result ((engine.serve state request).2.resultFor task.operation)) := by
  let collection : Collection := ⟨connection, index⟩
  let respond : Transport → Request → Except Error Outcome :=
    fun _ request => .ok (engine.serve state request).2
  obtain ⟨hresult, hsent⟩ : (collection.perform respond task.call).1
        = .ok (engine.serve state request).2 >>= (·.resultFor task.operation) ∧
      Event.requests (collection.perform respond task.call).2 = [(via, request)] :=
    Collection.perform_of_bound h hvia
  show ((Event.requests (collection.perform respond task.call).2).foldl _ state,
    Answer.result (collection.perform respond task.call).1) = _
  rw [hsent, hresult]
  rfl

theorem Holds.put (h : engine.Holds state docs) {next : engine.State} {json : Json} {document : α}
    (hjson : json.StandsFor document)
    (hnext : engine.stored next = (engine.stored state).put index id json) :
    engine.Holds next (docs.put index id document) := by
  intro i d
  rw [hnext, Store.put, Store.put]
  split
  · exact .some hjson
  · exact h i d

theorem Holds.remove (h : engine.Holds state docs) {next : engine.State}
    (hnext : engine.stored next = (engine.stored state).remove index id) :
    engine.Holds next (docs.remove index id) := by
  intro i d
  rw [hnext, Store.remove, Store.remove]
  split
  · exact .none
  · exact h i d

theorem Holds.clear (h : engine.Holds state docs) {next : engine.State}
    (hnext : engine.stored next = (engine.stored state).clear index) :
    engine.Holds next (docs.clear index) := by
  intro i d
  rw [hnext, Store.clear, Store.clear]
  split
  · exact .none
  · exact h i d

theorem Holds.none_or_some (h : engine.Holds state docs) (index id : String) :
    (engine.stored state index id = none ∧ docs index id = none) ∨
      ∃ json document, engine.stored state index id = some json ∧ docs index id = some document ∧
        json.StandsFor document := by
  have hrel := h index id
  generalize engine.stored state index id = kept at hrel
  generalize docs index id = document? at hrel
  cases hrel with
  | none => exact .inl ⟨rfl, rfl⟩
  | some hstands => exact .inr ⟨_, _, rfl, rfl, hstands⟩

theorem Holds.counts (h : engine.Holds state docs) {count : Nat}
    (hcount : (engine.stored state).Counts index count) : docs.Counts index count := by
  obtain ⟨ids, hids, hcard⟩ := hcount
  refine ⟨ids, fun id => ?_, hcard⟩
  rw [hids]
  rcases h.none_or_some index id with ⟨hkept, hdoc⟩ | ⟨json, document, hkept, hdoc, -⟩ <;>
    simp [hkept, hdoc]

/-! ## One task -/

theorem asks_create {document : α} {json : Json} (h : Document.toJson document = .ok json) :
    (Task.create id document).call.Asks index
      ⟨.post, Path.document index "_doc" id, some json⟩ := by
  rw [Call.path_document]
  exact .createWithId h

theorem asks_find :
    (Task.find id : Task α).call.Asks index ⟨.get, Path.document index "_doc" id, none⟩ := by
  rw [Call.path_document]
  exact .get

theorem asks_destroy :
    (Task.destroy id : Task α).call.Asks index ⟨.delete, Path.document index "_doc" id, none⟩ := by
  rw [Call.path_document]
  exact .delete

theorem asks_truncate :
    (Task.truncate : Task α).call.Asks index ⟨.post, Path.endpoint index "_delete_by_query",
      some (.single "query" (.single "match_all" (.object [])))⟩ := by
  rw [Call.path_endpoint]
  exact .truncate

/-- A task comes to what the store gives, and the engine keeps the documents of the store. -/
theorem perform_fulfils (hlawful : engine.Lawful) (hvia : connection.transport = some via)
    (h : engine.Holds state docs) (index : String) {task : Task α}
    (hkeeps : ∀ id document, task = .create id document → Document.Keeps document) :
    docs.Fulfils index task (engine.perform connection state index task).2 ∧
      engine.Holds (engine.perform connection state index task).1 (docs.after index task) := by
  have hdoc (id : String) : Path.LeadsTo (Path.document index "_doc" id) index "_doc" id :=
    Path.leadsTo_document index id (by decide)
  cases task with
  | create id document =>
    obtain ⟨json, hjson, hstands⟩ := hkeeps id document rfl
    obtain ⟨htold, hnext⟩ := hlawful.create state json (hdoc id)
    rw [perform_of_asks hvia (asks_create hjson)]
    refine ⟨?_, h.put hstands hnext⟩
    show docs.Fulfils index _ (.result (Outcome.resultFor _ .create))
    rw [Outcome.resultFor_of_saysCreated htold]
    exact .created
  | find id =>
    obtain ⟨hfound, habsent, hnext⟩ := hlawful.get state (hdoc id)
    rw [perform_of_asks hvia asks_find]
    refine ⟨?_, fun i d => by rw [hnext]; exact h i d⟩
    show docs.Fulfils index _ (.result (Outcome.resultFor _ .get))
    rcases h.none_or_some index id with ⟨hkept, hnone⟩ | ⟨json, document, hkept, hsome, hstands⟩
    · rw [Outcome.resultFor_of_saysAbsent (habsent hkept)]
      exact .absent hnone
    · obtain ⟨version, hresult⟩ :=
        Outcome.resultFor_of_saysFound (hfound json hkept) hstands.1 hstands.2
      rw [hresult]
      exact .found hsome
  | destroy id =>
    obtain ⟨hdeleted, hvain, hnext⟩ := hlawful.delete state (hdoc id)
    rw [perform_of_asks hvia asks_destroy]
    refine ⟨?_, h.remove hnext⟩
    show docs.Fulfils index _ (.result (Outcome.resultFor _ .delete))
    rcases h.none_or_some index id with ⟨hkept, hnone⟩ | ⟨json, document, hkept, hsome, -⟩
    · rw [Outcome.resultFor_of_saysNotFound (hvain hkept)]
      exact .spared hnone
    · rw [Outcome.resultFor_of_saysDeleted (hdeleted (by rw [hkept]; rfl))]
      exact .destroyed (by rw [hsome]; rfl)
  | truncate =>
    obtain ⟨⟨count, hcount, htold⟩, hnext⟩ :=
      hlawful.truncate state (Path.leadsInto_endpoint index (by decide))
    rw [perform_of_asks hvia asks_truncate]
    refine ⟨?_, h.clear hnext⟩
    show docs.Fulfils index _ (.result (Outcome.resultFor _ .truncate))
    rw [Outcome.resultFor_of_saysEmptied htold]
    exact .emptied (h.counts hcount)

/-! ## Runs -/

/-- **Documents through collections.** Whatever documents are stored, read and removed, on whatever
indexes, under whatever ids and in whatever order, over a connection that leads to a lawful engine:
the answers are those that a store of documents gives. -/
theorem run_fulfilsAll (hlawful : engine.Lawful) (hvia : connection.transport = some via)
    (h : engine.Holds state docs) (tasks : List (String × Task α))
    (hkeeps : ∀ index id document, (index, .create id document) ∈ tasks →
      Document.Keeps document) :
    docs.FulfilsAll tasks (engine.run connection state tasks) := by
  induction tasks generalizing state docs with
  | nil => exact .nil
  | cons entry tasks ih =>
    obtain ⟨index, task⟩ := entry
    have hfirst : ∀ id document, task = .create id document → Document.Keeps document := by
      rintro id document rfl
      exact hkeeps index id document (by simp)
    obtain ⟨hfulfils, hnext⟩ := perform_fulfils hlawful hvia h index hfirst
    exact .cons hfulfils (ih hnext fun i id document hmem => hkeeps i id document (by simp [hmem]))

/-- A document under an id with a slash in it: stored, read, counted, and then no longer there. -/
theorem run_fulfilsAll_memoryEngine :
    let tasks : List (String × Task Json) :=
      [("films", .create "a/b" (.string "x")), ("films", .find "a/b"), ("films", .truncate),
        ("films", .destroy "a/b")]
    memoryEngine.Lawful ∧ memoryEngine.Holds [] (Store.empty : Store Json) ∧
      Store.empty.FulfilsAll tasks (memoryEngine.run ⟨some (.named "node")⟩ [] tasks) := by
  intro tasks
  have hholds : memoryEngine.Holds [] (Store.empty : Store Json) := fun _ _ => .none
  refine ⟨lawful_memoryEngine, hholds, run_fulfilsAll lawful_memoryEngine rfl hholds tasks ?_⟩
  intro index id document hmem
  obtain rfl : document = .string "x" := by
    simp only [tasks, List.mem_cons, Prod.mk.injEq, Task.create.injEq, reduceCtorEq, and_false,
      List.not_mem_nil, or_false] at hmem
    exact hmem.2.2
  exact ⟨_, rfl, by nofun, rfl⟩

end Engine

end

end DocSearch
