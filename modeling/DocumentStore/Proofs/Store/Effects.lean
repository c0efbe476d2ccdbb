import DocumentStore.Operation
import DocumentStore.Proofs.Catalog
import DocumentStore.Proofs.Except

/-!
# What operations do to the collections

Every operation asks for a change of the memory, which is rejected, or leaves the memory as it is
and is not saved, or is saved. What it does to the collections is said once more here, on the names
and documents alone (`Snapshot.after`), and does not depend on what becomes of the save.
-/

namespace DocumentStore

namespace Snapshot

/-- Changes the documents of a collection, if it is there. -/
def amend (snapshot : Snapshot) (name : String) (f : List Document → List Document) : Snapshot :=
  match snapshot.get? name with
  | some documents => snapshot.insert name (f documents)
  | none => snapshot

/-- The documents of a collection after an update. -/
def updateStored (changes : Document) (time : String) (documents : List Document) :
    List Document :=
  match changes.id? with
  | none => documents
  | some id =>
    match Collection.updateFirst? id changes time documents with
    | none => documents
    | some (_, updated) => updated

/-- The collections after an operation. -/
def after (supply : Nat → Stamp) (snapshot : Snapshot) : Operation → Snapshot
  | .create name => snapshot.insert name []
  | .ensure name => if (snapshot.get? name).isSome then snapshot else snapshot.insert name []
  | .insert name document => snapshot.amend name (· ++ [document.stamped (supply 0)])
  | .insertAll name documents => snapshot.amend name (· ++ Collection.stampAll supply documents)
  | .update name changes => snapshot.amend name (updateStored changes (supply 0).time)
  | .remove name id => snapshot.amend name (Collection.without id)
  | .clear => Catalog.empty
  | .flush | .names | .documents _ | .find _ _ | .query _ => snapshot

theorem amend_of_get? {snapshot : Snapshot} {name : String} {documents : List Document}
    (found : snapshot.get? name = some documents) (f : List Document → List Document) :
    snapshot.amend name f = snapshot.insert name (f documents) := by
  rw [amend, found]

theorem amend_of_missing {snapshot : Snapshot} {name : String}
    (missing : snapshot.get? name = none) (f : List Document → List Document) :
    snapshot.amend name f = snapshot := by
  rw [amend, missing]

theorem amend_of_unchanged {snapshot : Snapshot} {name : String} {documents : List Document}
    (found : snapshot.get? name = some documents) {f : List Document → List Document}
    (same : f documents = documents) : snapshot.amend name f = snapshot := by
  rw [amend_of_get? found, same, Catalog.insert_of_get? found]

end Snapshot

namespace Collection

/-- An update touches one document, the first one with the identifier, which keeps it. -/
theorem updateFirst?_eq_some {id time : String} {changes updated : Document}
    {documents after : List Document}
    (found : updateFirst? id changes time documents = some (updated, after)) :
    ∃ before stored rest, documents = before ++ stored :: rest ∧ stored.id? = some id ∧
      updated = stored.updated changes time ∧ after = before ++ updated :: rest := by
  induction documents generalizing after with
  | nil => cases found
  | cons document rest ih =>
    rw [updateFirst?] at found
    split at found
    · rename_i identified
      cases found
      exact ⟨[], document, rest, rfl, identified, rfl, rfl⟩
    · obtain ⟨⟨_, others⟩, later, same⟩ := Option.map_eq_some_iff.1 found
      cases same
      obtain ⟨before, stored, rest', rfl, identified, merged, rfl⟩ := ih later
      exact ⟨document :: before, stored, rest', rfl, identified, merged, rfl⟩

/-- The first document with the identifier is updated in its place. -/
theorem updateFirst?_of_first {id time : String} {changes stored : Document}
    {before after : List Document}
    (others : ∀ document ∈ before, document.id? ≠ some id) (meant : stored.id? = some id) :
    updateFirst? id changes time (before ++ stored :: after) =
      some (stored.updated changes time, before ++ stored.updated changes time :: after) := by
  induction before with
  | nil => rw [List.nil_append, updateFirst?, if_pos meant, List.nil_append]
  | cons document before ih =>
    obtain ⟨different, others⟩ := List.forall_mem_cons.1 others
    rw [List.cons_append, updateFirst?, if_neg different, ih others]
    rfl

theorem updateFirst?_eq_none_iff {id time : String} {changes : Document}
    {documents : List Document} :
    updateFirst? id changes time documents = none ↔
      ∀ document ∈ documents, document.id? ≠ some id := by
  induction documents with
  | nil => simp [updateFirst?]
  | cons document rest ih =>
    rw [List.forall_mem_cons, ← ih, updateFirst?]
    by_cases meant : document.id? = some id
    · simp [meant]
    · simp [meant]

end Collection

/-! ## Changes of the memory -/

namespace Memory

theorem snapshot_get? (memory : Memory) (name : String) :
    memory.snapshot.get? name = (memory.live.get? name).map Collection.documents :=
  Catalog.get?_map _ _ name

theorem snapshot_reset (memory : Memory) (name : String) :
    (memory.reset name).snapshot = memory.snapshot.insert name [] :=
  Catalog.map_insert ..

theorem snapshot_replaceDocuments (memory : Memory) (name : String) (collection : Collection)
    (documents : List Document) :
    (memory.replaceDocuments name collection documents).snapshot =
      memory.snapshot.insert name documents :=
  Catalog.map_insert ..

theorem require_eq_ok_iff {memory : Memory} {name : String} {collection : Collection} :
    memory.require name = .ok collection ↔ memory.live.get? name = some collection := by
  rw [require]
  cases memory.live.get? name <;> simp

theorem require_cases (memory : Memory) (name : String) :
    (memory.require name = .error (.collectionNotFound name) ∧ memory.snapshot.get? name = none) ∨
    ∃ collection, memory.require name = .ok collection ∧
      memory.snapshot.get? name = some collection.documents := by
  rw [snapshot_get?, require]
  cases memory.live.get? name with
  | none => exact .inl ⟨rfl, rfl⟩
  | some collection => exact .inr ⟨collection, rfl, rfl⟩

theorem documents_eq (memory : Memory) (name : String) :
    memory.documents name =
      match memory.snapshot.get? name with
      | some documents => .ok documents
      | none => .error (.collectionNotFound name) := by
  obtain ⟨required, missing⟩ | ⟨collection, required, found⟩ := memory.require_cases name
  · rw [documents, required, missing]
    rfl
  · rw [documents, required, found]
    rfl

theorem documents_eq_ok_iff {memory : Memory} {name : String} {documents : List Document} :
    memory.documents name = .ok documents ↔ memory.snapshot.get? name = some documents := by
  rw [documents_eq]
  cases memory.snapshot.get? name <;> simp

end Memory

/-- Changes the answer of a change. -/
def Change.map {α β : Type} (f : α → β) (change : Change α) : Change β :=
  ⟨f change.answer, change.memory, change.saves⟩

/-- What can become of an operation on a memory after which the collections are `after`. -/
inductive Effect {α : Type} (memory : Memory) (after : Snapshot) :
    Except StoreError (Change α) → Prop
  | rejected (error : StoreError) (same : after = memory.snapshot) : Effect memory after (.error error)
  | unsaved (answer : α) (same : after = memory.snapshot) :
    Effect memory after (.ok ⟨answer, memory, false⟩)
  | saved (answer : α) {memory' : Memory} (changed : after = memory'.snapshot) :
    Effect memory after (.ok ⟨answer, memory', true⟩)

namespace Effect

variable {α β : Type} {memory : Memory}

theorem map {after : Snapshot} {change : Except StoreError (Change α)}
    (effect : Effect memory after change) (f : α → β) :
    Effect memory after (change.map (Change.map f)) := by
  cases effect with
  | rejected error same => exact .rejected error same
  | unsaved answer same => exact .unsaved (f answer) same
  | saved answer changed => exact .saved (f answer) changed

theorem ensure (name : String) :
    Effect memory (if (memory.snapshot.get? name).isSome then memory.snapshot
      else memory.snapshot.insert name []) (.ok (memory.ensure name)) := by
  rw [Memory.snapshot_get?, Memory.ensure]
  cases memory.live.get? name with
  | none => exact .saved true (memory.snapshot_reset name).symm
  | some collection => exact .unsaved false rfl

/-- What is asked of a collection that is missing is rejected. -/
theorem of_require {name : String} {f : List Document → List Document}
    {body : Collection → Except StoreError (Change α)}
    (effect : ∀ collection : Collection, memory.snapshot.get? name = some collection.documents →
      Effect memory (memory.snapshot.amend name f) (body collection)) :
    Effect memory (memory.snapshot.amend name f) (memory.require name >>= body) := by
  obtain ⟨required, missing⟩ | ⟨collection, required, found⟩ := memory.require_cases name
  · rw [required]
    exact .rejected _ (Snapshot.amend_of_missing missing f)
  · rw [required]
    exact effect collection found

theorem replaceDocuments {name : String} {collection : Collection}
    (found : memory.snapshot.get? name = some collection.documents) (answer : α)
    {f : List Document → List Document} {documents : List Document}
    (amended : f collection.documents = documents) :
    Effect memory (memory.snapshot.amend name f)
      (.ok ⟨answer, memory.replaceDocuments name collection documents, true⟩) := by
  rw [Snapshot.amend_of_get? found, amended]
  exact .saved answer (memory.snapshot_replaceDocuments ..).symm

theorem insert (stamp : Stamp) (name : String) (document : Document) :
    Effect memory (memory.snapshot.amend name (· ++ [document.stamped stamp]))
      (memory.insert stamp name document) :=
  of_require fun _ found => replaceDocuments found _ rfl

theorem insertAll (supply : Nat → Stamp) (name : String) (documents : List Document) :
    Effect memory (memory.snapshot.amend name (· ++ Collection.stampAll supply documents))
      (memory.insertAll supply name documents) :=
  of_require fun _ found => replaceDocuments found _ rfl

theorem update (time : String) (name : String) (changes : Document) :
    Effect memory (memory.snapshot.amend name (Snapshot.updateStored changes time))
      (memory.update time name changes) := by
  refine of_require fun collection found => ?_
  split
  · rename_i unidentified
    exact .rejected _ (Snapshot.amend_of_unchanged found
      (by simp only [Snapshot.updateStored, unidentified]))
  · rename_i id identified
    split
    · rename_i notStored
      exact .rejected _ (Snapshot.amend_of_unchanged found
        (by simp only [Snapshot.updateStored, identified, notStored]))
    · rename_i updated documents stored
      exact replaceDocuments found _ (by simp only [Snapshot.updateStored, identified, stored])

theorem remove (name id : String) :
    Effect memory (memory.snapshot.amend name (Collection.without id)) (memory.remove name id) := by
  refine of_require fun collection found => ?_
  dsimp only
  split
  · rename_i whole
    have same : Collection.without id collection.documents = collection.documents :=
      List.filter_sublist.eq_of_length whole
    exact .unsaved false (Snapshot.amend_of_unchanged found same)
  · exact replaceDocuments found true rfl

end Effect

/-! ## Changes that operations ask for -/

namespace Database

/-- The change of the memory that an operation asks for; reading asks for none. -/
def change (database : Database) (supply : Nat → Stamp) :
    Operation → Except StoreError (Change Answer)
  | .create name => .ok ((database.memory.create name).map fun () => .done)
  | .ensure name => .ok ((database.memory.ensure name).map .created)
  | .insert name document =>
    (database.memory.insert (supply 0) name document).map
      (Change.map fun inserted => .documents [inserted])
  | .insertAll name documents =>
    (database.memory.insertAll supply name documents).map (Change.map .documents)
  | .update name changes =>
    (database.memory.update (supply 0).time name changes).map
      (Change.map fun updated => .documents [updated])
  | .remove name id => (database.memory.remove name id).map (Change.map .removed)
  | .clear => .ok (database.memory.clear.map fun () => .done)
  | .flush => .ok (database.memory.flush.map fun () => .done)
  | .names => .ok ⟨.names database.names, database.memory, false⟩
  | .documents name =>
    (database.documents name).map fun documents => ⟨.documents documents, database.memory, false⟩
  | .find name condition =>
    (database.find name condition).map fun documents =>
      ⟨.documents documents, database.memory, false⟩
  | .query statement =>
    (database.query statement).map fun documents => ⟨.documents documents, database.memory, false⟩

/-- A change that is saved is taken over, and it is answered unless the save fails. -/
theorem commit_saved {α : Type} (database : Database) (disk : Disk) (answer : α) (memory : Memory) :
    let changed : Database := { database with memory }
    database.commit disk ⟨answer, memory, true⟩ =
      ⟨(changed.save disk).1.map fun () => answer, changed, (changed.save disk).2⟩ := by
  intro changed
  rw [commit]
  dsimp only
  rw [if_pos rfl]
  rcases saved : changed.save disk with ⟨error | ⟨⟩, disk'⟩
  · rfl
  · rfl

theorem commit_map {α β : Type} (f : α → β) (database : Database) (disk : Disk)
    (change : Change α) :
    (database.commit disk change).map f = database.commit disk (change.map f) := by
  obtain ⟨answer, memory, saves⟩ := change
  cases saves with
  | false => rfl
  | true =>
    simp only [commit, Change.map, if_true]
    split <;> rfl

theorem attempt_map {α β : Type} (f : α → β) (database : Database) (disk : Disk)
    (change : Except StoreError (Change α)) :
    (database.attempt disk change).map f = database.attempt disk (change.map (Change.map f)) := by
  cases change with
  | error error => rfl
  | ok change => exact commit_map f database disk change

theorem attempt_reading {α β : Type} (f : α → β) (database : Database) (disk : Disk)
    (answer : Except StoreError α) :
    (⟨answer.map f, database, disk⟩ : Result β) =
      database.attempt disk (answer.map fun a => ⟨f a, database.memory, false⟩) := by
  cases answer <;> rfl

/-- An attempt takes over the memory of the change, whatever becomes of the save. -/
theorem database_attempt {α : Type} (database : Database) (disk : Disk)
    (change : Except StoreError (Change α)) :
    (database.attempt disk change).database =
      match change with
      | .ok change => { database with memory := change.memory }
      | .error _ => database := by
  cases change with
  | error error => rfl
  | ok change =>
    rw [attempt, commit]
    dsimp only
    split
    · split <;> rfl
    · rfl

/-- Every operation is an attempt at the change that it asks for. -/
theorem perform_eq_attempt (database : Database) (disk : Disk) (supply : Nat → Stamp)
    (operation : Operation) :
    database.perform disk supply operation =
      database.attempt disk (database.change supply operation) := by
  cases operation with
  | create name => exact commit_map ..
  | ensure name => exact commit_map ..
  | insert name document => exact attempt_map ..
  | insertAll name documents => exact attempt_map ..
  | update name changes => exact attempt_map ..
  | remove name id => exact attempt_map ..
  | clear => exact commit_map ..
  | flush => exact commit_map ..
  | names => rfl
  | documents name => exact attempt_reading ..
  | find name condition => exact attempt_reading ..
  | query statement => exact attempt_reading ..

theorem effect_of_reading {α : Type} {memory : Memory} {answer : Except StoreError α}
    (f : α → Answer) :
    Effect memory memory.snapshot (answer.map fun a => ⟨f a, memory, false⟩) := by
  cases answer with
  | error error => exact .rejected error rfl
  | ok a => exact .unsaved (f a) rfl

/-- What every operation does to the collections. -/
theorem effect_change (database : Database) (supply : Nat → Stamp) (operation : Operation) :
    Effect database.memory (database.memory.snapshot.after supply operation)
      (database.change supply operation) := by
  cases operation with
  | create name => exact .saved _ (database.memory.snapshot_reset name).symm
  | ensure name => exact (Effect.ensure name).map _
  | insert name document => exact (Effect.insert ..).map _
  | insertAll name documents => exact (Effect.insertAll ..).map _
  | update name changes => exact (Effect.update ..).map _
  | remove name id => exact (Effect.remove ..).map _
  | clear => exact .saved _ rfl
  | flush => exact .saved _ rfl
  | names => exact .unsaved _ rfl
  | documents name => exact effect_of_reading _
  | find name condition => exact effect_of_reading _
  | query statement => exact effect_of_reading _

end Database

end DocumentStore
