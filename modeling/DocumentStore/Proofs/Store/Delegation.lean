import DocumentStore.Delegation
import DocumentStore.Operation
import DocumentStore.Proofs.Condition.Scanning
import DocumentStore.Proofs.Filter.Agreement
import DocumentStore.Proofs.Store.Effects
import DocumentStore.Proofs.Store.Finding

/-!
# Delegated queries and local ones

A query is delegated as a filter, which the remote database applies to its documents without
evaluating the condition. The remote database itself would compile the condition, perhaps under
another mode of scanning, and evaluate it.
-/

namespace DocumentStore

/-- Building a filter and evaluating are alike: the filter, or its absence, is true on the records
on which the condition is. -/
theorem Program.evaluate_of_filter? {program : Program} {filter? : Option Filter}
    (built : program.filter? (some .documents) = .ok filter?) (record : Record) :
    program.evaluate record = .ok (filter?.all fun filter => filter.satisfiedBy record) := by
  cases filter? with
  | none =>
    have noInstruction := Interpretation.run_eq_none_of_finishSingle rfl
      (run_of_filter?_eq_none built)
    exact evaluate_of_isEmpty (List.isEmpty_iff.2 noInstruction) record
  | some filter =>
    obtain ⟨value, ran, related⟩ := Interpretation.run_of_simulatedBy
      (Interpretation.builder_simulatedBy_evaluator record) (run_of_filter?_eq_some built)
    cases related with
    | some same =>
      rw [evaluate, value?, ran, same]
      rfl

theorem Collection.filter_eq (collection : Collection) (filter? : Option Filter) :
    collection.filter filter? = collection.documents.filter fun document =>
      filter?.all fun filter => filter.satisfiedBy document.record := by
  cases filter? with
  | none => exact (List.filter_eq_self.2 fun _ _ => rfl).symm
  | some filter => rfl

namespace Database

variable {database remote : Database} {query : RemoteQuery}

/-- The remote database is asked for a filter once the condition has one, or is empty. -/
theorem delegate_of_filter? {condition : Condition} {filter? : Option Filter}
    (compiled : Condition.ofText database.strict query.condition = .ok condition)
    (built : condition.filter? (some Capability.documents) = .ok filter?) :
    database.delegate (some remote) query = remote.memory.filter query.collection filter? := by
  rw [delegate, mapError_eq_ok_iff.2 compiled]
  change (condition.filter? (some Capability.documents)).mapError StoreError.condition >>= _ = _
  rw [mapError_eq_ok_iff.2 built]
  rfl

/-- What a delegated query goes through before it is answered. -/
theorem delegate_eq_ok {documents : List Document}
    (answered : database.delegate (some remote) query = .ok documents) :
    ∃ condition filter? collection,
      Condition.ofText database.strict query.condition = .ok condition ∧
      condition.filter? (some Capability.documents) = .ok filter? ∧
      remote.memory.require query.collection = .ok collection ∧
      collection.filter filter? = documents := by
  obtain ⟨condition, compiled, answered⟩ := bind_eq_ok_iff.1 answered
  obtain ⟨filter?, built, answered⟩ := bind_eq_ok_iff.1 answered
  obtain ⟨collection, required, answered⟩ := bind_eq_ok_iff.1 answered
  exact ⟨condition, filter?, collection, mapError_eq_ok_iff.1 compiled,
    mapError_eq_ok_iff.1 built, required, Except.ok.inj answered⟩

/-- A delegated query that is answered gets the documents that the remote database, if it scans
permissively, finds itself, in the same order. Where the condition has a filter, or is empty, both
refuse a collection that the remote database does not have. Neither changes anything: delegating
gives no more than an answer, and finding leaves the database and the disk. -/
theorem delegate_agrees_with_find (database remote : Database) (permissive : remote.strict = false)
    (query : RemoteQuery) :
    (∀ documents, database.delegate (some remote) query = .ok documents →
      remote.find query.collection query.condition = .ok documents) ∧
    (∀ condition filter?, Condition.ofText database.strict query.condition = .ok condition →
      condition.filter? (some Capability.documents) = .ok filter? →
      query.collection ∉ remote.names →
      database.delegate (some remote) query = .error (.collectionNotFound query.collection) ∧
      remote.find query.collection query.condition =
        .error (.collectionNotFound query.collection)) ∧
    ∀ disk supply,
      (remote.perform disk supply (.find query.collection query.condition)).database = remote ∧
      (remote.perform disk supply (.find query.collection query.condition)).disk = disk := by
  refine ⟨fun documents answered => ?_, fun condition filter? compiled built missing => ?_,
    fun disk supply => ⟨rfl, rfl⟩⟩
  · obtain ⟨condition, filter?, collection, compiled, built, required, rfl⟩ :=
      delegate_eq_ok answered
    have stored : remote.documents query.collection = .ok collection.documents := by
      rw [Database.documents, Memory.documents, required]
      rfl
    have recompiled : Condition.ofText remote.strict query.condition = .ok condition :=
      permissive ▸ Condition.ofText_permissive compiled
    rw [find_of_holds stored recompiled (Program.evaluate_of_filter? built), Collection.filter_eq]
  · constructor
    · rw [delegate_of_filter? compiled built, Memory.filter, require_of_not_mem missing]
      rfl
    · exact find_of_not_mem missing query.condition

/-- A query that is answered, and one for a collection that the remote database lacks, both sent by
a database that scans strictly. -/
theorem delegate_agrees_with_find_of_people :
    let person : String → Int → Document := fun id age =>
      Document.ofFields [("_id", .string id), ("age", .number (.integer age))]
    let remote : Database := ⟨Memory.ofSnapshot
      ⟨[("people", [person "a" 25, person "b" 40, person "c" 31])], List.pairwise_singleton ..⟩,
      none, false⟩
    let database : Database := { Database.inMemory with strict := true }
    (∃ documents, database.delegate (some remote) ⟨"people", "age > 30"⟩ = .ok documents ∧
      documents.map Document.id? = [some "b", some "c"] ∧
      remote.find "people" "age > 30" = .ok documents) ∧
    remote.find "cities" "age > 30" = .error (.collectionNotFound "cities") := by
  intro person remote database
  have permissive : remote.strict = false := rfl
  have answered : (database.delegate (some remote) ⟨"people", "age > 30"⟩).map
      (fun documents => documents.map Document.id?) = .ok [some "b", some "c"] := by
    decide +kernel
  obtain ⟨documents, delegated, ids⟩ := map_eq_ok_iff.1 answered
  obtain ⟨condition, filter?, -, compiled, built, -⟩ := delegate_eq_ok delegated
  have missing : "cities" ∉ remote.names := by decide
  refine ⟨⟨documents, delegated, ids, ?_⟩, ?_⟩
  · exact (delegate_agrees_with_find database remote permissive _).1 documents delegated
  · exact ((delegate_agrees_with_find database remote permissive ⟨"cities", "age > 30"⟩).2.1
      condition filter? compiled built missing).2

end Database

end DocumentStore
