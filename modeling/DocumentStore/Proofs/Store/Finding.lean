import DocumentStore.Database
import DocumentStore.Proofs.Catalog
import DocumentStore.Proofs.Condition.Conservation

/-!
# Documents that are found

Finding goes through the documents of a collection in order. Where a condition comes to a truth on
every record, the documents found are those on which it is true.
-/

namespace DocumentStore

namespace Collection

variable {condition : Condition} {holds : Record → Bool}

theorem matching_eq_filter
    (evaluated : ∀ record, condition.matchRecord record = .ok (holds record))
    (documents : List Document) :
    matching condition documents =
      .ok (documents.filter fun document => holds document.record) := by
  induction documents with
  | nil => rfl
  | cons document rest ih =>
    rw [matching, evaluated, ih, List.filter_cons]
    rfl

/-- The condition decides what is found, and the shortcut for the empty one makes no difference. -/
theorem find_eq_filter (evaluated : ∀ record, condition.matchRecord record = .ok (holds record))
    (collection : Collection) :
    collection.find condition =
      .ok (collection.documents.filter fun document => holds document.record) := by
  by_cases matchAll : condition.isMatchAll
  · have always : ∀ record, holds record = true := fun record =>
      (Except.ok.inj ((Program.evaluate_of_isEmpty matchAll record).symm.trans
        (evaluated record))).symm
    rw [find, if_pos matchAll, List.filter_eq_self.2 fun document _ => always _]
  · rw [find, if_neg matchAll, matching_eq_filter evaluated]

end Collection

namespace Database

theorem require_of_not_mem {database : Database} {name : String} (missing : name ∉ database.names) :
    database.memory.require name = .error (.collectionNotFound name) := by
  rw [Memory.require, Catalog.get?_eq_none_iff.2 missing]

theorem find_of_not_mem {database : Database} {name : String} (missing : name ∉ database.names)
    (text : String) : database.find name text = .error (.collectionNotFound name) := by
  rw [find, Memory.find, require_of_not_mem missing]
  rfl

/-- Finding by a condition that comes to a truth on every record. -/
theorem find_of_holds {database : Database} {name text : String} {stored : List Document}
    (found : database.documents name = .ok stored) {condition : Condition}
    (compiled : Condition.ofText database.strict text = .ok condition) {holds : Record → Bool}
    (evaluated : ∀ record, condition.matchRecord record = .ok (holds record)) :
    database.find name text = .ok (stored.filter fun document => holds document.record) := by
  obtain ⟨collection, required, same⟩ := bind_eq_ok_iff.1 found
  cases same
  refine bind_eq_ok_iff.2 ⟨collection, required, bind_eq_ok_iff.2 ⟨condition, ?_, ?_⟩⟩
  · rw [compiled]
    rfl
  · rw [Collection.find_eq_filter evaluated]
    rfl

end Database

end DocumentStore
