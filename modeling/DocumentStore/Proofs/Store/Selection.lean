import DocumentStore.Proofs.Store.Effects
import DocumentStore.Proofs.Store.Finding
import DocumentStore.Proofs.Store.Querying

/-!
# What finding answers

Finding asks for the collection first and then compiles the condition; nothing else can be refused.
A condition that compiles comes to a truth on every record, whatever operands it lacks or leaves
over, so a document decides no more than whether it is found itself.
-/

namespace DocumentStore

open Text

namespace Condition

/-- A condition that compiles comes to a truth on every record. -/
theorem exists_holds {strict : Bool} {text : String} {condition : Condition}
    (compiled : ofText strict text = .ok condition) :
    ∃ holds : Record → Bool, ∀ record, condition.matchRecord record = .ok (holds record) := by
  obtain ⟨tokens, scanned, compiled⟩ := bind_eq_ok_iff.1 compiled
  obtain ⟨program, assembled, same⟩ := bind_eq_ok_iff.1 compiled
  cases same
  choose holds evaluated using Program.exists_evaluate (Program.plain_of_ofTokens assembled)
  exact ⟨holds, evaluated⟩

/-- The empty condition has no instruction. -/
theorem ofText_empty (strict : Bool) : ofText strict "" = .ok ⟨"", ⟨[]⟩⟩ := by
  have nothing : Token.scan "".toList = ([], []) := Token.scan_nil
  exact bind_eq_ok_iff.2 ⟨[], Token.ofText_of_scan nothing strict, rfl⟩

end Condition

namespace Database

variable {database : Database} {name text : String} {stored : List Document}

theorem mem_names_iff : name ∈ database.names ↔ ∃ stored, database.documents name = .ok stored := by
  have named : database.memory.snapshot.names = database.names := Catalog.names_map ..
  rw [← named]
  constructor
  · intro inside
    obtain ⟨stored, found⟩ : ∃ stored, database.memory.snapshot.get? name = some stored :=
      Option.ne_none_iff_exists'.1 fun missing => Catalog.get?_eq_none_iff.1 missing inside
    exact ⟨stored, Memory.documents_eq_ok_iff.2 found⟩
  · rintro ⟨stored, found⟩
    by_contra missing
    have absent := Catalog.get?_eq_none_iff.2 missing
    rw [Memory.documents_eq_ok_iff.1 found] at absent
    cases absent

theorem find_of_invalid (present : name ∈ database.names) {cause : ConditionError}
    (invalid : Condition.ofText database.strict text = .error cause) :
    database.find name text = .error (.condition cause) := by
  obtain ⟨stored, found⟩ := mem_names_iff.1 present
  obtain ⟨collection, required, -⟩ := bind_eq_ok_iff.1 found
  rw [find, Memory.find, required, invalid]
  rfl

/-- Finding is refused because there is no such collection, or else because the condition does not
compile. -/
theorem find_eq_error_iff {error : StoreError} :
    database.find name text = .error error ↔
      (name ∉ database.names ∧ error = .collectionNotFound name) ∨
      (name ∈ database.names ∧ ∃ cause, Condition.ofText database.strict text = .error cause ∧
        error = .condition cause) := by
  constructor
  · intro refused
    by_cases present : name ∈ database.names
    · cases compiled : Condition.ofText database.strict text with
      | error cause =>
        rw [find_of_invalid present compiled] at refused
        cases refused
        exact .inr ⟨present, cause, rfl, rfl⟩
      | ok condition =>
        obtain ⟨stored, found⟩ := mem_names_iff.1 present
        obtain ⟨holds, evaluated⟩ := Condition.exists_holds compiled
        rw [find_of_holds found compiled evaluated] at refused
        cases refused
    · rw [find_of_not_mem present] at refused
      cases refused
      exact .inl ⟨present, rfl⟩
  · rintro (⟨missing, rfl⟩ | ⟨present, cause, invalid, rfl⟩)
    · exact find_of_not_mem missing text
    · exact find_of_invalid present invalid

theorem strict_insert (database : Database) (disk : Disk) (stamp : Stamp) (name : String)
    (document : Document) :
    (database.insert disk stamp name document).database.strict = database.strict := by
  rw [insert, database_attempt]
  split <;> rfl

/-- A document is inserted after those that are stored. -/
theorem documents_insert (found : database.documents name = .ok stored) (disk : Disk)
    (stamp : Stamp) (document : Document) :
    (database.insert disk stamp name document).database.documents name =
      .ok (stored ++ [document.stamped stamp]) := by
  obtain ⟨collection, required, same⟩ := bind_eq_ok_iff.1 found
  cases same
  have changed : database.memory.insert stamp name document =
      .ok ⟨document.stamped stamp, database.memory.replaceDocuments name collection
        (collection.documents ++ [document.stamped stamp]), true⟩ := by
    rw [Memory.insert, required]
    rfl
  refine Memory.documents_eq_ok_iff.2 ?_
  rw [insert, database_attempt, changed]
  dsimp only
  rw [Memory.snapshot_replaceDocuments, Catalog.get?_insert_self]

/-- The empty condition finds all documents. -/
theorem find_empty (database : Database) (name : String) :
    database.find name "" = database.documents name := by
  rw [find, Memory.find, Condition.ofText_empty, documents, Memory.documents]
  rfl

/-- Finding is exact. It is refused only because there is no such collection, or else because the
condition does not compile in the mode of the database, whatever documents are stored. Otherwise the
condition comes to a truth on every record, and those of the stored documents on which it is true are
found in their order, which is that in which they were inserted: one that is inserted is found last.
Going through the documents one by one finds them too. The empty condition finds all documents, and
so does a statement without a condition. -/
theorem find_exact (database : Database) (name text : String) :
    (∀ error, database.find name text = .error error ↔
      (name ∉ database.names ∧ error = .collectionNotFound name) ∨
      (name ∈ database.names ∧ ∃ cause, Condition.ofText database.strict text = .error cause ∧
        error = .condition cause)) ∧
    (∀ stored condition, database.documents name = .ok stored →
      Condition.ofText database.strict text = .ok condition →
      ∃ holds : Record → Bool,
        (∀ record, condition.program.evaluate record = .ok (holds record)) ∧
        database.find name text = .ok (stored.filter fun document => holds document.record) ∧
        Collection.matching condition stored =
          .ok (stored.filter fun document => holds document.record) ∧
        ∀ disk stamp document,
          (database.insert disk stamp name document).database.find name text =
            .ok ((stored.filter fun document => holds document.record) ++
              [document.stamped stamp].filter fun document => holds document.record)) ∧
    database.find name "" = database.documents name ∧
    (IsWord name.toList → database.query ("SELECT * FROM " ++ name) = database.documents name) := by
  refine ⟨fun error => find_eq_error_iff, ?_, find_empty database name, ?_⟩
  · intro stored condition found compiled
    obtain ⟨holds, evaluated⟩ := Condition.exists_holds compiled
    refine ⟨holds, evaluated, find_of_holds found compiled evaluated,
      Collection.matching_eq_filter evaluated stored, ?_⟩
    intro disk stamp document
    have recompiled : Condition.ofText (database.insert disk stamp name document).database.strict
        text = .ok condition := by
      rw [strict_insert, compiled]
    rw [find_of_holds (documents_insert found disk stamp document) recompiled evaluated,
      List.filter_append]
  · intro named
    rw [query_of_read (Statement.read_all named)]
    exact find_empty database name

/-- A condition that lacks an operand finds a document all the same; a condition that does not compile
is not looked at if there is no such collection. -/
theorem find_exact_of_people :
    let person : String → Int → Document := fun id age =>
      Document.ofFields [("_id", .string id), ("age", .number (.integer age))]
    let stored := [person "a" 25, person "b" 40]
    let database : Database :=
      ⟨Memory.ofSnapshot ⟨[("people", stored)], List.pairwise_singleton ..⟩, none, true⟩
    (∃ condition documents, Condition.ofText true "age > 30 OR" = .ok condition ∧
      database.find "people" "age > 30 OR" = .ok documents ∧
      Collection.matching condition stored = .ok documents ∧
      documents.map Document.id? = [some "b"]) ∧
    (∃ cause, database.find "people" "age # 30" = .error (.condition cause)) ∧
    database.find "cities" "age # 30" = .error (.collectionNotFound "cities") ∧
    database.query "SELECT * FROM people" = database.documents "people" := by
  intro person stored database
  let thirty : Float := (Decimal.mk 30 0).toFloat
  let condition : Condition := ⟨"age > 30 OR", ⟨[.name "age", .literal (.number thirty),
    .operator (.comparison .gt), .operator (.connective .or)]⟩⟩
  have compiled : Condition.ofText true "age > 30 OR" = .ok condition := by decide +kernel
  have exported : database.documents "people" = .ok stored := rfl
  obtain ⟨holds, -, found, walked, -⟩ :=
    (find_exact database "people" "age > 30 OR").2.1 stored condition exported compiled
  have ids : (database.find "people" "age > 30 OR").map (fun documents =>
      documents.map Document.id?) = .ok [some "b"] := by decide +kernel
  rw [found] at ids
  have refused : failure? (Condition.ofText true "age # 30") ≠ none := by decide +kernel
  obtain ⟨cause, invalid⟩ := Option.ne_none_iff_exists'.1 refused
  have present : "people" ∈ database.names := by decide
  have missing : "cities" ∉ database.names := by decide
  refine ⟨⟨condition, _, compiled, found, walked, Except.ok.inj ids⟩, ⟨cause, ?_⟩, ?_, ?_⟩
  · exact ((find_exact database "people" "age # 30").1 _).2
      (.inr ⟨present, cause, failure?_eq_some_iff.1 invalid, rfl⟩)
  · exact ((find_exact database "cities" "age # 30").1 _).2 (.inl ⟨missing, rfl⟩)
  · exact (find_exact database "people" "").2.2.2 (by decide)

end Database

end DocumentStore
