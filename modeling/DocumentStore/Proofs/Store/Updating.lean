import DocumentStore.Proofs.Store.Ledger
import DocumentStore.Proofs.Store.Selection

/-!
# What an update changes

An update is refused before anything is changed: because there is no such collection, or else because
the changes do not tell which document they are for, or else because there is no such document.
Otherwise it changes the first of the documents that are meant, in its place, and nothing else. That
is so in any state, however many of its documents have the same identifier or none. If the database
is persistent and the save fails, the failure is answered in place of the document, which has been
changed all the same.
-/

namespace DocumentStore

namespace Database

/-- Nothing but the documents of one collection differs: neither the names nor any other collection,
nor those that can no longer be reached by name, nor how the database is set up. -/
structure AlikeApartFrom (name : String) (before after : Database) : Prop where
  names : after.names = before.names
  collections : ∀ other, other ≠ name →
    after.memory.live.get? other = before.memory.live.get? other
  retired : after.memory.retired = before.memory.retired
  dataFile? : after.dataFile? = before.dataFile?
  strict : after.strict = before.strict

theorem alikeApartFrom_replaceDocuments {database : Database} {name : String}
    {collection : Collection} (required : database.memory.require name = .ok collection)
    (documents : List Document) :
    database.AlikeApartFrom name
      { database with memory := database.memory.replaceDocuments name collection documents } where
  names := Catalog.names_insert_of_get? (Memory.require_eq_ok_iff.1 required) _
  collections _ different := Catalog.get?_insert_of_ne _ different _
  retired := rfl
  dataFile? := rfl
  strict := rfl

section

variable {database : Database} {name id : String} {changes : Document} {documents : List Document}

theorem update_of_not_mem (missing : name ∉ database.names) (disk : Disk) (time : String)
    (changes : Document) :
    database.update disk time name changes =
      ⟨.error (.collectionNotFound name), database, disk⟩ := by
  rw [update, Memory.update, require_of_not_mem missing]
  rfl

theorem update_of_unidentified (found : database.documents name = .ok documents)
    (unidentified : changes.id? = none) (disk : Disk) (time : String) :
    database.update disk time name changes = ⟨.error .missingId, database, disk⟩ := by
  obtain ⟨collection, required, -⟩ := bind_eq_ok_iff.1 found
  rw [update, Memory.update, required, unidentified]
  rfl

theorem update_of_not_stored (found : database.documents name = .ok documents)
    (identified : changes.id? = some id)
    (missing : ∀ document ∈ documents, document.id? ≠ some id) (disk : Disk) (time : String) :
    database.update disk time name changes =
      ⟨.error (.itemNotFound id name), database, disk⟩ := by
  obtain ⟨collection, required, same⟩ := bind_eq_ok_iff.1 found
  cases same
  rw [update, Memory.update, required, identified]
  simp only [bind, Except.bind, Collection.updateFirst?_eq_none_iff.2 missing]
  rfl

theorem update_of_first {before after : List Document} {stored : Document}
    (found : database.documents name = .ok (before ++ stored :: after))
    (identified : changes.id? = some id) (meant : stored.id? = some id)
    (others : ∀ document ∈ before, document.id? ≠ some id) (disk : Disk) (time : String) :
    ∃ collection, database.memory.require name = .ok collection ∧
      database.update disk time name changes =
        database.commit disk ⟨stored.updated changes time,
          database.memory.replaceDocuments name collection
            (before ++ stored.updated changes time :: after), true⟩ := by
  obtain ⟨collection, required, same⟩ := bind_eq_ok_iff.1 found
  have documents : collection.documents = before ++ stored :: after := Except.ok.inj same
  refine ⟨collection, required, ?_⟩
  rw [update, Memory.update, required, identified]
  simp only [bind, Except.bind, documents, Collection.updateFirst?_of_first others meant]
  rfl

end

/-- An update is exact, in every state of the database. It is refused because there is no such
collection, or else because the changes have no identifier, or else because no document of the
collection has that identifier, and then the database and the disk stay as they are. Otherwise the
first document with the identifier is changed in its place: of its fields the date of change is the
time of the update, the others that the changes bring are theirs, and all that remain are kept. No
other document, no place and no other collection is changed. The changed document is answered,
unless the database is persistent and the save fails: then the failure is answered, and the document
is changed in memory all the same. -/
theorem update_merges (database : Database) (disk : Disk) (time name : String)
    (changes : Document) :
    let result := database.update disk time name changes
    (name ∉ database.names → result = ⟨.error (.collectionNotFound name), database, disk⟩) ∧
    ∀ documents, database.documents name = .ok documents →
      (changes.id? = none → result = ⟨.error .missingId, database, disk⟩) ∧
      ∀ id, changes.id? = some id →
        ((∀ document ∈ documents, document.id? ≠ some id) →
          result = ⟨.error (.itemNotFound id name), database, disk⟩) ∧
        ∀ before stored after, documents = before ++ stored :: after → stored.id? = some id →
          (∀ document ∈ before, document.id? ≠ some id) →
          ∃ updated : Document,
            (∀ field, updated.get? field =
              if field = Document.updatedField then some (.string time)
              else (changes.get? field).or (stored.get? field)) ∧
            result.database.documents name = .ok (before ++ updated :: after) ∧
            database.AlikeApartFrom name result.database ∧
            result.answer = (result.database.save disk).1.map (fun () => updated) ∧
            result.disk = (result.database.save disk).2 ∧
            (database.dataFile? = none → result.answer = .ok updated) := by
  refine ⟨fun missing => update_of_not_mem missing disk time changes, ?_⟩
  intro documents found
  refine ⟨fun unidentified => update_of_unidentified found unidentified disk time, ?_⟩
  intro id identified
  refine ⟨fun missing => update_of_not_stored found identified missing disk time, ?_⟩
  rintro before stored after rfl meant others
  obtain ⟨collection, required, updated⟩ :=
    update_of_first found identified meant others disk time
  have committed := updated.trans (commit_saved database disk _ _)
  refine ⟨stored.updated changes time, Document.get?_updated stored changes time, ?_⟩
  rw [committed]
  refine ⟨?_, alikeApartFrom_replaceDocuments required _, rfl, rfl, ?_⟩
  · refine Memory.documents_eq_ok_iff.2 ?_
    dsimp only
    rw [Memory.snapshot_replaceDocuments, Catalog.get?_insert_self]
  · intro inMemory
    simp only [save, inMemory]
    rfl

/-- Of a document without an identifier, one whose identifier is a number and two with the same
identifier, the first of the two is changed; the changes bring a creation date, which counts, and a
date of change, which does not. -/
theorem update_merges_of_twins :
    let number (n : Int) : Json := .number (.integer n)
    let nameless := Document.ofFields [("a", number 1)]
    let numbered := Document.ofFields [("_id", number 7), ("a", number 2)]
    let first := Document.ofFields [("_id", .string "7"), ("a", number 3), ("b", .null)]
    let second := Document.ofFields [("_id", .string "7"), ("a", number 4)]
    let changes := Document.ofFields [("_createdDate", .string "then"), ("_id", .string "7"),
      ("_updatedDate", .string "then"), ("a", number 5)]
    let database : Database :=
      ⟨Memory.ofSnapshot ⟨[("t", [nameless, numbered, first, second])],
        List.pairwise_singleton ..⟩, none, false⟩
    let result := database.update ⟨[], []⟩ "now" "t" changes
    let stranger := Document.ofFields [("_id", .string "8"), ("a", number 5)]
    database.update ⟨[], []⟩ "now" "u" changes =
      ⟨.error (.collectionNotFound "u"), database, ⟨[], []⟩⟩ ∧
    database.update ⟨[], []⟩ "now" "t" numbered = ⟨.error .missingId, database, ⟨[], []⟩⟩ ∧
    database.update ⟨[], []⟩ "now" "t" stranger =
      ⟨.error (.itemNotFound "8" "t"), database, ⟨[], []⟩⟩ ∧
    ∃ updated, result.answer = .ok updated ∧
      result.database.documents "t" = .ok [nameless, numbered, updated, second] ∧
      ["_createdDate", "_id", "_updatedDate", "a", "b", "c"].map updated.record =
        [.text "then", .text "7", .text "now", .number 5, .null, .absent] := by
  intro number nameless numbered first second changes database result stranger
  have found : database.documents "t" = .ok [nameless, numbered, first, second] := rfl
  have ids : nameless.id? = none ∧ numbered.id? = none ∧ first.id? = some "7" ∧
      second.id? = some "7" ∧ changes.id? = some "7" ∧ stranger.id? = some "8" := by
    decide +kernel
  obtain ⟨unnamed, unread, isFirst, isSecond, meant, strange⟩ := ids
  obtain ⟨absent, -⟩ := update_merges database ⟨[], []⟩ "now" "u" changes
  obtain ⟨-, unidentified⟩ := update_merges database ⟨[], []⟩ "now" "t" numbered
  obtain ⟨-, unknown⟩ := update_merges database ⟨[], []⟩ "now" "t" stranger
  obtain ⟨-, identified⟩ := update_merges database ⟨[], []⟩ "now" "t" changes
  have missing : ∀ document ∈ [nameless, numbered, first, second], document.id? ≠ some "8" := by
    simp [unnamed, unread, isFirst, isSecond]
  have others : ∀ document ∈ [nameless, numbered], document.id? ≠ some "7" := by
    simp [unnamed, unread]
  obtain ⟨updated, fields, documents, -, -, -, answered⟩ :=
    ((identified _ found).2 "7" meant).2 [nameless, numbered] first [second] rfl isFirst others
  refine ⟨absent (by decide), (unidentified _ found).1 unread,
    ((unknown _ found).2 "8" strange).1 missing, updated, answered rfl, documents, ?_⟩
  have seen : updated.record = fun field => ((updated.get? field).map Scalar.ofJson).getD .absent :=
    rfl
  simp only [seen, fields]
  decide +kernel

/-- Where a directory stands in the way of the temporary file, the update is answered with the
failure of the save and not with the document, which is changed all the same. -/
theorem update_not_answered :
    let stored := Document.ofFields [("_id", .string "x"), ("a", .number (.integer 1))]
    let changes := Document.ofFields [("_id", .string "x"), ("a", .number (.integer 2))]
    let database : Database :=
      ⟨Memory.ofSnapshot ⟨[("t", [stored])], List.pairwise_singleton ..⟩, some ⟨"data"⟩, false⟩
    let disk : Disk :=
      ⟨[("data", .directory [("tissdb.json.tmp", .directory [])])], []⟩
    let result := database.update disk "now" "t" changes
    database.documents "t" = .ok [stored] ∧ changes.id? = stored.id? ∧ stored.id? = some "x" ∧
    result.answer = .error (.disk .isADirectory) ∧
    ∃ updated, result.database.documents "t" = .ok [updated] ∧
      updated.get? "a" = some (.number (.integer 2)) := by
  intro stored changes database disk result
  have found : database.documents "t" = .ok [stored] := rfl
  have ids : changes.id? = stored.id? ∧ stored.id? = some "x" := by decide +kernel
  have refused : failure? result.answer = some (.disk .isADirectory) := by decide +kernel
  refine ⟨found, ids.1, ids.2, failure?_eq_some_iff.1 refused, stored.updated changes "now", ?_, ?_⟩
  · rfl
  · rfl

end Database

end DocumentStore
