import DocumentStore.Proofs.Condition.Spelling
import DocumentStore.Proofs.Store.CreationDates
import DocumentStore.Proofs.Store.Finding
import DocumentStore.Proofs.Store.Saving
import DocumentStore.Proofs.Store.Updating

/-!
# Looking for an identifier

A document can be looked for by its identifier in two ways: by a condition that has the identifier in
quotes, and by an operation that is given it as it is, an update or a removal. The condition is compared
loosely, but a stored document has a text for its identifier, and two texts are equal only if they are
the same. What stands between the quotes is one token whatever it is, as long as it ends neither the
quotation nor the line.
-/

namespace DocumentStore

namespace Condition

/-- The condition that the identifier of a document is a given text. -/
def identified (id : String) : String := "_id = \"" ++ id ++ "\""

/-- The instructions of the condition on an identifier. -/
def identifiedProgram (id : String) : Program :=
  ⟨[.name Document.idField, .literal (.text id), .operator (.comparison .eq)]⟩

variable {id : String}

theorem scan_identified (plain : (Literal.text id).Plain) :
    Token.scan (identified id).toList =
      ([.name Document.idField, .operator (.comparison .eq), .literal (.text id)], []) := by
  have written : (identified id).toList = Document.idField.toList ++ ' ' ::
      (Comparison.eq.symbol.toList ++ ' ' :: (Literal.text id).display.toList) := by
    simp [identified, Document.idField, Comparison.symbol, Literal.display]
  have field : Token.scan Document.idField.toList = ([.name Document.idField], []) :=
    Token.scan_name (by decide) rfl rfl
  rw [written, Token.scan_append_blank field
    (Token.scan_append_blank (Token.scan_comparison_symbol .eq) (Token.scan_literal plain))]
  rfl

theorem ofText_identified (plain : (Literal.text id).Plain) (strict : Bool) :
    ofText strict (identified id) = .ok ⟨identified id, identifiedProgram id⟩ :=
  bind_eq_ok_iff.2 ⟨_, Token.ofText_of_scan (scan_identified plain) strict, rfl⟩

end Condition

theorem Document.record_idField {document : Document} {id : String}
    (identified : document.id? = some id) : document.record idField = .text id := by
  obtain ⟨value, found, read⟩ := Option.bind_eq_some_iff.1 identified
  have same : value = .string id := by
    cases value with
    | string s => exact congrArg Json.string (Option.some.inj read)
    | _ => cases read
  rw [record, Record.ofFields]
  change ((document.get? idField).map Scalar.ofJson).getD .absent = _
  rw [found, same]
  rfl

namespace State

variable {state : State} {calls : List Call} {name : String} {documents : List Document}

/-- In a database that was once empty every document has an identifier. -/
theorem exists_id_of_mem (empty : state.snapshot = Catalog.empty)
    (shown : (state.run calls).database.documents name = .ok documents) {document : Document}
    (inside : document ∈ documents) : ∃ id, document.id? = some id := by
  have found : (state.run calls).snapshot.get? name = some documents :=
    Memory.documents_eq_ok_iff.1 shown
  have listed := ids_run empty calls name
  rw [found] at listed
  obtain ⟨stamp, -, same⟩ := List.mem_map.1 (listed.subset (List.mem_map_of_mem inside))
  exact ⟨stamp.id, same.symm⟩

end State

namespace Database

variable {database : Database} {name id : String} {documents : List Document}

/-- A removal tells whether a document has the identifier, unless it cannot be saved. -/
theorem answer_remove_eq_false_iff (found : database.documents name = .ok documents) (disk : Disk) :
    (database.remove disk name id).answer = .ok false ↔
      ∀ document ∈ documents, document.id? ≠ some id := by
  obtain ⟨collection, required, same⟩ := bind_eq_ok_iff.1 found
  cases same
  rw [← Collection.length_without_eq_iff, remove, Memory.remove, required]
  simp only [bind, Except.bind]
  split
  · rename_i kept
    exact iff_of_true rfl kept
  · rename_i fewer
    refine iff_of_false (fun answered => ?_) fewer
    obtain given | ⟨cause, given⟩ := database.answer_attempt disk
      ⟨true, database.memory.replaceDocuments name collection
        (Collection.without id collection.documents), true⟩
    · cases given.symm.trans answered
    · cases given.symm.trans answered

/-- An update finds its document unless no document has the identifier, be it saved or not. -/
theorem answer_update_eq_itemNotFound_iff (found : database.documents name = .ok documents)
    {changes : Document} (identified : changes.id? = some id) (disk : Disk) (time : String) :
    (database.update disk time name changes).answer = .error (.itemNotFound id name) ↔
      ∀ document ∈ documents, document.id? ≠ some id := by
  constructor
  · intro refused
    obtain ⟨collection, required, same⟩ := bind_eq_ok_iff.1 found
    cases same
    cases stored : Collection.updateFirst? id changes time collection.documents with
    | none => exact Collection.updateFirst?_eq_none_iff.1 stored
    | some outcome =>
      have asked : database.memory.update time name changes = .ok ⟨outcome.1,
          database.memory.replaceDocuments name collection outcome.2, true⟩ := by
        rw [Memory.update, required, identified]
        simp only [bind, Except.bind, stored]
      rw [update, asked] at refused
      obtain given | ⟨cause, given⟩ := database.answer_attempt disk
        ⟨outcome.1, database.memory.replaceDocuments name collection outcome.2, true⟩
      · cases given.symm.trans refused
      · cases given.symm.trans refused
  · intro missing
    rw [update_of_not_stored found identified missing]

/-- Where every document has an identifier, the condition on one finds the documents that have it. -/
theorem find_identified (found : database.documents name = .ok documents)
    (all : ∀ document ∈ documents, ∃ other, document.id? = some other)
    (plain : (Literal.text id).Plain) :
    database.find name (Condition.identified id) =
      .ok (documents.filter fun document => document.id? = some id) := by
  have evaluated (record : Record) : (Condition.mk (Condition.identified id)
      (Condition.identifiedProgram id)).matchRecord record =
        .ok ((record Document.idField).equals (.text id)) := rfl
  rw [find_of_holds found (Condition.ofText_identified plain database.strict) evaluated]
  refine congrArg Except.ok (List.filter_congr fun document inside => ?_)
  obtain ⟨other, has⟩ := all document inside
  rw [Document.record_idField has, has, Scalar.equals]
  simp only [Option.some.injEq]
  rfl

end Database

/-- The document that has an identifier and nothing else. -/
def Document.ofId (id : String) : Document := ofFields [(idField, .string id)]

theorem Document.id?_ofId (id : String) : (ofId id).id? = some id := rfl

namespace State

/-- After any run from an empty database, looking for a document by a condition on its identifier and
by the identifier itself agree, under both ways of scanning. An identifier that has no quote and stays
on its line is one token of the condition, whatever it is made of. The condition finds exactly the
documents that have the identifier, in the order of the collection; it finds none exactly if a removal
answers that there was none, and exactly if an update is refused because there is none. -/
theorem find_identified_agrees {state : State} (empty : state.snapshot = Catalog.empty)
    {calls : List Call} {name : String} {documents : List Document}
    (shown : (state.run calls).database.documents name = .ok documents) {id : String}
    (noQuote : '"' ∉ id.toList) (noFeed : '\n' ∉ id.toList) (noReturn : '\r' ∉ id.toList)
    (strict : Bool) :
    let database : Database := { (state.run calls).database with strict }
    Condition.ofText strict ("_id = \"" ++ id ++ "\"") = .ok ⟨"_id = \"" ++ id ++ "\"",
        ⟨[.name "_id", .literal (.text id), .operator (.comparison .eq)]⟩⟩ ∧
    ∃ found, database.find name ("_id = \"" ++ id ++ "\"") = .ok found ∧
      found = documents.filter (fun document => document.id? = some id) ∧
      (∀ disk, (database.remove disk name id).answer = .ok false ↔ found = []) ∧
      ∀ disk time, (database.update disk time name (Document.ofId id)).answer =
        .error (.itemNotFound id name) ↔ found = [] := by
  intro database
  have plain : (Literal.text id).Plain := ⟨noQuote, noFeed, noReturn⟩
  have stored : database.documents name = .ok documents := shown
  have all (document : Document) (inside : document ∈ documents) :
      ∃ other, document.id? = some other := exists_id_of_mem empty shown inside
  have none (documents : List Document) :
      documents.filter (fun document => document.id? = some id) = [] ↔
        ∀ document ∈ documents, document.id? ≠ some id := by
    simp [List.filter_eq_nil_iff]
  refine ⟨Condition.ofText_identified plain strict, _, Database.find_identified stored all plain, rfl,
    fun disk => ?_, fun disk time => ?_⟩
  · rw [none]
    exact Database.answer_remove_eq_false_iff stored disk
  · rw [none]
    exact Database.answer_update_eq_itemNotFound_iff stored (Document.id?_ofId id) disk time

/-- An identifier that would close a parenthesis and add an alternative, were it not in quotes, and one
that is the same number as two others but not the same text. -/
theorem find_identified_agrees_of_lookalikes :
    let ids : List String := ["30", "30.0", ") OR (1 = 1"]
    let supply (i : Nat) : Stamp := ⟨ids.getD i "", "now"⟩
    let state : State := ⟨Database.inMemory, Disk.empty⟩
    let calls : List Call :=
      [⟨.create "t", supply⟩, ⟨.insertAll "t" [.empty, .empty, .empty], supply⟩]
    let strict := true
    let database : Database := { (state.run calls).database with strict }
    (∃ found, database.find "t" "_id = \") OR (1 = 1\"" = .ok found ∧
      found.map Document.id? = [some ") OR (1 = 1"] ∧
      (database.remove Disk.empty "t" ") OR (1 = 1").answer ≠ .ok false) ∧
    database.find "t" "_id = \"3e1\"" = .ok [] ∧
      (database.remove Disk.empty "t" "3e1").answer = .ok false ∧
      (database.update Disk.empty "now" "t" (Document.ofId "3e1")).answer =
        .error (.itemNotFound "3e1" "t") := by
  intro ids supply state calls strict database
  have stored : ((state.run calls).database.documents "t").map (fun documents =>
      documents.map Document.id?) = .ok (ids.map some) := by decide +kernel
  obtain ⟨documents, shown, stamped⟩ := map_eq_ok_iff.1 stored
  have having (id : String) : (documents.filter fun document => document.id? = some id).map
      Document.id? = (ids.map some).filter fun other => other = some id := by
    rw [← stamped, List.filter_map]
    rfl
  obtain ⟨-, found, finds, rfl, removed, -⟩ := @find_identified_agrees state rfl calls "t" documents
    shown ") OR (1 = 1" (by decide) (by decide) (by decide) strict
  obtain ⟨-, none, findsNone, rfl, notRemoved, notUpdated⟩ := @find_identified_agrees state rfl calls
    "t" documents shown "3e1" (by decide) (by decide) (by decide) strict
  have one := (having ") OR (1 = 1").trans (by decide : _ = [some ") OR (1 = 1"])
  have nothing := List.map_eq_nil_iff.1 ((having "3e1").trans (by decide : _ = []))
  refine ⟨⟨_, finds, one, fun answered => ?_⟩, findsNone.trans (congrArg _ nothing),
    (notRemoved _).2 nothing, (notUpdated _ _).2 nothing⟩
  rw [(removed _).1 answered] at one
  cases one

end State

end DocumentStore
