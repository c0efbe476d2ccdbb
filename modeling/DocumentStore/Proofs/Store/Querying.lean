import DocumentStore.Database
import DocumentStore.Proofs.Condition.Trimming
import DocumentStore.Proofs.Except
import DocumentStore.Proofs.Statement.Clauses
import Mathlib.Data.List.Basic

/-!
# Statements and conditions

A statement finds what its condition finds by itself, as far as the condition is read: blanks around
it make no difference, but a statement has its condition on one line. What stands on a further line
is dropped, although a condition by itself may go over several lines.
-/

namespace DocumentStore

open Text

/-- Only the program of a condition decides what a collection finds, not its text. -/
theorem Collection.find_source (collection : Collection) (source other : String)
    (program : Program) :
    collection.find ⟨source, program⟩ = collection.find ⟨other, program⟩ := by
  have matching_eq : ∀ documents,
      matching ⟨source, program⟩ documents = matching ⟨other, program⟩ documents := by
    intro documents
    induction documents with
    | nil => rfl
    | cons document rest ih =>
      rw [matching, matching, ih]
      rfl
  rw [find, find, matching_eq]
  rfl

namespace Database

variable {database : Database} {name text : String} {documents : List Document}

/-- What finding goes through before it answers. -/
theorem find_eq_ok_iff :
    database.find name text = .ok documents ↔
      ∃ collection tokens program, database.memory.require name = .ok collection ∧
        Token.ofText database.strict text = .ok tokens ∧ Program.ofTokens tokens = .ok program ∧
        collection.find ⟨text, program⟩ = .ok documents := by
  constructor
  · intro found
    obtain ⟨collection, required, found⟩ := bind_eq_ok_iff.1 found
    obtain ⟨condition, compiled, found⟩ := bind_eq_ok_iff.1 found
    obtain ⟨tokens, scanned, compiled⟩ := bind_eq_ok_iff.1 (mapError_eq_ok_iff.1 compiled)
    obtain ⟨program, assembled, same⟩ := bind_eq_ok_iff.1 compiled
    cases same
    exact ⟨collection, tokens, program, required, scanned, assembled, mapError_eq_ok_iff.1 found⟩
  · rintro ⟨collection, tokens, program, required, scanned, assembled, found⟩
    have compiled : Condition.ofText database.strict text = .ok ⟨text, program⟩ :=
      bind_eq_ok_iff.2 ⟨tokens, scanned, bind_eq_ok_iff.2 ⟨program, assembled, rfl⟩⟩
    exact bind_eq_ok_iff.2 ⟨collection, required,
      bind_eq_ok_iff.2 ⟨_, mapError_eq_ok_iff.2 compiled, mapError_eq_ok_iff.2 found⟩⟩

/-- Blanks around a condition make no difference to what it finds. -/
theorem find_trim :
    database.find name (String.ofList (trim text.toList)) = .ok documents ↔
      database.find name text = .ok documents := by
  rw [find_eq_ok_iff, find_eq_ok_iff]
  constructor
  · rintro ⟨collection, tokens, program, required, scanned, assembled, found⟩
    rw [collection.find_source _ text] at found
    exact ⟨collection, tokens, program, required, Token.ofText_trim.1 scanned, assembled, found⟩
  · rintro ⟨collection, tokens, program, required, scanned, assembled, found⟩
    rw [collection.find_source _ (String.ofList (trim text.toList))] at found
    exact ⟨collection, tokens, program, required, Token.ofText_trim.2 scanned, assembled, found⟩

theorem query_of_read {statement : Statement} (read : Statement.read text = .ok statement) :
    database.query text = database.find statement.collection statement.condition := by
  rw [query, mapError_eq_ok_iff.2 read]
  rfl

/-- A statement that takes all columns of a collection finds what the first line of its condition
finds, apart from blanks before it. So it finds what the condition finds by itself if nothing but
blanks stands on the other lines. The name of the collection must not end in the keyword of the
condition. -/
theorem query_finds_firstLine (database : Database) {name : String} (named : IsWord name.toList)
    (other : Statement.endsIn "where" name.toList = false) (condition : String) :
    database.query ("SELECT * FROM " ++ name ++ " WHERE " ++ condition) =
      database.find name (String.ofList (Statement.firstLine condition.toList)) ∧
    ('\n' ∉ trim condition.toList → ∀ documents,
      database.find name condition = .ok documents ↔
        database.query ("SELECT * FROM " ++ name ++ " WHERE " ++ condition) = .ok documents) := by
  have all : "SELECT " ++ "*" ++ " FROM " = "SELECT * FROM " := rfl
  have read := @Statement.read_select "*" name (by decide) named "*" condition fun _ _ _ => rfl
  have notFrom : Statement.endsIn "from" "*".toList = false := rfl
  have notWhere : Statement.endsIn "where" "*".toList = false := rfl
  rw [all, notFrom, notWhere, other] at read
  have asked : database.query ("SELECT * FROM " ++ name ++ " WHERE " ++ condition) =
      database.find name (String.ofList (Statement.firstLine condition.toList)) :=
    query_of_read read
  refine ⟨asked, ?_⟩
  intro oneLine documents
  rw [asked, Statement.firstLine_eq_trim oneLine]
  exact find_trim.symm

/-- A condition between blanks, of which one is a line feed. -/
theorem query_finds_firstLine_of_tasks :
    let task : String → Int → Document := fun id rank =>
      Document.ofFields [("_id", .string id), ("rank", .number (.integer rank))]
    let stored := [task "a" 3, task "b" 5, task "c" 7]
    let database : Database :=
      ⟨Memory.ofSnapshot ⟨[("tasks", stored)], List.pairwise_singleton ..⟩, none, true⟩
    ∃ documents, database.find "tasks" "\n rank >= 5 " = .ok documents ∧
      documents.map Document.id? = [some "b", some "c"] ∧
      database.query "SELECT * FROM tasks WHERE \n rank >= 5 " = .ok documents := by
  intro task stored database
  have found : (database.find "tasks" "\n rank >= 5 ").map (fun documents =>
      documents.map Document.id?) = .ok [some "b", some "c"] := by decide +kernel
  obtain ⟨documents, found, ids⟩ := map_eq_ok_iff.1 found
  have oneLine : '\n' ∉ trim "\n rank >= 5 ".toList := by decide
  have named : IsWord "tasks".toList := by decide
  have agrees := (query_finds_firstLine database named rfl "\n rank >= 5 ").2 oneLine documents
  exact ⟨documents, found, ids, agrees.1 found⟩

/-- A statement does not always find what its condition finds: the second line of a condition is
dropped, and more documents are found. -/
theorem query_drops_second_line :
    ¬ ∀ (database : Database) (name condition : String), IsWord name.toList →
      Statement.endsIn "where" name.toList = false → ∀ documents,
      database.find name condition = .ok documents →
      database.query ("SELECT * FROM " ++ name ++ " WHERE " ++ condition) = .ok documents := by
  intro agrees
  let task : String → Int → Document := fun id rank =>
    Document.ofFields [("_id", .string id), ("done", .number (.integer 1)),
      ("rank", .number (.integer rank))]
  let database : Database := ⟨Memory.ofSnapshot
    ⟨[("tasks", [task "a" 1, task "b" 2])], List.pairwise_singleton ..⟩, none, false⟩
  have found : (database.find "tasks" "done = 1\nAND rank = 2").map (fun documents =>
      documents.map Document.id?) = .ok [some "b"] := by decide +kernel
  have queried : (database.query "SELECT * FROM tasks WHERE done = 1\nAND rank = 2").map
      (fun documents => documents.map Document.id?) = .ok [some "a", some "b"] := by
    decide +kernel
  obtain ⟨documents, found, ids⟩ := map_eq_ok_iff.1 found
  have claimed : database.query "SELECT * FROM tasks WHERE done = 1\nAND rank = 2" =
      .ok documents := agrees database "tasks" _ (by decide) rfl documents found
  obtain ⟨others, same, otherIds⟩ := map_eq_ok_iff.1 queried
  rw [claimed] at same
  rw [← Except.ok.inj same, ids] at otherIds
  exact absurd otherIds (by decide)

end Database

end DocumentStore
