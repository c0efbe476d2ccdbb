import DocumentStore.Proofs.Store.Numbers
import DocumentStore.Service

/-!
# Requests as calls

Answering a request carries out calls of operations, none or one and for an insertion two of them.
The documents that these calls bring stand in the body of the request, so all their numbers were
read from a text.
-/

namespace DocumentStore

/-- The documents that a command brings. -/
def Command.brought : Command → List Document
  | .insert _ item | .update _ item => [item]
  | .bulkInsert _ items => items
  | _ => []

/-- A state after a result. -/
def Result.state {α : Type} (result : Result α) : State := ⟨result.database, result.disk⟩

theorem Command.state_execute (command : Command) (state : State) (supply : Nat → Stamp) :
    ∃ calls : List Call, (∀ call ∈ calls, call.operation.brought ⊆ command.brought) ∧
      (command.execute state.database state.disk supply).state = state.run calls := by
  have single (operation : Operation) (within : operation.brought ⊆ command.brought) :
      ∀ call ∈ [(⟨operation, supply⟩ : Call)], call.operation.brought ⊆ command.brought :=
    List.forall_mem_singleton.2 within
  cases command with
  | createCollection name => exact ⟨_, single (.create name) (List.Subset.refl _), rfl⟩
  | insert name item =>
    rcases ensured : (state.database.ensure state.disk name).answer with error | made
    · refine ⟨_, single (.ensure name) (List.nil_subset _), ?_⟩
      rw [execute, Result.andThen, ensured]
      rfl
    · refine ⟨[⟨.ensure name, supply⟩, ⟨.insert name item, supply⟩], ?_, ?_⟩
      · exact List.forall_mem_cons.2 ⟨List.nil_subset _, single (.insert name item) (List.Subset.refl _)⟩
      · rw [execute, Result.andThen, ensured]
        rfl
  | update name item => exact ⟨_, single (.update name item) (List.Subset.refl _), rfl⟩
  | remove name id => exact ⟨_, single (.remove name id) (List.Subset.refl _), rfl⟩
  | bulkInsert name items => exact ⟨_, single (.insertAll name items) (List.Subset.refl _), rfl⟩
  | deleteDb => exact ⟨_, single .clear (List.Subset.refl _), rfl⟩
  | find name condition | exportCollection name | query statement => exact ⟨[], nofun, rfl⟩

namespace Argument

variable {α : Type} {read : Json → Except ArgumentError α} {name : String}
  {fields : List (String × Json)}

theorem present_eq_ok_iff {value? : Option α} {value : α} :
    present name value? = .ok value ↔ value? = some value := by
  cases value? with
  | none => exact ⟨nofun, nofun⟩
  | some other =>
    exact ⟨fun there => congrArg some (Except.ok.inj there),
      fun same => congrArg Except.ok (Option.some.inj same)⟩

theorem optional_eq_ok_iff {value : α} :
    optional read name fields = .ok (some value) ↔
      ∃ json, Entries.get? name fields = some json ∧ read json = .ok value := by
  unfold optional
  cases Entries.get? name fields with
  | none => exact ⟨nofun, nofun⟩
  | some json =>
    refine map_eq_ok_iff.trans ⟨?_, ?_⟩
    · rintro ⟨_, read, ⟨⟩⟩
      exact ⟨json, rfl, read⟩
    · rintro ⟨_, ⟨⟩, read⟩
      exact ⟨value, read, rfl⟩

theorem text_eq_ok_iff {json : Json} {s : String} : text json = .ok s ↔ json = .string s := by
  cases json with
  | string t =>
    exact ⟨fun read => congrArg Json.string (Except.ok.inj read),
      fun same => congrArg Except.ok (Json.string.inj same)⟩
  | null | bool | number | array | object => exact ⟨nofun, nofun⟩

theorem withCollection_eq_ok_iff {collection : String} {value : α} :
    withCollection read name fields = .ok (collection, value) ↔
      Entries.get? collectionName fields = some (.string collection) ∧
        ∃ json, Entries.get? name fields = some json ∧ read json = .ok value := by
  constructor
  · intro found
    obtain ⟨collection?, named, found⟩ := bind_eq_ok_iff.1 found
    obtain ⟨value?, given, found⟩ := bind_eq_ok_iff.1 found
    obtain ⟨collection', first, found⟩ := bind_eq_ok_iff.1 found
    obtain ⟨value', second, same⟩ := bind_eq_ok_iff.1 found
    cases same
    rw [present_eq_ok_iff.1 first] at named
    rw [present_eq_ok_iff.1 second] at given
    obtain ⟨json, stands, isText⟩ := optional_eq_ok_iff.1 named
    rw [text_eq_ok_iff.1 isText] at stands
    exact ⟨stands, optional_eq_ok_iff.1 given⟩
  · rintro ⟨named, given⟩
    have first : optional text collectionName fields = .ok (some collection) :=
      optional_eq_ok_iff.2 ⟨_, named, rfl⟩
    rw [withCollection, first, optional_eq_ok_iff.2 given]
    rfl

theorem numbers_document {json : Json} {item : Document} (read : document json = .ok item)
    {n : Number} (inside : n ∈ item.numbers) : n ∈ json.numbers := by
  cases json with
  | object fields =>
    cases read
    exact Document.numbers_ofFields inside
  | null | bool | number | string | array => cases read

theorem numbers_documents {json : Json} {items : List Document} (read : documents json = .ok items)
    {item : Document} (member : item ∈ items) {n : Number} (inside : n ∈ item.numbers) :
    n ∈ json.numbers := by
  cases json with
  | array values =>
    obtain ⟨value, listed, read⟩ := exists_of_mapM_eq_ok read member
    exact Json.mem_numbersOfItems.2 ⟨value, listed, numbers_document read inside⟩
  | null | bool | number | string | object => cases read

end Argument

/-- The numbers of the documents that a command brings stand in its arguments. -/
theorem Command.numbers_brought {fields : List (String × Json)} {action : Action}
    {command : Command} (read : ofFields fields action = .ok command) {document : Document}
    (brought : document ∈ command.brought) {n : Number} (inside : n ∈ document.numbers) :
    n ∈ Json.numbersOfFields fields := by
  cases action with
  | insert | update =>
    obtain ⟨⟨collection, item⟩, found, same⟩ := bind_eq_ok_iff.1 read
    cases same
    obtain ⟨-, json, stands, read⟩ := Argument.withCollection_eq_ok_iff.1 found
    rw [List.mem_singleton.1 brought] at inside
    exact Json.mem_numbersOfFields.2
      ⟨_, Entries.mem_of_get? stands, Argument.numbers_document read inside⟩
  | bulkInsert =>
    obtain ⟨⟨collection, items⟩, found, same⟩ := bind_eq_ok_iff.1 read
    cases same
    obtain ⟨-, json, stands, read⟩ := Argument.withCollection_eq_ok_iff.1 found
    exact Json.mem_numbersOfFields.2
      ⟨_, Entries.mem_of_get? stands, Argument.numbers_documents read brought inside⟩
  | createCollection | exportCollection | query | remove =>
    obtain ⟨_, -, same⟩ := bind_eq_ok_iff.1 read
    cases same
    cases brought
  | find =>
    obtain ⟨name?, -, read⟩ := bind_eq_ok_iff.1 read
    obtain ⟨condition?, -, read⟩ := bind_eq_ok_iff.1 read
    obtain ⟨name, -, same⟩ := bind_eq_ok_iff.1 read
    cases same
    cases brought
  | deleteDb =>
    cases read
    cases brought

namespace Service

theorem fits_of_readBody {body : ByteArray} {value : Json} (read : readBody body = .ok value)
    {n : Number} (inside : n ∈ value.numbers) : n.Fits := by
  unfold readBody at read
  split at read
  · cases read
    cases inside
  · split at read
    · rename_i parsed found
      cases read
      obtain ⟨text, -, found⟩ := Option.bind_eq_some_iff.1 found
      exact Json.fits_of_read? found (Json.numbers_arrange inside)
    · cases read

theorem readCommand_eq_ok {value : Json} {command : Command}
    (read : readCommand value = .ok command) :
    ∃ action, Command.ofFields (fieldsOf value) action = .ok command := by
  unfold readCommand at read
  dsimp only at read
  split at read
  · cases read
  · split at read
    · cases read
    · rename_i action _
      exact ⟨action, mapError_eq_ok_iff.1 read⟩
  · cases read

theorem readBody_toUTF8 {text : String} {value : Json} (read : Json.read? text.toList = some value) :
    readBody text.toUTF8 = .ok value.arrange := by
  have notEmpty : text ≠ "" := by
    rintro rfl
    rw [Json.read?, Json.readIgnoring?, String.toList_empty, Json.Lexeme.readAll?] at read
    cases read
  have bytes : text.toUTF8.isEmpty = false := by
    rw [String.toUTF8_eq_toByteArray, ByteArray.isEmpty, beq_eq_false_iff_ne]
    exact fun none => notEmpty (String.utf8ByteSize_eq_zero_iff.1 none)
  have back : String.fromUTF8? text.toUTF8 = some text := by
    rw [String.toUTF8_eq_toByteArray, String.fromUTF8?, dif_pos (String.isValidUTF8 _)]
    rfl
  rw [readBody, bytes, back, Option.bind_some, read]
  rfl

theorem readCommand_insert (name : String) (fields : List (String × Json)) :
    readCommand (.object [("action", .string "insert"), ("collectionName", .string name),
      ("item", .object fields)]) = .ok (.insert name (Document.ofFields fields)) := by
  have known : Action.ofName? "insert" = some .insert := by decide
  simp only [readCommand, fieldsOf, Entries.get?, if_true, known]
  rfl

/-- The documents that a request brings have numbers that fit. -/
theorem numbersFit_of_read {request : Request} {command : Command}
    (read : Service.read request = .ok command) :
    ∀ document ∈ command.brought, document.NumbersFit := by
  intro document brought n inside
  obtain ⟨value, readBody, read⟩ := bind_eq_ok_iff.1 read
  split at read
  · obtain ⟨action, readFields⟩ := readCommand_eq_ok read
    have within := Command.numbers_brought readFields brought inside
    refine fits_of_readBody readBody ?_
    cases value with
    | object fields => exact within
    | null | bool | number | string | array => cases within
  · cases read

end Service

/-- A request together with the stamps that its answer may use. -/
structure Exchange where
  request : Request
  supply : Nat → Stamp

namespace State

/-- The state after a request is answered. -/
def answer (state : State) (exchange : Exchange) : State :=
  let (_, database, disk) :=
    Service.respond state.database state.disk exchange.supply exchange.request
  ⟨database, disk⟩

/-- The state after several requests are answered. -/
def serve (state : State) (exchanges : List Exchange) : State := exchanges.foldl answer state

theorem answer_of_read {exchange : Exchange} {command : Command}
    (read : Service.read exchange.request = .ok command) (state : State) :
    state.answer exchange = (command.execute state.database state.disk exchange.supply).state := by
  rw [answer, Service.respond, read]
  dsimp only
  split <;> rfl

/-- Answering a request is a run of calls that bring documents with numbers that fit. -/
theorem answer_eq_run (state : State) (exchange : Exchange) :
    ∃ calls : List Call,
      (∀ call ∈ calls, ∀ document ∈ call.operation.brought, document.NumbersFit) ∧
      state.answer exchange = state.run calls := by
  rcases read : Service.read exchange.request with refusal | command
  · refine ⟨[], nofun, ?_⟩
    rw [answer, Service.respond, read]
    rfl
  · obtain ⟨calls, brought, done⟩ := command.state_execute state exchange.supply
    refine ⟨calls, fun call member document inside =>
      Service.numbersFit_of_read read document (brought call member inside), ?_⟩
    rw [answer_of_read read, done]

theorem serve_eq_run (state : State) (exchanges : List Exchange) :
    ∃ calls : List Call,
      (∀ call ∈ calls, ∀ document ∈ call.operation.brought, document.NumbersFit) ∧
      state.serve exchanges = state.run calls := by
  induction exchanges generalizing state with
  | nil => exact ⟨[], nofun, rfl⟩
  | cons exchange rest ih =>
    obtain ⟨calls, fit, answered⟩ := state.answer_eq_run exchange
    obtain ⟨others, othersFit, served⟩ := ih (state.answer exchange)
    refine ⟨calls ++ others, List.forall_mem_append.2 ⟨fit, othersFit⟩, ?_⟩
    rw [run, List.foldl_append]
    change (state.answer exchange).serve rest = (state.run calls).run others
    rw [served, answered]

end State

end DocumentStore
