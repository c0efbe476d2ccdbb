import DocumentStore.Proofs.Store.Durability
import Mathlib.Data.List.Perm.Basic
import Mathlib.Data.List.Nodup

/-!
# Collections that are held

Whoever asks for a collection holds it by its serial number. No two collections have the same one, so
the number tells a collection from all others, those that had its name before or have it after it
included. As long as it stands under its name, the collection is changed there in its place, and the
holder sees every change. Only making a collection of that name anew and clearing the database take it
away; from then on nothing can reach it, and the holder sees what it held at that moment.
-/

namespace DocumentStore

/-- An operation takes away the collection that stands under a name, whatever it holds. -/
def Operation.Replaces (operation : Operation) (name : String) : Prop :=
  operation = .create name ∨ operation = .clear

namespace Memory

variable {memory after : Memory} {operation : Operation} {name : String} {collection : Collection}

/-- The serial numbers of all collections, those that can no longer be reached by name included. -/
def serials (memory : Memory) : List Nat :=
  (memory.live.values ++ memory.retired).map Collection.serial

/-- No two collections have the same serial number, and the next one is new. -/
structure Numbered (memory : Memory) : Prop where
  distinct : memory.serials.Nodup
  below : ∀ serial ∈ memory.serials, serial < memory.nextSerial

theorem serials_replaceDocuments (found : memory.live.get? name = some collection)
    (documents : List Document) :
    (memory.replaceDocuments name collection documents).serials = memory.serials := by
  have stood : (memory.live.map Collection.serial).get? name = some collection.serial := by
    rw [Catalog.get?_map, found]
    rfl
  have same : (memory.live.insert name { collection with documents }).values.map Collection.serial =
      memory.live.values.map Collection.serial := by
    rw [← Catalog.values_map, Catalog.map_insert, Catalog.insert_of_get? stood, Catalog.values_map]
  rw [serials, serials, List.map_append, List.map_append]
  exact congrArg (· ++ _) same

theorem serials_reset (memory : Memory) (name : String) :
    (memory.reset name).serials.Perm (memory.nextSerial :: memory.serials) := by
  let new : Collection := ⟨memory.nextSerial, name, []⟩
  have moved : ((memory.live.insert name new).values ++
      ((memory.live.get? name).toList ++ memory.retired)).Perm
      (new :: (memory.live.values ++ memory.retired)) := by
    rw [← List.append_assoc]
    exact (memory.live.values_insert_perm name new).append_right memory.retired
  exact moved.map Collection.serial

theorem Numbered.reset (numbered : memory.Numbered) (name : String) :
    (memory.reset name).Numbered := by
  have serials := memory.serials_reset name
  refine ⟨serials.nodup_iff.2 (List.nodup_cons.2 ⟨?_, numbered.distinct⟩), ?_⟩
  · exact fun inside => Nat.lt_irrefl _ (numbered.below _ inside)
  · intro serial inside
    rcases List.mem_cons.1 (serials.mem_iff.1 inside) with rfl | old
    · exact Nat.lt_succ_self _
    · exact Nat.lt_succ_of_lt (numbered.below serial old)

/-- A serial number leads to the collection that has it. -/
theorem held?_of_mem (numbered : memory.Numbered)
    (inside : collection ∈ memory.live.values ++ memory.retired) :
    memory.held? collection.serial = some collection := by
  rw [held?]
  cases found : (memory.live.values ++ memory.retired).find?
      fun other => other.serial = collection.serial with
  | none => simpa using List.find?_eq_none.1 found collection inside
  | some other =>
    have same : other.serial = collection.serial := by simpa using List.find?_some found
    have member := List.mem_of_find?_eq_some found
    rw [List.inj_on_of_nodup_map numbered.distinct member inside same]

theorem held?_of_get? (numbered : memory.Numbered)
    (found : memory.live.get? name = some collection) :
    memory.held? collection.serial = some collection := by
  have listed : collection ∈ memory.live.values :=
    List.mem_map.2 ⟨_, Entries.mem_of_get? found, rfl⟩
  exact held?_of_mem numbered (List.mem_append_left _ listed)

theorem serials_number (first : Nat) (entries : List (String × List Document)) :
    (number first entries).map (fun entry => entry.2.serial) = List.range' first entries.length := by
  induction entries generalizing first with
  | nil => rfl
  | cons entry rest ih => rw [number, List.map_cons, ih, List.length_cons, List.range'_succ]

theorem numbered_ofSnapshot (snapshot : Snapshot) : (ofSnapshot snapshot).Numbered := by
  have serials : (ofSnapshot snapshot).serials = List.range' 0 snapshot.entries.length := by
    rw [← serials_number, serials, ofSnapshot, List.append_nil, Catalog.values, List.map_map]
    rfl
  refine ⟨serials ▸ List.nodup_range', fun serial inside => ?_⟩
  rw [serials, List.mem_range'_1, Nat.zero_add] at inside
  exact inside.2

theorem numbered_empty : empty.Numbered :=
  ⟨List.nodup_nil, fun _ inside => absurd inside List.not_mem_nil⟩

/-! ## What operations make of the collections -/

/-- What an operation can make of the collections in memory. -/
inductive Move (operation : Operation) (memory : Memory) : Memory → Prop
  | kept : Move operation memory memory
  | amended {name : String} {collection : Collection}
    (found : memory.live.get? name = some collection) (documents : List Document) :
    Move operation memory (memory.replaceDocuments name collection documents)
  | made {name : String} (missing : memory.live.get? name = none) :
    Move operation memory (memory.reset name)
  | remade {name : String} (asked : operation = .create name) :
    Move operation memory (memory.reset name)
  | cleared (asked : operation = .clear) : Move operation memory memory.clear.memory

namespace Move

theorem numbered (move : Move operation memory after) (numbered : memory.Numbered) :
    after.Numbered := by
  cases move with
  | kept => exact numbered
  | amended found documents =>
    have serials := serials_replaceDocuments found documents
    exact ⟨serials ▸ numbered.distinct, serials ▸ numbered.below⟩
  | made | remade => exact numbered.reset _
  | cleared => exact ⟨numbered.distinct, numbered.below⟩

/-- A collection that is not replaced stays under its name; at most its documents change. -/
theorem get?_of_spared (move : Move operation memory after) (spared : ¬ operation.Replaces name)
    (found : memory.live.get? name = some collection) :
    ∃ documents, after.live.get? name = some { collection with documents } := by
  cases move with
  | kept => exact ⟨collection.documents, found⟩
  | @amended other stood there documents =>
    by_cases same : name = other
    · subst same
      cases found.symm.trans there
      exact ⟨documents, Catalog.get?_insert_self ..⟩
    · exact ⟨collection.documents, (Catalog.get?_insert_of_ne _ same _).trans found⟩
  | @made other missing =>
    have different : name ≠ other := by
      rintro rfl
      rw [found] at missing
      cases missing
    exact ⟨collection.documents, (Catalog.get?_insert_of_ne _ different _).trans found⟩
  | @remade other asked =>
    have different : name ≠ other := by
      rintro rfl
      exact spared (.inl asked)
    exact ⟨collection.documents, (Catalog.get?_insert_of_ne _ different _).trans found⟩
  | cleared asked => exact absurd (.inr asked) spared

/-- Nothing brings a collection back that can no longer be reached by name, nor changes it. -/
theorem mem_retired (move : Move operation memory after) (retired : collection ∈ memory.retired) :
    collection ∈ after.retired := by
  cases move with
  | kept | amended => exact retired
  | made | remade | cleared => exact List.mem_append_right _ retired

end Move

end Memory

namespace Database

theorem move_of_change {database : Database} {supply : Nat → Stamp} {operation : Operation}
    {change : Change Answer} (asked : database.change supply operation = .ok change) :
    Memory.Move operation database.memory change.memory := by
  cases operation with
  | create name =>
    cases asked
    exact .remade rfl
  | clear =>
    cases asked
    exact .cleared rfl
  | flush | names =>
    cases asked
    exact .kept
  | ensure name =>
    cases asked
    change Memory.Move _ _ (database.memory.ensure name).memory
    unfold Memory.ensure
    split
    · exact .kept
    · rename_i missing
      exact .made missing
  | insert name document | insertAll name documents =>
    obtain ⟨_, inserted, rfl⟩ := map_eq_ok_iff.1 asked
    obtain ⟨collection, required, stored⟩ := bind_eq_ok_iff.1 inserted
    cases stored
    exact .amended (Memory.require_eq_ok_iff.1 required) _
  | update name changes =>
    obtain ⟨_, updated, rfl⟩ := map_eq_ok_iff.1 asked
    obtain ⟨collection, required, stored⟩ := bind_eq_ok_iff.1 updated
    split at stored
    · cases stored
    · split at stored
      · cases stored
      · cases stored
        exact .amended (Memory.require_eq_ok_iff.1 required) _
  | remove name id =>
    obtain ⟨_, removed, rfl⟩ := map_eq_ok_iff.1 asked
    obtain ⟨collection, required, stored⟩ := bind_eq_ok_iff.1 removed
    dsimp only at stored
    split at stored
    · cases stored
      exact .kept
    · cases stored
      exact .amended (Memory.require_eq_ok_iff.1 required) _
  | documents name | find name condition | query statement =>
    obtain ⟨documents, -, rfl⟩ := map_eq_ok_iff.1 asked
    exact .kept

end Database

namespace State

/-- The collections after a call, whatever becomes of its save. -/
theorem memory_next (state : State) (call : Call) :
    (state.next call).database.memory =
      match state.database.change call.supply call.operation with
      | .ok change => change.memory
      | .error _ => state.database.memory := by
  rw [next, event, Event.after, Database.perform_eq_attempt, Database.database_attempt]
  cases state.database.change call.supply call.operation <;> rfl

theorem move_next (state : State) (call : Call) :
    Memory.Move call.operation state.database.memory (state.next call).database.memory := by
  rw [memory_next]
  cases asked : state.database.change call.supply call.operation with
  | error error => exact .kept
  | ok change => exact Database.move_of_change asked

/-- A collection that is replaced can no longer be reached by name, but is still there. -/
theorem mem_retired_next {state : State} {call : Call} {name : String} {collection : Collection}
    (replaced : call.operation.Replaces name)
    (found : state.database.memory.live.get? name = some collection) :
    collection ∈ (state.next call).database.memory.retired := by
  obtain ⟨operation, supply⟩ := call
  rw [memory_next]
  rcases replaced with rfl | rfl
  · exact List.mem_append_left _ (Option.mem_toList.2 found)
  · exact List.mem_append_left _ (List.mem_map.2 ⟨_, Entries.mem_of_get? found, rfl⟩)

/-! ## Runs -/

/-- The states of a database in use: it is opened, whatever the disk holds, calls are carried out, and
between them the disk may be changed by others. -/
inductive Reachable : State → Prop
  | opened {settings : Settings} {before after : Disk} {database : Database}
    (loaded : Database.load settings before = (.ok database, after)) : Reachable ⟨database, after⟩
  | next {state : State} (reached : Reachable state) (call : Call) : Reachable (state.next call)
  | disturbed {state : State} (reached : Reachable state) (disk : Disk) :
    Reachable ⟨state.database, disk⟩

theorem Reachable.numbered {state : State} (reachable : state.Reachable) :
    state.database.memory.Numbered := by
  induction reachable with
  | opened loaded =>
    rw [Database.load] at loaded
    split at loaded
    · dsimp only at loaded
      split at loaded
      · cases loaded
      · cases loaded
        exact Memory.numbered_ofSnapshot _
    · cases loaded
      exact Memory.numbered_empty
  | next reached call ih => exact (move_next _ call).numbered ih
  | disturbed reached disk ih => exact ih

variable {state : State} {name : String} {collection : Collection}

theorem Reachable.run (reachable : state.Reachable) (calls : List Call) :
    (state.run calls).Reachable := by
  induction calls generalizing state with
  | nil => exact reachable
  | cons call calls ih => exact ih (reachable.next call)

theorem get?_run_of_spared {calls : List Call}
    (spared : ∀ call ∈ calls, ¬ call.operation.Replaces name)
    (found : state.database.memory.live.get? name = some collection) :
    ∃ documents,
      (state.run calls).database.memory.live.get? name = some { collection with documents } := by
  induction calls generalizing state collection with
  | nil => exact ⟨collection.documents, found⟩
  | cons call calls ih =>
    obtain ⟨first, spared⟩ := List.forall_mem_cons.1 spared
    obtain ⟨documents, stands⟩ := (state.move_next call).get?_of_spared first found
    obtain ⟨others, stillStands⟩ := ih spared stands
    exact ⟨others, stillStands⟩

theorem mem_retired_run (retired : collection ∈ state.database.memory.retired) (calls : List Call) :
    collection ∈ (state.run calls).database.memory.retired := by
  induction calls generalizing state with
  | nil => exact retired
  | cons call calls ih => exact ih ((state.move_next call).mem_retired retired)

/-- The documents that the holder of a collection sees. -/
def held? (state : State) (serial : Nat) : Option (List Document) :=
  (state.database.memory.held? serial).map Collection.documents

/-- Whoever asked for a collection sees, after any calls that neither make a collection of that name nor
clear the database, the documents that stand under the name. From the first call on that does, whether
or not it could be saved, and whatever is done then, that stays what the holder sees. -/
theorem run_held (reachable : state.Reachable)
    (required : state.database.memory.require name = .ok collection) {calls : List Call}
    (spared : ∀ call ∈ calls, ¬ call.operation.Replaces name) :
    ∃ documents, (state.run calls).database.documents name = .ok documents ∧
      (state.run calls).held? collection.serial = some documents ∧
      ∀ call, call.operation.Replaces name → ∀ later,
        (state.run (calls ++ call :: later)).held? collection.serial = some documents := by
  obtain ⟨documents, stands⟩ := get?_run_of_spared spared (Memory.require_eq_ok_iff.1 required)
  refine ⟨documents, ?_, ?_, ?_⟩
  · rw [Database.documents, Memory.documents_eq_ok_iff, Memory.snapshot_get?, stands]
    rfl
  · have found := Memory.held?_of_get? (reachable.run calls).numbered stands
    exact congrArg (Option.map Collection.documents) found
  · intro call replaced later
    have retired := mem_retired_run (mem_retired_next replaced stands) later
    have whole : state.run (calls ++ call :: later) =
        ((state.run calls).next call).run later := List.foldl_append ..
    have numbered := (((reachable.run calls).next call).run later).numbered
    have found := Memory.held?_of_mem numbered (List.mem_append_right _ retired)
    rw [whole]
    exact congrArg (Option.map Collection.documents) found

/-- A collection that is held while a document is inserted into it; then another one takes its name and
is filled, and at last everything is cleared. -/
theorem run_held_of_tasks :
    let named (id : String) (operation : Operation) : Call := ⟨operation, fun _ => ⟨id, "now"⟩⟩
    let state : State := (⟨Database.inMemory, Disk.empty⟩ : State).run
      [named "-" (.create "tasks"), named "a" (.insert "tasks" .empty)]
    let calls := [named "-" (.ensure "tasks"), named "b" (.insert "tasks" .empty)]
    let later := [named "c" (.insert "tasks" .empty), named "-" .clear, named "-" (.ensure "tasks")]
    ∃ collection documents, state.database.memory.require "tasks" = .ok collection ∧
      documents.map Document.id? = [some "a", some "b"] ∧
      (state.run calls).held? collection.serial = some documents ∧
      (state.run (calls ++ named "-" (.create "tasks") :: later)).held? collection.serial =
        some documents := by
  intro named state calls later
  have reachable : state.Reachable :=
    (@Reachable.opened Settings.inMemory Disk.empty _ _ rfl).run _
  have ids : ((state.run calls).database.documents "tasks").map
      (fun documents => documents.map Document.id?) = .ok [some "a", some "b"] := by decide +kernel
  have serial : (state.database.memory.require "tasks").map Collection.serial = .ok 0 := by
    decide +kernel
  obtain ⟨collection, required, -⟩ := map_eq_ok_iff.1 serial
  have spared : ∀ call ∈ calls, ¬ call.operation.Replaces "tasks" := by
    simp [calls, named, Operation.Replaces]
  obtain ⟨documents, stored, held, frozen⟩ := run_held reachable required spared
  rw [stored] at ids
  exact ⟨collection, documents, required, Except.ok.inj ids, held, frozen _ (.inl rfl) later⟩

end State

end DocumentStore
