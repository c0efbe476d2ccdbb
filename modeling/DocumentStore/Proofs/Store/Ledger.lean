import DocumentStore.Proofs.Store.Durability
import Mathlib.Data.List.Basic

/-!
# The identifiers of a collection, from the history

The events of a run tell which identifiers a collection has at its end, without a look at the
documents: a ledger of a collection starts empty when the collection comes into being, takes in the
identifiers that insertions draw, and loses those that a removal takes out. An update leaves the
ledger as it is, for it cannot change an identifier.
-/

namespace DocumentStore

namespace Entries

variable {α : Type}

/-- Entries that are put over others hide those of the same names. -/
theorem get?_foldl_put {changes : List (String × α)} (ordered : Ordered changes) (name : String)
    (stored : List (String × α)) :
    get? name (changes.foldl (fun entries entry => put entry.1 entry.2 entries) stored) =
      (get? name changes).or (get? name stored) := by
  induction changes generalizing stored with
  | nil => rfl
  | cons change rest ih =>
    obtain ⟨above, ordered⟩ := List.pairwise_cons.1 ordered
    rw [List.foldl_cons, ih ordered, get?]
    by_cases same : name = change.1
    · have missing : get? name rest = none := by
        refine get?_eq_none_iff.2 fun inside => ?_
        obtain ⟨entry, inside, named⟩ := List.mem_map.1 inside
        exact String.lt_irrefl _ (same ▸ named ▸ above entry inside)
      rw [missing, if_pos same, same, get?_put_self]
      rfl
    · rw [if_neg same, get?_put_of_ne same]

end Entries

namespace Document

/-- The fields of a document after an update: the time of the update, what the changes bring, and
what was stored, the first of them that is there. -/
theorem get?_updated (stored changes : Document) (time field : String) :
    (stored.updated changes time).get? field =
      if field = updatedField then some (.string time)
      else (changes.get? field).or (stored.get? field) := by
  by_cases own : field = updatedField
  · rw [if_pos own, own, updated, get?_set_self]
  · rw [if_neg own, updated, get?_set_of_ne _ own]
    exact Entries.get?_foldl_put changes.ordered.1 field stored.fields

theorem id?_updated {stored changes : Document} {id : String} (identified : changes.id? = some id)
    (time : String) : (stored.updated changes time).id? = some id := by
  obtain ⟨value, found, read⟩ := Option.bind_eq_some_iff.1 identified
  have kept : (stored.updated changes time).get? idField = some value := by
    rw [get?_updated, if_neg (by decide), found, Option.some_or]
  rw [id?, kept]
  exact read

end Document

namespace Collection

theorem ids_without (id : String) (documents : List Document) :
    (without id documents).map Document.id? =
      (documents.map Document.id?).filter fun other => other ≠ some id := by
  rw [without, List.filter_map]
  rfl

/-- Nothing is taken out exactly if no document has the identifier. -/
theorem length_without_eq_iff {id : String} {documents : List Document} :
    (without id documents).length = documents.length ↔
      ∀ document ∈ documents, document.id? ≠ some id := by
  rw [without, List.length_filter_eq_length_iff]
  simp

/-- What an insertion settles of its documents follows from the stamps. -/
theorem map_stampAll {β : Type} {f : Document → β} {settled : Stamp → β}
    (settles : ∀ (document : Document) stamp, f (document.stamped stamp) = settled stamp)
    (supply : Nat → Stamp) (documents : List Document) :
    (stampAll supply documents).map f =
      ((List.range documents.length).map supply).map settled := by
  have positions : documents.zipIdx.map Prod.snd = List.range documents.length := by
    rw [List.zipIdx_map_snd, List.range_eq_range']
  rw [stampAll, ← positions, List.map_map, List.map_map, List.map_map]
  exact List.map_congr_left fun entry _ => settles ..

theorem ids_stampAll (supply : Nat → Stamp) (documents : List Document) :
    (stampAll supply documents).map Document.id? =
      (List.range documents.length).map fun i => some (supply i).id := by
  rw [map_stampAll Document.id?_stamped, List.map_map]
  rfl

end Collection

namespace Snapshot

theorem ids_updateStored (changes : Document) (time : String) (documents : List Document) :
    (updateStored changes time documents).map Document.id? = documents.map Document.id? := by
  unfold updateStored
  split
  · rfl
  · rename_i id identified
    split
    · rfl
    · rename_i updated after found
      obtain ⟨before, stored, rest, rfl, same, rfl, rfl⟩ := Collection.updateFirst?_eq_some found
      simp [same, Document.id?_updated identified]

theorem get?_amend_self (snapshot : Snapshot) (name : String)
    (f : List Document → List Document) :
    (snapshot.amend name f).get? name = (snapshot.get? name).map f := by
  unfold amend
  split
  · rename_i found
    rw [Catalog.get?_insert_self, found]
    rfl
  · rename_i missing
    rw [missing]
    rfl

theorem get?_amend_of_ne (snapshot : Snapshot) {name other : String} (different : name ≠ other)
    (f : List Document → List Document) :
    (snapshot.amend other f).get? name = snapshot.get? name := by
  unfold amend
  split
  · exact snapshot.get?_insert_of_ne different _
  · rfl

end Snapshot

/-! ## What an event says about identifiers -/

namespace Event

/-- Whether an event brings a collection into being: it makes or resets it. -/
def founds (name : String) (event : Event) : Bool :=
  match event.call.operation, event.result.answer with
  | .create other, .ok _ => other = name
  | .ensure other, .ok (.created true) => other = name
  | _, _ => false

/-- Whether an event drops every collection. -/
def clears (event : Event) : Bool :=
  match event.call.operation with
  | .clear => true
  | _ => false

/-- The identifiers that an event draws for new documents, each with the collection that it is
for. -/
def drawn (event : Event) : List (String × String) :=
  match event.call.operation, event.result.answer with
  | .insert name _, .ok _ => [(name, (event.call.supply 0).id)]
  | .insertAll name documents, .ok _ =>
    (List.range documents.length).map fun i => (name, (event.call.supply i).id)
  | _, _ => []

/-- The identifiers that an event draws for new documents of a collection. -/
def assigned (name : String) (event : Event) : List String :=
  (event.drawn.filter fun entry => entry.1 = name).map (·.2)

/-- The collection and the identifier that an event removes, if it removes one. -/
def removed? (event : Event) : Option (String × String) :=
  match event.call.operation, event.result.answer with
  | .remove name id, .ok (.removed true) => some (name, id)
  | _, _ => none

/-- The ledger of a collection after an event; there is none without the collection. -/
def ledger (name : String) (ids? : Option (List String)) (event : Event) : Option (List String) :=
  if event.founds name then some []
  else if event.clears then none
  else ids?.map fun ids =>
    (ids ++ event.assigned name).filter fun id => event.removed? ≠ some (name, id)

end Event

namespace Database

/-- Without a data file, whatever is not rejected is answered. -/
theorem attempt_inMemory {α : Type} {database : Database} (inMemory : database.dataFile? = none)
    (disk : Disk) (change : Except StoreError (Change α)) :
    (database.attempt disk change).answer = change.map Change.answer ∧
      (database.attempt disk change).database.dataFile? = none := by
  cases change with
  | error error => exact ⟨rfl, inMemory⟩
  | ok change => cases saves : change.saves <;> simp [attempt, commit, save, saves, inMemory, Except.map]

end Database

namespace State

variable {state : State}

/-- The collections change as the operation says, whatever becomes of the save. -/
theorem snapshot_next (state : State) (call : Call) :
    (state.next call).snapshot = state.snapshot.afterCall call := by
  have effect := state.database.effect_change call.supply call.operation
  rw [snapshot, next, event, Event.after, Database.perform_eq_attempt, Database.database_attempt]
  generalize state.database.change call.supply call.operation = change at effect
  cases effect with
  | rejected error same => exact same.symm
  | unsaved answer same => exact same.symm
  | saved answer changed => exact changed.symm

theorem inMemory_next (inMemory : state.database.dataFile? = none) (call : Call) :
    (state.next call).database.dataFile? = none := by
  rw [next, event, Event.after, Database.perform_eq_attempt]
  exact (Database.attempt_inMemory inMemory ..).2

theorem answer_event (inMemory : state.database.dataFile? = none) (call : Call) :
    (state.event call).result.answer =
      (state.database.change call.supply call.operation).map Change.answer := by
  rw [event, Database.perform_eq_attempt]
  exact (Database.attempt_inMemory inMemory ..).1

/-- The identifiers of the documents of a collection, if it is there. -/
def ids? (state : State) (name : String) : Option (List (Option String)) :=
  (state.snapshot.get? name).map fun documents => documents.map Document.id?

/-! ## The ledger of an event -/

theorem founds_ensure (inMemory : state.database.dataFile? = none) (supply : Nat → Stamp)
    (name other : String) :
    (state.event ⟨.ensure other, supply⟩).founds name =
      decide (state.snapshot.get? other = none ∧ other = name) := by
  have answered := answer_event inMemory ⟨.ensure other, supply⟩
  have found := state.database.memory.snapshot_get? other
  rw [Event.founds, answered]
  simp only [Database.change, Memory.ensure, snapshot, found]
  cases state.database.memory.live.get? other <;> simp [event, Change.map, Except.map]

theorem drawn_insert (inMemory : state.database.dataFile? = none) (supply : Nat → Stamp)
    (name : String) (document : Document) :
    (state.event ⟨.insert name document, supply⟩).drawn =
      if (state.snapshot.get? name).isSome then [(name, (supply 0).id)] else [] := by
  have answered := answer_event inMemory ⟨.insert name document, supply⟩
  rw [Event.drawn, answered]
  obtain ⟨required, missing⟩ | ⟨collection, required, found⟩ :=
    state.database.memory.require_cases name
  · simp only [Database.change, Memory.insert, required, snapshot, missing]
    rfl
  · simp only [Database.change, Memory.insert, required, snapshot, found]
    rfl

theorem drawn_insertAll (inMemory : state.database.dataFile? = none) (supply : Nat → Stamp)
    (name : String) (documents : List Document) :
    (state.event ⟨.insertAll name documents, supply⟩).drawn =
      if (state.snapshot.get? name).isSome then
        (List.range documents.length).map fun i => (name, (supply i).id)
      else [] := by
  have answered := answer_event inMemory ⟨.insertAll name documents, supply⟩
  rw [Event.drawn, answered]
  obtain ⟨required, missing⟩ | ⟨collection, required, found⟩ :=
    state.database.memory.require_cases name
  · simp only [Database.change, Memory.insertAll, required, snapshot, missing]
    rfl
  · simp only [Database.change, Memory.insertAll, required, snapshot, found]
    rfl

/-- A removal takes out an identifier if a document of the collection has it. -/
theorem removed?_remove (inMemory : state.database.dataFile? = none) (supply : Nat → Stamp)
    (name id : String) :
    (state.event ⟨.remove name id, supply⟩).removed? =
      if (state.ids? name).any (some id ∈ ·) then some (name, id) else none := by
  have answered := answer_event inMemory ⟨.remove name id, supply⟩
  rw [Event.removed?, answered]
  obtain ⟨required, missing⟩ | ⟨collection, required, found⟩ :=
    state.database.memory.require_cases name
  · simp only [Database.change, Memory.remove, required, ids?, snapshot, missing]
    rfl
  · have whole : (Collection.without id collection.documents).length =
        collection.documents.length ↔ some id ∉ collection.documents.map Document.id? := by
      rw [Collection.length_without_eq_iff]
      simp
    have asked : state.database.change supply (.remove name id) =
        (if (Collection.without id collection.documents).length = collection.documents.length then
          .ok ⟨false, state.database.memory, false⟩
        else .ok ⟨true, state.database.memory.replaceDocuments name collection
          (Collection.without id collection.documents), true⟩ :
          Except StoreError (Change Bool)).map (Change.map .removed) := by
      rw [Database.change, Memory.remove, required]
      rfl
    rw [asked, ids?, snapshot, found, Option.map_some, Option.any_some]
    by_cases inside : some id ∈ collection.documents.map Document.id?
    · rw [if_neg fun same => whole.1 same inside, if_pos (decide_eq_true inside)]
      rfl
    · rw [if_pos (whole.2 inside), if_neg (by simpa using inside)]
      rfl

/-- An event that founds nothing, draws nothing and removes nothing leaves a ledger as it is. -/
theorem ledger_of_quiet {event : Event} {name : String} (founds : event.founds name = false)
    (clears : event.clears = false) (assigned : event.assigned name = [])
    (removed : ∀ id, event.removed? ≠ some (name, id)) (ids? : Option (List String)) :
    event.ledger name ids? = ids? := by
  have whole : (fun ids : List String => (ids ++ event.assigned name).filter
      fun id => event.removed? ≠ some (name, id)) = id := by
    funext ids
    simp [assigned, removed]
  rw [Event.ledger, founds, clears, whole]
  simp

section

variable {event : Event} {name other : String} {ids? : Option (List String)}

theorem ids?_found (founds : event.founds name = decide (other = name))
    (clears : event.clears = false) (drawn : event.drawn = []) (removed : event.removed? = none)
    (agrees : state.ids? name = ids?.map fun ids => ids.map some) :
    ((state.snapshot.insert other []).get? name).map
        (fun documents => documents.map Document.id?) =
      (event.ledger name ids?).map fun ids => ids.map some := by
  by_cases same : other = name
  · rw [Event.ledger, founds, decide_eq_true same, same, Catalog.get?_insert_self]
    rfl
  · rw [ledger_of_quiet (by simp [founds, same]) clears (by simp [Event.assigned, drawn])
        (by simp [removed]), Catalog.get?_insert_of_ne _ (Ne.symm same), ← agrees, State.ids?]

theorem ids?_append {drawn : List String} {documents : List Document}
    (founds : event.founds name = false) (clears : event.clears = false)
    (removed : event.removed? = none)
    (stamped : documents.map Document.id? = drawn.map some)
    (drew : event.drawn = if (state.snapshot.get? other).isSome then
      drawn.map fun id => (other, id) else [])
    (agrees : state.ids? name = ids?.map fun ids => ids.map some) :
    ((state.snapshot.amend other (· ++ documents)).get? name).map
        (fun documents => documents.map Document.id?) =
      (event.ledger name ids?).map fun ids => ids.map some := by
  by_cases same : other = name
  · subst same
    rw [Snapshot.get?_amend_self, Event.ledger, founds, clears]
    rw [State.ids?] at agrees
    cases found : state.snapshot.get? other with
    | none =>
      rw [found] at agrees
      cases ids? with
      | none => rfl
      | some ids => cases agrees
    | some stored =>
      rw [found] at agrees
      cases ids? with
      | none => cases agrees
      | some ids =>
        have kept : stored.map Document.id? = ids.map some := Option.some.inj agrees
        have assigned : event.assigned other = drawn := by
          simp [Event.assigned, drew, found, List.filter_map, Function.comp_def, List.filter_true]
        simp [kept, stamped, removed, assigned, List.filter_true]
  · have assigned : event.assigned name = [] := by
      rw [Event.assigned, drew]
      split <;> simp [same]
    rw [ledger_of_quiet founds clears assigned (by simp [removed]),
      Snapshot.get?_amend_of_ne _ (Ne.symm same), ← agrees, State.ids?]

theorem ids?_without {id : String} (founds : event.founds name = false)
    (clears : event.clears = false) (drawn : event.drawn = [])
    (removed : event.removed? = if (state.ids? other).any (some id ∈ ·) then some (other, id) else none)
    (agrees : state.ids? name = ids?.map fun ids => ids.map some) :
    ((state.snapshot.amend other (Collection.without id)).get? name).map
        (fun documents => documents.map Document.id?) =
      (event.ledger name ids?).map fun ids => ids.map some := by
  have assigned : event.assigned name = [] := by simp [Event.assigned, drawn]
  by_cases same : other = name
  · subst same
    have without : ((state.snapshot.get? other).map (Collection.without id)).map
        (fun documents => documents.map Document.id?) =
          (state.ids? other).map fun ids => ids.filter fun id' => id' ≠ some id := by
      rw [State.ids?, Option.map_map, Option.map_map]
      exact congrArg (Option.map · _) (funext (Collection.ids_without id))
    rw [Snapshot.get?_amend_self, without, Event.ledger, founds, clears, assigned]
    rw [agrees] at removed ⊢
    cases ids? with
    | none => rfl
    | some ids =>
      have filtered : (ids.map some).filter (fun id' => id' ≠ some id) =
          (ids.filter fun id' => id' ≠ id).map some := by
        simp [List.filter_map, Function.comp_def]
      rw [Option.map_some, Option.map_some, filtered]
      by_cases inside : id ∈ ids
      · have taken : event.removed? = some (other, id) := by simp [removed, inside]
        simp [taken, eq_comm]
      · have kept : ids.filter (fun id' => id' ≠ id) = ids := by
          refine List.filter_eq_self.2 fun id' member => decide_eq_true ?_
          rintro rfl
          exact inside member
        have nothing : event.removed? = none := by simp [removed, inside]
        rw [kept, nothing]
        simp [List.filter_true]
  · have elsewhere : ∀ id', event.removed? ≠ some (name, id') := by
      intro id'
      rw [removed]
      split <;> simp [same]
    rw [ledger_of_quiet founds clears assigned elsewhere,
      Snapshot.get?_amend_of_ne _ (Ne.symm same), ← agrees, State.ids?]

end

/-- The ledger of every collection goes along with its documents. -/
theorem ids?_next (inMemory : state.database.dataFile? = none) (call : Call) (name : String)
    {ids? : Option (List String)}
    (agrees : state.ids? name = ids?.map fun ids => ids.map some) :
    (state.next call).ids? name =
      ((state.event call).ledger name ids?).map fun ids => ids.map some := by
  obtain ⟨operation, supply⟩ := call
  have snapshot := snapshot_next state ⟨operation, supply⟩
  rw [State.ids?, snapshot]
  cases operation with
  | create other =>
    have founds : (state.event ⟨.create other, supply⟩).founds name = decide (other = name) := by
      rw [Event.founds, answer_event inMemory]
      rfl
    exact ids?_found founds rfl rfl rfl agrees
  | ensure other =>
    have founds := founds_ensure inMemory supply name other
    by_cases present : (state.snapshot.get? other).isSome
    · have stands : state.snapshot.get? other ≠ none := Option.isSome_iff_ne_none.1 present
      rw [ledger_of_quiet (by simp [founds, stands]) rfl rfl (by simp [Event.removed?, event]),
        Snapshot.afterCall, Snapshot.after, if_pos present, ← agrees, State.ids?]
    · rw [Snapshot.afterCall, Snapshot.after, if_neg present]
      rw [decide_eq_decide.2 (and_iff_right (Option.not_isSome_iff_eq_none.1 present))] at founds
      exact ids?_found founds rfl rfl rfl agrees
  | insert other document =>
    have drawn := drawn_insert inMemory supply other document
    have stamped : [document.stamped (supply 0)].map Document.id? = [(supply 0).id].map some := by
      simp
    exact ids?_append rfl rfl rfl stamped drawn agrees
  | insertAll other documents =>
    have drawn := drawn_insertAll inMemory supply other documents
    have stamped : (Collection.stampAll supply documents).map Document.id? =
        ((List.range documents.length).map fun i => (supply i).id).map some := by
      rw [Collection.ids_stampAll, List.map_map]
      rfl
    rw [← Function.comp_def (f := Prod.mk other), ← List.map_map] at drawn
    exact ids?_append rfl rfl rfl stamped drawn agrees
  | update other changes =>
    rw [ledger_of_quiet rfl rfl rfl (by simp [Event.removed?, event]), ← agrees, State.ids?]
    by_cases same : name = other
    · rw [Snapshot.afterCall, Snapshot.after, same, Snapshot.get?_amend_self, Option.map_map]
      exact congrArg (Option.map · _) (funext fun _ => Snapshot.ids_updateStored ..)
    · rw [Snapshot.afterCall, Snapshot.after, Snapshot.get?_amend_of_ne _ same]
  | remove other id =>
    exact ids?_without rfl rfl rfl (removed?_remove inMemory supply other id) agrees
  | clear => rfl
  | flush | names | documents _ | find _ _ | query _ =>
    rw [ledger_of_quiet rfl rfl rfl (by simp [Event.removed?, event]), ← agrees]
    rfl

theorem inMemory_run (inMemory : state.database.dataFile? = none) (calls : List Call) :
    (state.run calls).database.dataFile? = none := by
  induction calls generalizing state with
  | nil => exact inMemory
  | cons call calls ih => exact ih (inMemory_next inMemory call)

/-- What the ledger of a collection says at the end of a run are the identifiers of its
documents. -/
theorem ids?_run (inMemory : state.database.dataFile? = none) (calls : List Call) (name : String)
    {ids? : Option (List String)}
    (agrees : state.ids? name = ids?.map fun ids => ids.map some) :
    (state.run calls).ids? name =
      ((state.history calls).foldl (Event.ledger name) ids?).map fun ids => ids.map some := by
  induction calls generalizing state ids? with
  | nil => exact agrees
  | cons call calls ih =>
    rw [history, List.foldl_cons]
    exact ih (inMemory_next inMemory call) (ids?_next inMemory call name agrees)

end State

end DocumentStore
