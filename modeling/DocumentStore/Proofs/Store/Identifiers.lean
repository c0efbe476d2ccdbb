import DocumentStore.Proofs.Store.Ledger
import Mathlib.Data.List.Induction
import Mathlib.Data.List.Nodup

/-!
# Identifiers of documents

As long as no identifier is drawn twice, no document is lost, duplicated or moved: a collection
lists the identifiers that were drawn for it since it last came into being, in that order, without
those that were removed. An update or a removal then meets the one document that it is meant for.
-/

namespace DocumentStore

namespace Event

variable {name : String}

/-- The events after the last one that brought a collection into being, if none of them dropped
it. -/
def Since (name : String) (events since : List Event) : Prop :=
  ∃ earlier founding, events = earlier ++ founding :: since ∧ founding.founds name = true ∧
    ∀ event ∈ since, event.founds name = false ∧ event.clears = false

theorem flatMap_assigned (name : String) (events : List Event) :
    events.flatMap (assigned name) =
      ((events.flatMap drawn).filter fun entry => entry.1 = name).map (·.2) := by
  simp [List.filter_flatMap, List.map_flatMap]
  rfl

theorem nodup_assigned {events : List Event} (fresh : ((events.flatMap drawn).map (·.2)).Nodup)
    (name : String) : (events.flatMap (assigned name)).Nodup := by
  rw [flatMap_assigned]
  exact fresh.sublist (List.filter_sublist.map _)

/-- A ledger takes in nothing but what events assign. -/
theorem mem_assigned_of_ledger {events : List Event} {ids : List String}
    (listed : events.foldl (ledger name) none = some ids) {id : String} (inside : id ∈ ids) :
    id ∈ events.flatMap (assigned name) := by
  induction events using List.reverseRecOn generalizing ids with
  | nil => cases listed
  | append_singleton events event ih =>
    rw [List.foldl_append, List.foldl_cons, List.foldl_nil, ledger] at listed
    rw [List.flatMap_append, List.mem_append]
    split at listed
    · cases listed
      cases inside
    · split at listed
      · cases listed
      · obtain ⟨before, found, rfl⟩ := Option.map_eq_some_iff.1 listed
        rcases List.mem_append.1 (List.mem_filter.1 inside).1 with old | new
        · exact .inl (ih found old)
        · exact .inr (by simpa using new)

/-- Where identifiers are not drawn twice, and only those are removed that were assigned before, a
ledger lists what was assigned since the collection came into being and not removed since. -/
theorem ledger_eq_some {events : List Event} (fresh : (events.flatMap (assigned name)).Nodup)
    (present : ∀ earlier event later id, events = earlier ++ event :: later →
      event.removed? = some (name, id) → id ∈ earlier.flatMap (assigned name))
    {ids : List String} (listed : events.foldl (ledger name) none = some ids) :
    ∃ since, Since name events since ∧
      ids = (since.flatMap (assigned name)).filter fun id =>
        ∀ event ∈ since, event.removed? ≠ some (name, id) := by
  induction events using List.reverseRecOn generalizing ids with
  | nil => cases listed
  | append_singleton events event ih =>
    rw [List.foldl_append, List.foldl_cons, List.foldl_nil, ledger] at listed
    rw [List.flatMap_append, List.flatMap_singleton] at fresh
    split at listed
    · rename_i founds
      cases listed
      exact ⟨[], ⟨events, event, rfl, founds, by simp⟩, rfl⟩
    · rename_i notFounds
      split at listed
      · cases listed
      · rename_i notClears
        obtain ⟨before, found, rfl⟩ := Option.map_eq_some_iff.1 listed
        obtain ⟨since, ⟨earlier, founding, rfl, founds, quiet⟩, rfl⟩ :=
          ih fresh.of_append_left (fun earlier other later id split removed =>
            present earlier other (later ++ [event]) id (by simp [split]) removed) found
        refine ⟨since ++ [event], ⟨earlier, founding, by simp, founds, ?_⟩, ?_⟩
        · intro other inside
          rcases List.mem_append.1 inside with old | new
          · exact quiet other old
          · simp [List.mem_singleton.1 new, notFounds, notClears]
        · -- what the last event draws cannot have been removed before
          have unremoved : ∀ id ∈ event.assigned name,
              ∀ other ∈ since, other.removed? ≠ some (name, id) := by
            intro id assigned other inside removed
            obtain ⟨first, last, rfl⟩ := List.append_of_mem inside
            have old := present (earlier ++ founding :: first) other (last ++ [event]) id
              (by simp) removed
            obtain ⟨source, member, drew⟩ := List.mem_flatMap.1 old
            have before : source ∈ earlier ++ founding :: (first ++ other :: last) := by
              simp only [List.mem_append, List.mem_cons] at member ⊢
              tauto
            exact List.disjoint_of_nodup_append fresh (List.mem_flatMap.2 ⟨source, before, drew⟩)
              assigned
          have throughout : ∀ id, (∀ other ∈ since ++ [event], other.removed? ≠ some (name, id)) ↔
              event.removed? ≠ some (name, id) ∧
                ∀ other ∈ since, other.removed? ≠ some (name, id) := by
            simp [or_imp, forall_and, and_comm]
          rw [List.flatMap_append, List.flatMap_singleton, List.filter_append, List.filter_append,
            List.filter_filter]
          simp only [throughout, Bool.decide_and]
          refine congrArg _ (List.filter_congr fun id assigned => ?_)
          rw [decide_eq_true (unremoved id assigned), Bool.and_true]

end Event

namespace State

variable {state : State}

theorem history_append (state : State) (before after : List Call) :
    state.history (before ++ after) = state.history before ++ (state.run before).history after := by
  induction before generalizing state with
  | nil => rfl
  | cons call before ih => exact congrArg (_ :: ·) (ih (state.next call))

theorem ids?_run_of_empty (inMemory : state.database.dataFile? = none)
    (empty : state.snapshot = Catalog.empty) (calls : List Call) (name : String) :
    (state.run calls).ids? name =
      ((state.history calls).foldl (Event.ledger name) none).map fun ids => ids.map some := by
  refine ids?_run inMemory calls name ?_
  rw [ids?, empty]
  rfl

theorem removed?_eq_some {call : Call} {name id : String}
    (inMemory : state.database.dataFile? = none)
    (removed : (state.event call).removed? = some (name, id)) :
    ∃ ids, state.ids? name = some ids ∧ some id ∈ ids := by
  obtain ⟨operation, supply⟩ := call
  have same : operation = .remove name id := by
    unfold Event.removed? at removed
    split at removed
    · rename_i asked _
      cases removed
      exact asked
    · cases removed
  rw [same, removed?_remove inMemory] at removed
  split at removed
  · rename_i present
    obtain ⟨ids, found, inside⟩ := Option.any_eq_true _ _ |>.1 present
    exact ⟨ids, found, of_decide_eq_true inside⟩
  · cases removed

/-- A removal takes out an identifier that was assigned before. -/
theorem assigned_of_removed (inMemory : state.database.dataFile? = none)
    (empty : state.snapshot = Catalog.empty) {calls : List Call} {earlier later : List Event}
    {event : Event} {name id : String} (split : state.history calls = earlier ++ event :: later)
    (removed : event.removed? = some (name, id)) : id ∈ earlier.flatMap (Event.assigned name) := by
  obtain ⟨before, call, after, rfl, rfl, rfl⟩ := split_history split
  have same : state.history before = earlier := by
    rw [history_append] at split
    exact List.append_cancel_right split
  obtain ⟨ids, found, inside⟩ := removed?_eq_some (inMemory_run inMemory before) removed
  rw [ids?_run_of_empty inMemory empty, same] at found
  obtain ⟨listed, ledger, rfl⟩ := Option.map_eq_some_iff.1 found
  obtain ⟨id', member, same⟩ := List.mem_map.1 inside
  cases same
  exact Event.mem_assigned_of_ledger ledger member

end State

/-! ## Replaced documents -/

/-- In one collection a stretch of the documents is replaced, and nothing else is changed. -/
def Snapshot.Replaced (before after : Snapshot) (name : String) (old new : List Document) : Prop :=
  ∃ first last, before.get? name = some (first ++ old ++ last) ∧
    after = before.insert name (first ++ new ++ last)

namespace State

variable {state : State}

/-- The identifiers of all documents. -/
def allIds (state : State) : List (Option String) :=
  state.snapshot.entries.flatMap fun entry => entry.2.map Document.id?

theorem nodup_of_allIds (distinct : state.allIds.Nodup) {name : String} {documents : List Document}
    (found : state.snapshot.get? name = some documents) :
    (documents.map Document.id?).Nodup :=
  (List.nodup_flatMap.1 distinct).1 _ (Entries.mem_of_get? found)

/-- An update that is answered replaces one document, and that keeps its identifier. -/
theorem replaced_of_update (inMemory : state.database.dataFile? = none) {supply : Nat → Stamp}
    {name : String} {changes : Document} {answer : Answer}
    (answered : (state.event ⟨.update name changes, supply⟩).result.answer = .ok answer) :
    ∃ stored, stored.id? = changes.id? ∧
      (stored.updated changes (supply 0).time).id? = changes.id? ∧
      state.snapshot.Replaced (state.next ⟨.update name changes, supply⟩).snapshot name [stored]
        [stored.updated changes (supply 0).time] := by
  have asked : (state.database.change supply (.update name changes)).map Change.answer =
      .ok answer := (answer_event inMemory _).symm.trans answered
  have next : (state.next ⟨.update name changes, supply⟩).snapshot =
      state.snapshot.amend name (Snapshot.updateStored changes (supply 0).time) := snapshot_next ..
  obtain ⟨_, asked, -⟩ := map_eq_ok_iff.1 asked
  obtain ⟨change, asked, -⟩ := map_eq_ok_iff.1 asked
  rw [Memory.update] at asked
  obtain ⟨required, -⟩ | ⟨collection, required, found⟩ := state.database.memory.require_cases name
  · rw [required] at asked
    cases asked
  · change state.snapshot.get? name = some collection.documents at found
    rw [required] at asked
    obtain ⟨_, same, asked⟩ := bind_eq_ok_iff.1 asked
    cases same
    split at asked
    · cases asked
    · rename_i id identified
      split at asked
      · cases asked
      · rename_i updated documents stored
        have after : Snapshot.updateStored changes (supply 0).time collection.documents =
            documents := by simp only [Snapshot.updateStored, identified, stored]
        rw [Snapshot.amend_of_get? found, after] at next
        obtain ⟨before, old, rest, split, same, rfl, rfl⟩ :=
          Collection.updateFirst?_eq_some stored
        rw [split] at found
        refine ⟨old, same.trans identified.symm,
          (Document.id?_updated identified _).trans identified.symm, before, rest, ?_, ?_⟩
        · simpa using found
        · simpa using next

theorem answer_of_removed? {name id : String} (supply : Nat → Stamp) :
    (state.event ⟨.remove name id, supply⟩).result.answer = .ok (.removed true) ↔
      (state.event ⟨.remove name id, supply⟩).removed? = some (name, id) := by
  unfold Event.removed?
  constructor
  · intro answered
    rw [answered]
    rfl
  · intro removed
    split at removed
    · assumption
    · cases removed

/-- With distinct identifiers no other document has that of a stored one. -/
theorem id?_ne_of_nodup {first last : List Document} {stored : Document}
    (distinct : ((first ++ stored :: last).map Document.id?).Nodup) :
    ∀ other ∈ first ++ last, other.id? ≠ stored.id? := by
  rw [List.map_append, List.map_cons, List.nodup_middle, List.nodup_cons, ← List.map_append]
    at distinct
  exact fun other member same => distinct.1 (List.mem_map.2 ⟨other, member, same⟩)

/-- With distinct identifiers there is but one document to take out. -/
theorem without_of_nodup {id : String} {first last : List Document} {stored : Document}
    (distinct : ((first ++ stored :: last).map Document.id?).Nodup) (same : stored.id? = some id) :
    Collection.without id (first ++ stored :: last) = first ++ last := by
  have others : ∀ other ∈ first ++ last, other.id? ≠ some id := fun other member =>
    same ▸ id?_ne_of_nodup distinct other member
  have kept : Collection.without id (first ++ last) = first ++ last :=
    List.filter_eq_self.2 fun other member => decide_eq_true (others other member)
  rw [Collection.without, List.filter_append] at kept
  rw [Collection.without, List.filter_append, List.filter_cons_of_neg (by simp [same]), kept]

/-- A removal that is answered with yes removes one document, and every other one removes none. -/
theorem replaced_of_remove (inMemory : state.database.dataFile? = none)
    (distinct : state.allIds.Nodup) (supply : Nat → Stamp) (name id : String) :
    (∃ stored, stored.id? = some id ∧
      (state.event ⟨.remove name id, supply⟩).result.answer = .ok (.removed true) ∧
      state.snapshot.Replaced (state.next ⟨.remove name id, supply⟩).snapshot name [stored] []) ∨
    (state.event ⟨.remove name id, supply⟩).result.answer ≠ .ok (.removed true) ∧
      (state.next ⟨.remove name id, supply⟩).snapshot = state.snapshot := by
  have removed := removed?_remove inMemory supply name id
  have next : (state.next ⟨.remove name id, supply⟩).snapshot =
      state.snapshot.amend name (Collection.without id) := snapshot_next ..
  rw [ids?] at removed
  cases found : state.snapshot.get? name with
  | none =>
    rw [found] at removed
    refine .inr ⟨fun answered => ?_, next.trans (Snapshot.amend_of_missing found _)⟩
    rw [answer_of_removed?, removed] at answered
    cases answered
  | some documents =>
    rw [found] at removed
    by_cases inside : ∃ stored ∈ documents, stored.id? = some id
    · obtain ⟨stored, member, same⟩ := inside
      obtain ⟨first, last, rfl⟩ := List.append_of_mem member
      refine .inl ⟨stored, same, ?_, first, last, by simpa using found, ?_⟩
      · rw [answer_of_removed?, removed]
        simp [same]
      · rw [next, Snapshot.amend_of_get? found,
          without_of_nodup (nodup_of_allIds distinct found) same, List.append_nil]
    · have whole : Collection.without id documents = documents :=
        List.filter_eq_self.2 fun stored member => decide_eq_true fun same =>
          inside ⟨stored, member, same⟩
      refine .inr ⟨fun answered => ?_, next.trans (Snapshot.amend_of_unchanged found whole)⟩
      rw [answer_of_removed?, removed] at answered
      simp [inside] at answered

/-! ## All identifiers -/

section

variable (inMemory : state.database.dataFile? = none) (empty : state.snapshot = Catalog.empty)
  {calls : List Call}

include inMemory empty

theorem ledger_of_get? {name : String} {documents : List Document}
    (found : (state.run calls).snapshot.get? name = some documents) :
    ∃ ids, (state.history calls).foldl (Event.ledger name) none = some ids ∧
      documents.map Document.id? = ids.map some := by
  have listed := ids?_run_of_empty inMemory empty calls name
  rw [ids?, found] at listed
  obtain ⟨ids, ledger, same⟩ := Option.map_eq_some_iff.1 listed.symm
  exact ⟨ids, ledger, same.symm⟩

/-- A document of a collection has an identifier that was drawn for the collection. -/
theorem drawn_of_mem {name : String} {documents : List Document}
    (found : (state.run calls).snapshot.get? name = some documents) {id? : Option String}
    (inside : id? ∈ documents.map Document.id?) :
    ∃ id, id? = some id ∧ (name, id) ∈ (state.history calls).flatMap Event.drawn := by
  obtain ⟨ids, ledger, listed⟩ := ledger_of_get? inMemory empty found
  rw [listed] at inside
  obtain ⟨id, member, rfl⟩ := List.mem_map.1 inside
  refine ⟨id, rfl, ?_⟩
  have assigned := Event.mem_assigned_of_ledger ledger member
  rw [Event.flatMap_assigned] at assigned
  obtain ⟨⟨other, id⟩, kept, rfl⟩ := List.mem_map.1 assigned
  obtain ⟨drawn, same⟩ := List.mem_filter.1 kept
  cases of_decide_eq_true same
  exact drawn

variable (fresh : (((state.history calls).flatMap Event.drawn).map (·.2)).Nodup)

include fresh

/-- A collection lists what was assigned to it since it came into being and not removed since. -/
theorem ids_since {name : String} {documents : List Document}
    (found : (state.run calls).snapshot.get? name = some documents) :
    ∃ since, Event.Since name (state.history calls) since ∧
      documents.map Document.id? = ((since.flatMap (Event.assigned name)).filter fun id =>
        ∀ event ∈ since, event.removed? ≠ some (name, id)).map some := by
  obtain ⟨ids, ledger, listed⟩ := ledger_of_get? inMemory empty found
  obtain ⟨since, happened, rfl⟩ := Event.ledger_eq_some (Event.nodup_assigned fresh name)
    (fun _ _ _ _ split removed => assigned_of_removed inMemory empty split removed) ledger
  exact ⟨since, happened, listed⟩

theorem nodup_allIds : (state.run calls).allIds.Nodup := by
  have found : ∀ entry ∈ (state.run calls).snapshot.entries,
      (state.run calls).snapshot.get? entry.1 = some entry.2 := fun entry inside =>
    Catalog.get?_of_mem inside
  refine List.nodup_flatMap.2 ⟨fun entry inside => ?_, ?_⟩
  · obtain ⟨ids, ledger, listed⟩ := ledger_of_get? inMemory empty (found entry inside)
    obtain ⟨since, ⟨earlier, founding, split, -⟩, rfl⟩ :=
      Event.ledger_eq_some (Event.nodup_assigned fresh entry.1)
        (fun _ _ _ _ split removed => assigned_of_removed inMemory empty split removed) ledger
    rw [listed]
    refine List.Nodup.map (fun _ _ => Option.some.inj) (List.Nodup.filter _ ?_)
    have all := Event.nodup_assigned fresh entry.1
    rw [split, List.flatMap_append, List.flatMap_cons] at all
    exact all.of_append_right.of_append_right
  · refine (state.run calls).snapshot.ordered.imp_of_mem fun {left right} inLeft inRight before => ?_
    intro id? ofLeft ofRight
    obtain ⟨id, rfl, drawnLeft⟩ := drawn_of_mem inMemory empty (found left inLeft) ofLeft
    obtain ⟨_, same, drawnRight⟩ := drawn_of_mem inMemory empty (found right inRight) ofRight
    cases same
    have equal := List.inj_on_of_nodup_map fresh drawnLeft drawnRight rfl
    exact String.lt_irrefl _ ((Prod.mk.inj equal).1 ▸ before)

end

/-- After any run from an empty database in memory that draws no identifier twice: a collection
lists the identifiers that were drawn for it since it last came into being, in that order and without
those that were removed since; the identifiers of all documents are distinct; an update that is
answered replaces one document, which keeps its identifier; and a removal takes out one document, or
is answered with no, or refused, and takes out none. -/
theorem run_identifiers (inMemory : state.database.dataFile? = none)
    (empty : state.snapshot = Catalog.empty) {calls : List Call}
    (fresh : (((state.history calls).flatMap Event.drawn).map (·.2)).Nodup) :
    (∀ name documents, (state.run calls).database.documents name = .ok documents →
      ∃ since, Event.Since name (state.history calls) since ∧
        documents.map Document.id? = ((since.flatMap (Event.assigned name)).filter fun id =>
          ∀ event ∈ since, event.removed? ≠ some (name, id)).map some) ∧
      (state.run calls).allIds.Nodup ∧
      (∀ supply name changes answer,
        ((state.run calls).event ⟨.update name changes, supply⟩).result.answer = .ok answer →
        ∃ stored, stored.id? = changes.id? ∧
          (stored.updated changes (supply 0).time).id? = changes.id? ∧
          (state.run calls).snapshot.Replaced
            ((state.run calls).next ⟨.update name changes, supply⟩).snapshot name [stored]
            [stored.updated changes (supply 0).time]) ∧
      ∀ supply name id,
        (∃ stored, stored.id? = some id ∧
          ((state.run calls).event ⟨.remove name id, supply⟩).result.answer =
            .ok (.removed true) ∧
          (state.run calls).snapshot.Replaced
            ((state.run calls).next ⟨.remove name id, supply⟩).snapshot name [stored] []) ∨
        ((state.run calls).event ⟨.remove name id, supply⟩).result.answer ≠ .ok (.removed true) ∧
          ((state.run calls).next ⟨.remove name id, supply⟩).snapshot =
            (state.run calls).snapshot := by
  have distinct := nodup_allIds inMemory empty fresh
  have later := inMemory_run inMemory calls
  refine ⟨fun name documents shown => ?_, distinct, fun _ _ _ _ => replaced_of_update later,
    fun _ _ _ => replaced_of_remove later distinct ..⟩
  rw [Database.documents, Memory.documents_eq] at shown
  split at shown
  · rename_i found
    cases shown
    exact ids_since inMemory empty fresh found
  · cases shown

/-- A collection that is filled, made again, filled anew and relieved of a document. -/
theorem run_identifiers_of_tasks :
    let state : State := ⟨Database.inMemory, Disk.empty⟩
    let named : String → Nat → Stamp := fun id i => ⟨if i = 0 then id else id ++ "+", "now"⟩
    let calls : List Call :=
      [⟨.ensure "tasks", named "-"⟩, ⟨.insert "tasks" .empty, named "a"⟩,
        ⟨.create "tasks", named "-"⟩, ⟨.insertAll "tasks" [.empty, .empty], named "b"⟩,
        ⟨.insert "tasks" .empty, named "c"⟩, ⟨.remove "tasks" "b", named "-"⟩]
    (∃ since, Event.Since "tasks" (state.history calls) since ∧
      [some "b+", some "c"] = ((since.flatMap (Event.assigned "tasks")).filter fun id =>
        ∀ event ∈ since, event.removed? ≠ some ("tasks", id)).map some) ∧
      (state.run calls).allIds.Nodup := by
  intro state named calls
  have fresh : (((state.history calls).flatMap Event.drawn).map (·.2)).Nodup := by decide +kernel
  have listed : ((state.run calls).database.documents "tasks").map
      (fun documents => documents.map Document.id?) = .ok [some "b+", some "c"] := by
    decide +kernel
  obtain ⟨documents, shown, ids⟩ := map_eq_ok_iff.1 listed
  obtain ⟨since, distinct, -⟩ := run_identifiers rfl rfl fresh
  rw [← ids]
  exact ⟨since "tasks" documents shown, distinct⟩

end State

end DocumentStore
