import DocumentStore.Proofs.Store.Identifiers

/-!
# Creation dates of documents

An insertion sets the creation date of a document whatever the document held. An update does not set
it, but puts every field that it brings over the stored document, and the creation date may be one of
them. So the creation date of a document is the last one that an update of it brought, and the time of
its insertion if none did.
-/

namespace DocumentStore

namespace Call

/-- The stamps of a call for the documents that it inserts into a collection. -/
def stamps (name : String) (call : Call) : List Stamp :=
  match call.operation with
  | .insert other _ => if other = name then [call.supply 0] else []
  | .insertAll other documents =>
    if other = name then (List.range documents.length).map call.supply else []
  | _ => []

/-- The creation date that a call brings for a document of a collection, if it is an update of the
document and brings one. -/
def redate? (name id : String) (call : Call) : Option Json :=
  match call.operation with
  | .update other changes =>
    if other = name ∧ changes.id? = some id then changes.get? Document.createdField else none
  | _ => none

end Call

namespace Document

/-- What an insertion settles of a document: its identifier and its creation date. -/
def birth (document : Document) : Option String × Option Json :=
  (document.id?, document.get? createdField)

theorem birth_stamped (document : Document) (stamp : Stamp) :
    (document.stamped stamp).birth = (some stamp.id, some (.string stamp.time)) := by
  rw [birth, id?_stamped, stamped, get?_set_of_ne _ (by decide), get?_set_self]

theorem birth_updated {stored changes : Document} {id : String} (identified : changes.id? = some id)
    (time : String) :
    (stored.updated changes time).birth =
      (some id, (changes.get? createdField).or (stored.get? createdField)) := by
  rw [birth, id?_updated identified, get?_updated, if_neg (by decide)]

end Document

namespace Collection

/-- A document after an update was left alone or is the one that was updated. Where identifiers are
distinct, one that was left alone is not meant by the update. -/
theorem mem_updateStored {changes : Document} {time : String} {documents : List Document}
    {document : Document} (inside : document ∈ Snapshot.updateStored changes time documents) :
    (document ∈ documents ∧ ((documents.map Document.id?).Nodup →
      ∀ id, document.id? = some id → changes.id? ≠ some id)) ∨
    ∃ old ∈ documents, ∃ id, old.id? = some id ∧ changes.id? = some id ∧
      document = old.updated changes time := by
  unfold Snapshot.updateStored at inside
  split at inside
  · rename_i unidentified
    exact .inl ⟨inside, fun _ id _ => by rw [unidentified]; exact nofun⟩
  · rename_i id identified
    split at inside
    · rename_i missing
      refine .inl ⟨inside, fun _ id' same meant => ?_⟩
      rw [← same, identified] at meant
      exact updateFirst?_eq_none_iff.1 missing document inside meant.symm
    · rename_i updated after found
      obtain ⟨first, old, last, rfl, meant, rfl, rfl⟩ := updateFirst?_eq_some found
      by_cases new : document = old.updated changes time
      · exact .inr ⟨old, List.mem_append_right _ List.mem_cons_self, id, meant, identified, new⟩
      · have other : document ∈ first ++ last := by simpa [new] using inside
        have stood : document ∈ first ++ old :: last :=
          List.mem_append.2 ((List.mem_append.1 other).imp_right (List.mem_cons_of_mem _))
        refine .inl ⟨stood, fun distinct id' same meant' => ?_⟩
        refine State.id?_ne_of_nodup distinct document other ?_
        rw [same, meant, ← meant', identified]

/-- What a call can make of the documents of a collection. -/
inductive Step (name : String) (call : Call) (before : List Document) : List Document → Prop
  | kept {documents : List Document} (among : documents.Sublist before)
    (undated : ∀ id, call.redate? name id = none) : Step name call before documents
  | added {inserted : List Document}
    (births : inserted.map Document.birth =
      (call.stamps name).map fun stamp => (some stamp.id, some (.string stamp.time)))
    (undated : ∀ id, call.redate? name id = none) : Step name call before (before ++ inserted)
  | updated {changes : Document} (asked : call.operation = .update name changes) :
    Step name call before (Snapshot.updateStored changes (call.supply 0).time before)

end Collection

/-! ## One call -/

namespace Snapshot

variable {name : String} {call : Call}

theorem step_amend {snapshot : Snapshot} {other : String} {f : List Document → List Document}
    (elsewhere : other ≠ name → ∀ id, call.redate? name id = none)
    (here : other = name → ∀ documents, Collection.Step name call documents (f documents))
    {documents : List Document} (found : (snapshot.amend other f).get? name = some documents) :
    Collection.Step name call ((snapshot.get? name).getD []) documents := by
  by_cases same : other = name
  · subst same
    rw [get?_amend_self] at found
    obtain ⟨before, stood, rfl⟩ := Option.map_eq_some_iff.1 found
    rw [stood]
    exact here rfl before
  · rw [get?_amend_of_ne _ (Ne.symm same)] at found
    rw [found]
    exact .kept (List.Sublist.refl _) (elsewhere same)

theorem step_insert {snapshot : Snapshot} {other : String}
    (undated : ∀ id, call.redate? name id = none) {documents : List Document}
    (found : (snapshot.insert other []).get? name = some documents) :
    Collection.Step name call ((snapshot.get? name).getD []) documents := by
  by_cases same : name = other
  · rw [same, Catalog.get?_insert_self] at found
    cases found
    exact .kept (List.nil_sublist _) undated
  · rw [Catalog.get?_insert_of_ne _ same] at found
    rw [found]
    exact .kept (List.Sublist.refl _) undated

theorem step_afterCall {snapshot : Snapshot} {documents : List Document}
    (found : (snapshot.afterCall call).get? name = some documents) :
    Collection.Step name call ((snapshot.get? name).getD []) documents := by
  obtain ⟨operation, supply⟩ := call
  cases operation with
  | create other => exact step_insert (fun _ => rfl) found
  | ensure other =>
    rw [afterCall, after] at found
    split at found
    · rw [found]
      exact .kept (List.Sublist.refl _) fun _ => rfl
    · exact step_insert (fun _ => rfl) found
  | insert other document =>
    refine step_amend (fun _ _ => rfl) (fun same before => .added ?_ fun _ => rfl) found
    have stamps : Call.stamps name ⟨.insert other document, supply⟩ = [supply 0] := if_pos same
    rw [stamps, List.map_singleton, Document.birth_stamped]
    rfl
  | insertAll other inserted =>
    refine step_amend (fun _ _ => rfl) (fun same before => .added ?_ fun _ => rfl) found
    have stamps : Call.stamps name ⟨.insertAll other inserted, supply⟩ =
        (List.range inserted.length).map supply := if_pos same
    rw [stamps]
    exact Collection.map_stampAll Document.birth_stamped supply inserted
  | update other changes =>
    have elsewhere (different : other ≠ name) (id : String) :
        Call.redate? name id ⟨.update other changes, supply⟩ = none :=
      if_neg fun both => different both.1
    refine step_amend elsewhere (fun same before => ?_) found
    subst same
    exact .updated rfl
  | remove other id =>
    exact step_amend (fun _ _ => rfl) (fun _ _ => .kept List.filter_sublist fun _ => rfl) found
  | clear => cases found
  | flush | names | documents _ | find _ _ | query _ =>
    have stood : snapshot.get? name = some documents := found
    rw [stood]
    exact .kept (List.Sublist.refl _) fun _ => rfl

end Snapshot

namespace Collection.Step

variable {name : String} {call : Call} {before after : List Document}

/-- The identifiers after a call are some of those before it, and then those of the stamps. -/
theorem ids (step : Step name call before after) :
    (after.map Document.id?).Sublist
      (before.map Document.id? ++ (call.stamps name).map fun stamp => some stamp.id) := by
  cases step with
  | kept among => exact (among.map _).trans (List.sublist_append_left ..)
  | added births =>
    have ids := congrArg (List.map Prod.fst) births
    rw [List.map_map, List.map_map] at ids
    rw [List.map_append]
    exact List.Sublist.append_left (ids ▸ List.Sublist.refl _) _
  | updated =>
    rw [Snapshot.ids_updateStored]
    exact List.sublist_append_left ..

/-- A document after a call has just been inserted, or it stood there before and was left alone, or it
got the creation date that the call brings for it. Where identifiers are distinct, only a call that
brings none leaves a document alone. -/
theorem birth (step : Step name call before after) {document : Document} (stored : document ∈ after) :
    (∃ stamp ∈ call.stamps name, document.birth = (some stamp.id, some (.string stamp.time))) ∨
    ∃ old ∈ before,
      (document.birth = old.birth ∧ ((before.map Document.id?).Nodup →
        ∀ id, old.id? = some id → call.redate? name id = none)) ∨
      ∃ id, old.id? = some id ∧
        document.birth = (some id, (call.redate? name id).or (old.get? Document.createdField)) := by
  cases step with
  | kept among undated =>
    exact .inr ⟨document, among.subset stored, .inl ⟨rfl, fun _ id _ => undated id⟩⟩
  | added births undated =>
    rcases List.mem_append.1 stored with old | new
    · exact .inr ⟨document, old, .inl ⟨rfl, fun _ id _ => undated id⟩⟩
    · have born := List.mem_map_of_mem new (f := Document.birth)
      rw [births] at born
      obtain ⟨stamp, drawn, same⟩ := List.mem_map.1 born
      exact .inl ⟨stamp, drawn, same.symm⟩
  | @updated changes asked =>
    have redates (id : String) : call.redate? name id =
        if changes.id? = some id then changes.get? Document.createdField else none := by
      rw [Call.redate?, asked]
      simp
    obtain ⟨old, alone⟩ | ⟨old, stood, id, same, identified, rfl⟩ := mem_updateStored stored
    · refine .inr ⟨document, old, .inl ⟨rfl, fun distinct id identified => ?_⟩⟩
      rw [redates, if_neg (alone distinct id identified)]
    · refine .inr ⟨old, stood, .inr ⟨id, same, ?_⟩⟩
      rw [redates, if_pos identified, Document.birth_updated identified]

end Collection.Step

/-! ## Runs -/

namespace State

variable {state : State}

theorem snapshot_run_append (state : State) (calls : List Call) (call : Call) :
    (state.run (calls ++ [call])).snapshot = (state.run calls).snapshot.afterCall call := by
  rw [run, List.foldl_append]
  exact snapshot_next ..

theorem step_run {calls : List Call} {call : Call} {name : String} {documents : List Document}
    (found : (state.run (calls ++ [call])).snapshot.get? name = some documents) :
    Collection.Step name call (((state.run calls).snapshot.get? name).getD []) documents := by
  rw [snapshot_run_append] at found
  exact Snapshot.step_afterCall found

/-- The identifiers of a collection are some of those that it was handed, in their order. -/
theorem ids_run (empty : state.snapshot = Catalog.empty) (calls : List Call) (name : String) :
    ((((state.run calls).snapshot.get? name).getD []).map Document.id?).Sublist
      ((calls.flatMap (Call.stamps name)).map fun stamp => some stamp.id) := by
  induction calls using List.reverseRecOn with
  | nil =>
    have nothing : (state.run []).snapshot.get? name = none := by
      rw [run, List.foldl_nil, empty]
      rfl
    rw [nothing]
    exact List.nil_sublist _
  | append_singleton calls call ih =>
    rw [List.flatMap_append, List.flatMap_singleton, List.map_append]
    cases found : (state.run (calls ++ [call])).snapshot.get? name with
    | none => exact List.nil_sublist _
    | some documents => exact (step_run found).ids.trans (ih.append_right _)

theorem nodup_ids_run (empty : state.snapshot = Catalog.empty) {calls : List Call} {name : String}
    (fresh : ((calls.flatMap (Call.stamps name)).map Stamp.id).Nodup) :
    ((((state.run calls).snapshot.get? name).getD []).map Document.id?).Nodup := by
  have handed := fresh.map fun _ _ => Option.some.inj
  rw [List.map_map] at handed
  exact handed.sublist (ids_run empty calls name)

theorem exists_of_mem_getD {listed? : Option (List Document)} {document : Document}
    (inside : document ∈ listed?.getD []) : ∃ listed, listed? = some listed ∧ document ∈ listed := by
  cases listed? with
  | none => cases inside
  | some listed => exact ⟨listed, rfl, inside⟩

theorem filterMap_redate? (name id : String) (later : List Call) (call : Call) :
    (later ++ [call]).filterMap (Call.redate? name id) =
      later.filterMap (Call.redate? name id) ++ (call.redate? name id).toList := by
  rw [List.filterMap_append]
  cases dated : call.redate? name id <;> simp [dated]

/-- After any run from an empty database: a document of a collection was inserted by a call of the
run, and its creation date is the last one that a later update of it brought, and the time of the
insertion if none did. The dates were all brought by updates with the identifier of the document, and
if the collection was never handed an identifier twice, they are all that such updates brought. -/
theorem run_creation_dates (empty : state.snapshot = Catalog.empty) {calls : List Call}
    {name : String} {documents : List Document}
    (shown : (state.run calls).database.documents name = .ok documents) {document : Document}
    (stored : document ∈ documents) :
    ∃ earlier call later stamp dates, calls = earlier ++ call :: later ∧
      stamp ∈ call.stamps name ∧ document.id? = some stamp.id ∧
      document.get? Document.createdField = some (dates.getLastD (.string stamp.time)) ∧
      dates.Sublist (later.filterMap (Call.redate? name stamp.id)) ∧
      (((calls.flatMap (Call.stamps name)).map Stamp.id).Nodup →
        dates = later.filterMap (Call.redate? name stamp.id)) := by
  have found : (state.run calls).snapshot.get? name = some documents :=
    Memory.documents_eq_ok_iff.1 shown
  clear shown
  -- from the end of the run: the last call may have inserted the document, left it alone or dated it
  induction calls using List.reverseRecOn generalizing documents document with
  | nil =>
    rw [run, List.foldl_nil, empty] at found
    cases found
  | append_singleton calls last ih =>
    obtain ⟨stamp, drawn, born⟩ | ⟨old, stood, birth⟩ := (step_run found).birth stored
    · exact ⟨calls, last, [], stamp, [], rfl, drawn, congrArg Prod.fst born,
        congrArg Prod.snd born, List.nil_sublist _, fun _ => rfl⟩
    · obtain ⟨listed, before, inside⟩ := exists_of_mem_getD stood
      obtain ⟨earlier, call, later, stamp, dates, rfl, drawn, identified, dated, among, all⟩ :=
        ih inside before
      refine ⟨earlier, call, later ++ [last], stamp, ?_⟩
      have freshBefore (fresh : (((earlier ++ call :: later ++ [last]).flatMap
          (Call.stamps name)).map Stamp.id).Nodup) :
          (((earlier ++ call :: later).flatMap (Call.stamps name)).map Stamp.id).Nodup := by
        rw [List.flatMap_append, List.map_append] at fresh
        exact fresh.of_append_left
      rw [filterMap_redate?]
      obtain ⟨same, alone⟩ | ⟨id, meant, redated⟩ := birth
      · refine ⟨dates, by simp, drawn, (congrArg Prod.fst same).trans identified,
          (congrArg Prod.snd same).trans dated, among.trans (List.sublist_append_left ..),
          fun fresh => ?_⟩
        rw [alone (nodup_ids_run empty (freshBefore fresh)) stamp.id identified,
          Option.toList_none, List.append_nil]
        exact all (freshBefore fresh)
      · obtain rfl : id = stamp.id := Option.some.inj (meant.symm.trans identified)
        refine ⟨dates ++ (last.redate? name stamp.id).toList, by simp, drawn,
          congrArg Prod.fst redated, (congrArg Prod.snd redated).trans ?_, among.append_right _,
          fun fresh => by rw [← all (freshBefore fresh)]⟩
        rw [dated]
        cases last.redate? name stamp.id <;> simp

/-- A document that is updated three times, twice with a creation date. -/
theorem run_creation_dates_of_tasks :
    let state : State := ⟨Database.inMemory, Disk.empty⟩
    let stamped (id : String) (operation : Operation) : Call := ⟨operation, fun _ => ⟨id, "now"⟩⟩
    let changes : Document := Document.empty.set Document.idField "a"
    let calls : List Call :=
      [stamped "-" (.create "tasks"), stamped "a" (.insert "tasks" .empty),
        stamped "-" (.update "tasks" (changes.set Document.createdField "once")),
        stamped "-" (.update "tasks" (changes.set Document.createdField "later")),
        stamped "-" (.update "tasks" changes)]
    ∃ document, (state.run calls).database.documents "tasks" = .ok [document] ∧
      ∃ earlier call later stamp, calls = earlier ++ call :: later ∧
        stamp ∈ call.stamps "tasks" ∧ document.id? = some stamp.id ∧
        document.get? Document.createdField =
          some ((later.filterMap (Call.redate? "tasks" stamp.id)).getLastD (.string stamp.time)) := by
  intro state stamped changes calls
  have listed : ((state.run calls).database.documents "tasks").map
      (fun documents => documents.map Document.id?) = .ok [some "a"] := by decide +kernel
  obtain ⟨documents, shown, ids⟩ := map_eq_ok_iff.1 listed
  obtain ⟨document, rfl, -⟩ := List.map_eq_singleton_iff.1 ids
  obtain ⟨earlier, call, later, stamp, dates, split, drawn, identified, dated, -, all⟩ :=
    run_creation_dates rfl shown List.mem_cons_self
  rw [all (by decide +kernel)] at dated
  exact ⟨document, shown, earlier, call, later, stamp, split, drawn, identified, dated⟩

/-- The creation date of a document is not always the time of its insertion: an update may bring
another one. -/
theorem run_replaces_creation_date :
    ¬ ∀ (calls : List Call) (name : String) (documents : List Document),
      ((⟨Database.inMemory, Disk.empty⟩ : State).run calls).database.documents name =
        .ok documents →
      ∀ document ∈ documents, ∃ call ∈ calls, ∃ stamp ∈ call.stamps name,
        document.id? = some stamp.id ∧
        document.get? Document.createdField = some (.string stamp.time) := by
  intro immutable
  let stamped (operation : Operation) : Call := ⟨operation, fun _ => ⟨"a", "now"⟩⟩
  let changes : Document := (Document.empty.set Document.idField "a").set Document.createdField "x"
  let calls : List Call := [stamped (.create "tasks"), stamped (.insert "tasks" .empty),
    stamped (.update "tasks" changes)]
  have listed : (((⟨Database.inMemory, Disk.empty⟩ : State).run calls).database.documents
      "tasks").map (fun documents => documents.map fun document =>
        (document.get? Document.createdField).bind Json.text?) = .ok [some "x"] := by decide +kernel
  obtain ⟨documents, shown, dates⟩ := map_eq_ok_iff.1 listed
  obtain ⟨document, rfl, replaced⟩ := List.map_eq_singleton_iff.1 dates
  obtain ⟨call, called, stamp, drawn, -, dated⟩ :=
    immutable calls "tasks" [document] shown document List.mem_cons_self
  have now : ∀ call ∈ calls, ∀ stamp ∈ call.stamps "tasks", stamp.time = "now" := by decide +kernel
  rw [dated, now call called stamp drawn] at replaced
  exact absurd replaced (by decide)

end State

end DocumentStore
