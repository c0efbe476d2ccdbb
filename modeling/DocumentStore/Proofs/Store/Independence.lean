import DocumentStore.Proofs.Store.Ledger
import DocumentStore.Proofs.Store.Saving

/-!
# Operations on different collections

An operation that is meant for one collection reads and changes that collection alone: what it answers
and what it leaves there follow from what it found there. So two operations that are meant for
different collections can change places. The data file follows, since every save writes all
collections.
-/

namespace DocumentStore

/-- The collection that an operation changes, if it is meant for a single one. -/
def Operation.target? : Operation → Option String
  | .create name | .ensure name | .insert name _ | .insertAll name _ | .update name _
  | .remove name _ => some name
  | .clear | .flush | .names | .documents _ | .find _ _ | .query _ => none

namespace Snapshot

variable {operation : Operation} {target : String}

theorem get?_after_of_ne (meant : operation.target? = some target) {other : String}
    (different : other ≠ target) (supply : Nat → Stamp) (snapshot : Snapshot) :
    (snapshot.after supply operation).get? other = snapshot.get? other := by
  cases operation with
  | create name =>
    cases meant
    exact snapshot.get?_insert_of_ne different _
  | ensure name =>
    cases meant
    rw [after]
    split
    · rfl
    · exact snapshot.get?_insert_of_ne different _
  | insert name document | insertAll name documents | update name changes | remove name id =>
    cases meant
    exact snapshot.get?_amend_of_ne different _
  | clear | flush | names | documents | find | query => cases meant

theorem get?_after_congr (meant : operation.target? = some target) (supply : Nat → Stamp)
    {left right : Snapshot} (same : left.get? target = right.get? target) :
    (left.after supply operation).get? target = (right.after supply operation).get? target := by
  cases operation with
  | create name =>
    cases meant
    rw [after, after, Catalog.get?_insert_self, Catalog.get?_insert_self]
  | ensure name =>
    cases meant
    rw [after, after, same]
    split
    · exact same
    · rw [Catalog.get?_insert_self, Catalog.get?_insert_self]
  | insert name document | insertAll name documents | update name changes | remove name id =>
    cases meant
    rw [after, after, get?_amend_self, get?_amend_self, same]
  | clear | flush | names | documents | find | query => cases meant

theorem after_comm {first second : Operation} {target other : String}
    (meant : first.target? = some target) (meantOther : second.target? = some other)
    (different : target ≠ other) (supply supplyOther : Nat → Stamp) (snapshot : Snapshot) :
    (snapshot.after supply first).after supplyOther second =
      (snapshot.after supplyOther second).after supply first := by
  refine Catalog.ext_get? fun name => ?_
  by_cases here : name = target
  · subst here
    have before := get?_after_of_ne meantOther different supplyOther snapshot
    rw [get?_after_of_ne meantOther different]
    exact get?_after_congr meant supply before.symm
  · rw [get?_after_of_ne meant here]
    by_cases there : name = other
    · subst there
      exact get?_after_congr meantOther supplyOther (get?_after_of_ne meant here supply snapshot)
    · rw [get?_after_of_ne meantOther there, get?_after_of_ne meantOther there,
        get?_after_of_ne meant here]

end Snapshot

section

variable {α β : Type}

theorem answer_map (f : α → β) (change : Except StoreError (Change α)) :
    (change.map (Change.map f)).map Change.answer = (change.map Change.answer).map f := by
  cases change <;> rfl

/-- What is asked of a collection is answered from its documents. -/
theorem Memory.answer_require {left right : Memory} {name : String}
    (same : left.snapshot.get? name = right.snapshot.get? name)
    {body body' : Collection → Except StoreError (Change α)}
    (alike : ∀ collection collection' : Collection, collection.documents = collection'.documents →
      (body collection).map Change.answer = (body' collection').map Change.answer) :
    (left.require name >>= body).map Change.answer =
      (right.require name >>= body').map Change.answer := by
  obtain ⟨required, missing⟩ | ⟨collection, required, found⟩ := left.require_cases name
  · obtain ⟨required', -⟩ | ⟨collection', -, found'⟩ := right.require_cases name
    · rw [required, required']
      rfl
    · rw [missing, found'] at same
      cases same
  · obtain ⟨-, missing'⟩ | ⟨collection', required', found'⟩ := right.require_cases name
    · rw [found, missing'] at same
      cases same
    · rw [found, found'] at same
      rw [required, required']
      exact alike collection collection' (Option.some.inj same)

end

/-- The answer of an operation that is meant for one collection follows from its documents. -/
theorem Database.answer_congr {left right : Database} {operation : Operation} {target : String}
    (meant : operation.target? = some target) (supply : Nat → Stamp)
    (same : left.memory.snapshot.get? target = right.memory.snapshot.get? target) :
    (left.change supply operation).map Change.answer =
      (right.change supply operation).map Change.answer := by
  cases operation with
  | create name => rfl
  | ensure name =>
    cases meant
    rw [Memory.snapshot_get?, Memory.snapshot_get?] at same
    rw [change, change, Memory.ensure, Memory.ensure]
    cases found : left.memory.live.get? target with
    | none =>
      rw [found] at same
      rw [Option.map_eq_none_iff.1 same.symm]
      rfl
    | some collection =>
      rw [found] at same
      obtain ⟨collection', found', -⟩ := Option.map_eq_some_iff.1 same.symm
      rw [found']
      rfl
  | insert name document =>
    cases meant
    rw [change, change, answer_map, answer_map]
    exact congrArg _ (Memory.answer_require same fun _ _ _ => rfl)
  | insertAll name documents =>
    cases meant
    rw [change, change, answer_map, answer_map]
    exact congrArg _ (Memory.answer_require same fun _ _ _ => rfl)
  | update name changes =>
    cases meant
    rw [change, change, answer_map, answer_map]
    refine congrArg _ (Memory.answer_require same fun collection collection' documents => ?_)
    rw [documents]
    cases changes.id? with
    | none => rfl
    | some id =>
      dsimp only
      cases Collection.updateFirst? id changes (supply 0).time collection'.documents <;> rfl
  | remove name id =>
    cases meant
    rw [change, change, answer_map, answer_map]
    refine congrArg _ (Memory.answer_require same fun collection collection' documents => ?_)
    dsimp only
    rw [documents]
    split <;> rfl
  | clear | flush | names | documents | find | query => cases meant

namespace State

variable {state : State}

/-- As long as every save succeeds, an operation is answered with what it asks for. -/
theorem answered_event (always : state.database.AlwaysSaved state.disk) (call : Call) :
    (state.event call).result.answer =
        (state.database.change call.supply call.operation).map Change.answer ∧
      (state.next call).database.AlwaysSaved (state.next call).disk := by
  rw [next, event, Event.after, Database.perform_eq_attempt]
  rcases state.database.change call.supply call.operation with error | change
  · exact ⟨rfl, always⟩
  · rw [Database.attempt]
    obtain ⟨later, committed, stillAlways⟩ | ⟨-, sometimes⟩ :=
      state.database.commit_answered state.disk change
    · rw [committed]
      exact ⟨rfl, stillAlways always⟩
    · exact absurd always sometimes

theorem alwaysSaved_run (always : state.database.AlwaysSaved state.disk) (calls : List Call) :
    (state.run calls).database.AlwaysSaved (state.run calls).disk := by
  induction calls generalizing state with
  | nil => exact always
  | cons call calls ih => exact ih (answered_event always call).2

theorem saved_of_changed (always : state.database.AlwaysSaved state.disk) {call : Call}
    (changed : (state.event call).Changed) : (state.event call).saved = true := by
  have answered := (answered_event always call).1
  have next : (state.event call).after.snapshot = state.snapshot.afterCall call :=
    state.snapshot_next call
  have effect := state.database.effect_change call.supply call.operation
  generalize asked : state.database.change call.supply call.operation = change at effect answered
  cases effect with
  | rejected error same => exact absurd (next.trans same) changed
  | unsaved answer same => exact absurd (next.trans same) changed
  | saved answer =>
    rw [Event.saved_of_answer answered]
    exact (Database.saves_of_change asked).symm

theorem quiet_of_unsaved (always : state.database.AlwaysSaved state.disk) {calls : List Call}
    (unsaved : (state.history calls).any Event.saved = false) :
    ∀ event ∈ state.history calls, ¬ event.Changed := by
  induction calls generalizing state with
  | nil =>
    intro event inside
    rw [history] at inside
    cases inside
  | cons call calls ih =>
    rw [history, List.any_cons, Bool.or_eq_false_iff] at unsaved
    refine List.forall_mem_cons.2 ⟨fun changed => ?_, ih (answered_event always call).2 unsaved.2⟩
    exact absurd (saved_of_changed always changed) (by rw [unsaved.1]; decide)

/-- The data file holds the collections at the end of a run if one of its operations saved them, and
else what it held before. -/
theorem bytes?_run_of_alwaysSaved {file : DataFile} (persistent : state.database.dataFile? = some file)
    (always : state.database.AlwaysSaved state.disk) (calls : List Call) :
    file.bytes? (state.run calls).disk =
      if (state.history calls).any Event.saved then some (state.run calls).encoded
      else file.bytes? state.disk := by
  induction calls generalizing state with
  | nil => rfl
  | cons call calls ih =>
    have sound := sound_event persistent call
    have stillAlways := (answered_event always call).2
    have later := @ih (state.next call) sound.persistent stillAlways
    have written := sound.bytes
    rw [history, List.any_cons]
    cases rest : ((state.next call).history calls).any Event.saved with
    | true =>
      rw [rest, if_pos rfl] at later
      rw [Bool.or_true, if_pos rfl]
      exact later
    | false =>
      rw [rest, if_neg Bool.false_ne_true] at later
      rw [Bool.or_false]
      rw [Event.written] at written
      cases saved : (state.event call).saved with
      | true =>
        rw [saved, if_pos rfl] at written
        exact encoded_run sound.persistent written (quiet_of_unsaved stillAlways rest)
      | false =>
        rw [saved, if_neg Bool.false_ne_true] at written
        exact later.trans written

/-- Two operations that are meant for different collections can change places, as long as every save
succeeds: both answer the same, and they leave the same collections and the same bytes in the data
file. -/
theorem run_swap (always : state.database.AlwaysSaved state.disk) {first second : Call}
    {target other : String} (meant : first.operation.target? = some target)
    (meantOther : second.operation.target? = some other) (different : target ≠ other) :
    ((state.next second).event first).result.answer = (state.event first).result.answer ∧
      ((state.next first).event second).result.answer = (state.event second).result.answer ∧
      (state.run [first, second]).snapshot = (state.run [second, first]).snapshot ∧
      ∀ file, state.database.dataFile? = some file →
        file.bytes? (state.run [first, second]).disk =
          file.bytes? (state.run [second, first]).disk := by
  have unmoved : (state.next second).snapshot.get? target = state.snapshot.get? target := by
    rw [snapshot_next]
    exact Snapshot.get?_after_of_ne meantOther different ..
  have unmovedOther : (state.next first).snapshot.get? other = state.snapshot.get? other := by
    rw [snapshot_next]
    exact Snapshot.get?_after_of_ne meant different.symm ..
  have answer : ((state.next second).event first).result.answer =
      (state.event first).result.answer := by
    rw [(answered_event always first).1, (answered_event (answered_event always second).2 first).1]
    exact Database.answer_congr meant first.supply unmoved
  have answerOther : ((state.next first).event second).result.answer =
      (state.event second).result.answer := by
    rw [(answered_event always second).1, (answered_event (answered_event always first).2 second).1]
    exact Database.answer_congr meantOther second.supply unmovedOther
  have same : (state.run [first, second]).snapshot = (state.run [second, first]).snapshot := by
    change ((state.next first).next second).snapshot = ((state.next second).next first).snapshot
    rw [snapshot_next, snapshot_next, snapshot_next, snapshot_next]
    exact Snapshot.after_comm meant meantOther different ..
  refine ⟨answer, answerOther, same, fun file persistent => ?_⟩
  have saved : (state.history [first, second]).any Event.saved =
      (state.history [second, first]).any Event.saved := by
    have here : ((state.next second).event first).saved = (state.event first).saved := by
      rw [Event.saved, Event.saved, answer]
      rfl
    have there : ((state.next first).event second).saved = (state.event second).saved := by
      rw [Event.saved, Event.saved, answerOther]
      rfl
    simp only [history, List.any_cons, List.any_nil, Bool.or_false, here, there]
    exact Bool.or_comm ..
  rw [bytes?_run_of_alwaysSaved persistent always, bytes?_run_of_alwaysSaved persistent always, saved,
    encoded, same, encoded]

/-- A removal from one collection and an insertion into another one that was just made. -/
theorem run_swap_of_tasks :
    let file : DataFile := ⟨"data"⟩
    let opened : State := ⟨⟨Memory.empty, some file, false⟩, (Disk.empty.createDirectories "data").2⟩
    let stamped (id : String) (operation : Operation) : Call := ⟨operation, fun _ => ⟨id, "now"⟩⟩
    let state := opened.run [stamped "a" (.create "tasks"), stamped "b" (.insert "tasks" .empty),
      stamped "c" (.create "notes")]
    let remove := stamped "d" (.remove "tasks" "b")
    let insert := stamped "e" (.insert "notes" .empty)
    (state.run [remove, insert]).snapshot = (state.run [insert, remove]).snapshot ∧
      file.bytes? (state.run [remove, insert]).disk =
        file.bytes? (state.run [insert, remove]).disk := by
  intro file opened stamped state remove insert
  have ready : file.Ready opened.disk := by
    have made : (Disk.empty.createDirectories "data").1 = .ok () := by decide +kernel
    have created : Disk.empty.createDirectories "data" = (.ok (), opened.disk) := Prod.ext made rfl
    have granting := Disk.fates_createDirectories rfl created
    have nothing : opened.disk.node? file.place = none := by decide +kernel
    have nothingElse : opened.disk.node? file.temporaryPlace = none := by decide +kernel
    exact {
      granting := granting
      fine := by decide +kernel
      made := Disk.createDirectories_of_granting created (fun _ stands => stands) granting
      holder := Disk.directory?_of_createDirectories created
      free := fun inner => by rw [nothing]; exact nofun
      temporaryFree := fun inner => by rw [nothingElse]; exact nofun }
  have always : opened.database.AlwaysSaved opened.disk := by
    rintro _ ⟨⟩
    exact ready.alwaysSaved
  have stillAlways : state.database.AlwaysSaved state.disk := alwaysSaved_run always _
  have persistent : state.database.dataFile? = some file := run_persistent rfl _
  clear_value state
  obtain ⟨-, -, same, bytes⟩ :=
    @run_swap state stillAlways remove insert "tasks" "notes" rfl rfl (by decide)
  exact ⟨same, bytes file persistent⟩

end State

end DocumentStore
