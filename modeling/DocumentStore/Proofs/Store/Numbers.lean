import DocumentStore.Proofs.Json.Numbers
import DocumentStore.Proofs.Store.Durability

/-!
# Numbers in collections

Whatever a run does to the collections, every number in a stored document was there before it or in
a document that a call of the run has brought. So if all of these fit 64 bits, the stored ones do.
-/

namespace DocumentStore

namespace Document

/-- Every number in a document is a double or fits 64 bits. -/
def NumbersFit (document : Document) : Prop := ∀ n ∈ document.numbers, n.Fits

theorem NumbersFit.stamped {document : Document} (fits : document.NumbersFit) (stamp : Stamp) :
    (document.stamped stamp).NumbersFit :=
  fun n inside => fits n (numbers_stamped inside)

theorem NumbersFit.updated {stored changes : Document} (fits : stored.NumbersFit)
    (changesFit : changes.NumbersFit) (time : String) : (stored.updated changes time).NumbersFit :=
  fun n inside => (numbers_updated inside).elim (changesFit n) (fits n)

end Document

/-- The documents that an operation brings. -/
def Operation.brought : Operation → List Document
  | .insert _ document => [document]
  | .insertAll _ all => all
  | .update _ changes => [changes]
  | _ => []

namespace Snapshot

/-- Every number in a stored document is a double or fits 64 bits. -/
def NumbersFit (snapshot : Snapshot) : Prop :=
  ∀ entry ∈ snapshot.entries, ∀ document ∈ entry.2, document.NumbersFit

variable {snapshot : Snapshot}

theorem numbersFit_empty : NumbersFit Catalog.empty :=
  fun _ stored => absurd stored List.not_mem_nil

theorem NumbersFit.insert (fits : snapshot.NumbersFit) (name : String) {documents : List Document}
    (documentsFit : ∀ document ∈ documents, document.NumbersFit) :
    NumbersFit (Catalog.insert snapshot name documents) := by
  intro entry inside
  rcases Entries.mem_put inside with rfl | stood
  · exact documentsFit
  · exact fits entry stood

theorem NumbersFit.amend (fits : snapshot.NumbersFit) (name : String)
    {f : List Document → List Document}
    (keeps : ∀ documents, (∀ document ∈ documents, document.NumbersFit) →
      ∀ document ∈ f documents, document.NumbersFit) : (snapshot.amend name f).NumbersFit := by
  cases found : snapshot.get? name with
  | none =>
    rw [amend_of_missing found]
    exact fits
  | some documents =>
    rw [amend_of_get? found]
    exact fits.insert name (keeps documents (fits _ (Entries.mem_of_get? found)))

theorem numbersFit_updateStored {changes : Document} (changesFit : changes.NumbersFit)
    (time : String) {documents : List Document}
    (fits : ∀ document ∈ documents, document.NumbersFit) :
    ∀ document ∈ updateStored changes time documents, document.NumbersFit := by
  unfold updateStored
  split
  · exact fits
  · split
    · exact fits
    · rename_i updated after found
      obtain ⟨before, stored, rest, rfl, -, rfl, rfl⟩ := Collection.updateFirst?_eq_some found
      obtain ⟨beforeFit, othersFit⟩ := List.forall_mem_append.1 fits
      obtain ⟨storedFit, restFit⟩ := List.forall_mem_cons.1 othersFit
      exact List.forall_mem_append.2 ⟨beforeFit,
        List.forall_mem_cons.2 ⟨storedFit.updated changesFit time, restFit⟩⟩

theorem numbersFit_stampAll (supply : Nat → Stamp) {documents : List Document}
    (fits : ∀ document ∈ documents, document.NumbersFit) :
    ∀ document ∈ Collection.stampAll supply documents, document.NumbersFit := by
  intro document inside
  obtain ⟨⟨brought, i⟩, listed, rfl⟩ := List.mem_map.1 inside
  exact (fits brought (List.fst_mem_of_mem_zipIdx listed)).stamped (supply i)

/-- An operation leaves numbers that fit if the documents that it brings have such numbers. -/
theorem NumbersFit.after (fits : snapshot.NumbersFit) (supply : Nat → Stamp)
    {operation : Operation} (broughtFit : ∀ document ∈ operation.brought, document.NumbersFit) :
    (snapshot.after supply operation).NumbersFit := by
  cases operation with
  | create name => exact fits.insert name nofun
  | ensure name =>
    rw [Snapshot.after]
    split
    · exact fits
    · exact fits.insert name nofun
  | insert name document =>
    refine fits.amend name fun documents documentsFit => List.forall_mem_append.2 ⟨documentsFit, ?_⟩
    exact List.forall_mem_singleton.2 ((List.forall_mem_singleton.1 broughtFit).stamped (supply 0))
  | insertAll name brought =>
    exact fits.amend name fun documents documentsFit => List.forall_mem_append.2
      ⟨documentsFit, numbersFit_stampAll supply broughtFit⟩
  | update name changes =>
    exact fits.amend name fun documents documentsFit =>
      numbersFit_updateStored (List.forall_mem_singleton.1 broughtFit) _ documentsFit
  | remove name id =>
    exact fits.amend name fun documents documentsFit document inside =>
      documentsFit document (List.mem_filter.1 inside).1
  | clear => exact numbersFit_empty
  | flush | names | documents name | find name condition | query statement => exact fits

end Snapshot

end DocumentStore
