import DocumentStore.Proofs.Json.RoundTrip
import DocumentStore.Snapshot

/-!
# Decoding snapshots

The text of a snapshot is decoded to the snapshot again, if its documents are nested at most 125
levels deep and their numbers are kept by JSON texts. The snapshot itself is two levels more: an
object that holds the array of each collection. If its numbers can be read but not all are kept, the
names of the collections still are, and with a document that is nested deeper nothing is decoded.
-/

namespace DocumentStore

namespace Document

/-- A document can be stored: the object of its fields included it is at most 125 levels deep, and
its numbers are kept. -/
structure Storable (document : Document) : Prop where
  shallow : document.toJson.depth ≤ 125
  kept : document.toJson.NumbersKept

theorem ofJson?_toJson (document : Document) : ofJson? document.toJson = some document := by
  have same : Entries.gather (Json.arrangeValues document.fields) = document.fields := by
    rw [Json.arrangeValues_of_ordered document.ordered.2,
      Entries.gather_of_ordered document.ordered.1]
  exact congrArg some (ext same)

end Document

namespace Json

theorem depthOfItems_le_iff {items : List Json} {bound : Nat} :
    depthOfItems items ≤ bound ↔ ∀ item ∈ items, item.depth ≤ bound := by
  induction items with
  | nil => simp [depthOfItems]
  | cons item rest ih => rw [depthOfItems, Nat.max_le, ih, List.forall_mem_cons]

theorem depthOfFields_le_iff {fields : List (String × Json)} {bound : Nat} :
    depthOfFields fields ≤ bound ↔ ∀ field ∈ fields, field.2.depth ≤ bound := by
  induction fields with
  | nil => simp [depthOfFields]
  | cons field rest ih => rw [depthOfFields, Nat.max_le, ih, List.forall_mem_cons]

theorem itemNumbersKept_iff {items : List Json} :
    ItemNumbersKept items ↔ ∀ item ∈ items, item.NumbersKept := by
  induction items with
  | nil => simp [ItemNumbersKept]
  | cons item rest ih => simp [ItemNumbersKept, ih]

theorem fieldNumbersKept_iff {fields : List (String × Json)} :
    FieldNumbersKept fields ↔ ∀ field ∈ fields, field.2.NumbersKept := by
  induction fields with
  | nil => simp [FieldNumbersKept]
  | cons field rest ih => simp [FieldNumbersKept, ih]

end Json

namespace Snapshot

/-- The snapshot can be stored: every document in it can. -/
def Storable (snapshot : Snapshot) : Prop :=
  ∀ entry ∈ snapshot.entries, ∀ document ∈ entry.2, document.Storable

/-- Every document is nested at most 125 levels deep. -/
def Shallow (snapshot : Snapshot) : Prop :=
  ∀ entry ∈ snapshot.entries, ∀ document ∈ entry.2, document.toJson.depth ≤ 125

theorem shallow_empty : Shallow Catalog.empty :=
  fun _ stored => absurd stored List.not_mem_nil

instance (snapshot : Snapshot) : Decidable snapshot.Shallow :=
  inferInstanceAs (Decidable (∀ entry ∈ snapshot.entries, ∀ document ∈ entry.2, _))

theorem depth_toJson_le_iff {snapshot : Snapshot} :
    snapshot.toJson.depth ≤ Json.maxDepth ↔ snapshot.Shallow := by
  have documents (documents : List Document) :
      (Json.array (documents.map Document.toJson)).depth ≤ 126 ↔
        ∀ document ∈ documents, document.toJson.depth ≤ 125 := by
    rw [Json.depth, Nat.succ_le_succ_iff, Json.depthOfItems_le_iff, List.forall_mem_map]
  change Json.depthOfFields _ + 1 ≤ 126 + 1 ↔ _
  rw [Nat.succ_le_succ_iff, Json.depthOfFields_le_iff]
  exact List.forall_mem_map.trans (forall₂_congr fun entry _ => documents entry.2)

theorem numbersKept_toJson {snapshot : Snapshot} (storable : snapshot.Storable) :
    snapshot.toJson.NumbersKept := by
  refine Json.fieldNumbersKept_iff.2 fun field inside => ?_
  obtain ⟨entry, stored, rfl⟩ := List.mem_map.1 inside
  refine Json.itemNumbersKept_iff.2 fun item inside => ?_
  obtain ⟨document, member, rfl⟩ := List.mem_map.1 inside
  exact (storable entry stored document member).kept

theorem documents?_toJson (documents : List Document) :
    documents? (.array (documents.map Document.toJson)) = some documents := by
  rw [documents?]
  induction documents with
  | nil => rfl
  | cons document rest ih =>
    rw [List.map_cons, List.mapM_cons, Document.ofJson?_toJson, ih]
    rfl

theorem collections?_toJson (entries : List (String × List Document)) :
    collections? (entries.map fun entry => (entry.1, .array (entry.2.map Document.toJson))) =
      some entries := by
  induction entries with
  | nil => rfl
  | cons entry rest ih =>
    rw [List.map_cons, collections?, documents?_toJson, ih]

theorem ofJson?_toJson (snapshot : Snapshot) : ofJson? snapshot.toJson = some snapshot := by
  have entries : collections? (snapshot.map fun documents =>
      Json.array (documents.map Document.toJson)).entries = some snapshot.entries :=
    collections?_toJson snapshot.entries
  rw [toJson, ofJson?, entries, Option.map_some, Catalog.ofList_entries]

/-- Decoding the text of a snapshot that can be stored gives the snapshot. -/
theorem decode?_encode {snapshot : Snapshot} (storable : snapshot.Storable) :
    decode? snapshot.encode = some snapshot := by
  have shallow : snapshot.Shallow := fun entry stored document member =>
    (storable entry stored document member).shallow
  rw [decode?, encode, String.toList_ofList,
    Json.read?_pretty (depth_toJson_le_iff.2 shallow) (numbersKept_toJson storable)]
  exact ofJson?_toJson snapshot

/-- The number of every document can be read. -/
def NumbersReadable (snapshot : Snapshot) : Prop :=
  ∀ entry ∈ snapshot.entries, ∀ document ∈ entry.2, ∀ n ∈ document.numbers, n.Readable

theorem readable_toJson {snapshot : Snapshot} (readable : snapshot.NumbersReadable) :
    ∀ n ∈ snapshot.toJson.numbers, n.Readable := by
  intro n inside
  obtain ⟨field, listed, inside⟩ := Json.mem_numbersOfFields.1 inside
  obtain ⟨entry, stored, rfl⟩ := List.mem_map.1 listed
  obtain ⟨item, shown, inside⟩ := Json.mem_numbersOfItems.1 inside
  obtain ⟨document, member, rfl⟩ := List.mem_map.1 shown
  exact readable entry stored document member n inside

theorem documents?_reread (documents : List Document) :
    ∃ reread, documents? (Json.array (documents.map Document.toJson)).reread = some reread := by
  rw [Json.reread]
  induction documents with
  | nil => exact ⟨[], rfl⟩
  | cons document rest ih =>
    obtain ⟨others, read⟩ := ih
    refine ⟨Document.ofFields (Json.rereadFields document.fields) :: others, ?_⟩
    rw [documents?] at read ⊢
    rw [List.map_cons, Json.rereadItems, List.mapM_cons, read]
    rfl

theorem collections?_reread (entries : List (String × List Document)) :
    ∃ reread, collections? (Json.rereadFields
      (entries.map fun entry => (entry.1, .array (entry.2.map Document.toJson)))) = some reread ∧
      reread.map (·.1) = entries.map (·.1) := by
  induction entries with
  | nil => exact ⟨[], rfl, rfl⟩
  | cons entry rest ih =>
    obtain ⟨others, read, names⟩ := ih
    obtain ⟨documents, first⟩ := documents?_reread entry.2
    refine ⟨(entry.1, documents) :: others, ?_, congrArg (entry.1 :: ·) names⟩
    rw [List.map_cons, Json.rereadFields, collections?, first, read]

/-- A text that was encoded is decoded to a snapshot with the same names, unless a document is
nested too deeply. Then it is not decoded at all. -/
theorem decode?_encode_of_readable {snapshot : Snapshot} (readable : snapshot.NumbersReadable) :
    (snapshot.Shallow ∧ ∃ reread, decode? snapshot.encode = some reread ∧
      reread.names = snapshot.names) ∨
    ¬ snapshot.Shallow ∧ decode? snapshot.encode = none := by
  rw [decode?, encode, String.toList_ofList,
    Json.read?_pretty_of_readable (readable_toJson readable)]
  by_cases shallow : snapshot.Shallow
  · obtain ⟨reread, read, names⟩ := collections?_reread snapshot.entries
    refine .inl ⟨shallow, Catalog.ofList reread, ?_, ?_⟩
    · rw [if_pos (depth_toJson_le_iff.2 shallow)]
      exact congrArg (Option.map Catalog.ofList) read
    · have ordered : Entries.Ordered reread := by
        rw [Entries.ordered_iff_names, names, ← Entries.ordered_iff_names]
        exact snapshot.ordered
      exact (congrArg (List.map (·.1)) (Entries.gather_of_ordered ordered)).trans names
  · refine .inr ⟨shallow, ?_⟩
    rw [if_neg fun fits => shallow (depth_toJson_le_iff.1 fits)]
    rfl

end Snapshot

end DocumentStore
