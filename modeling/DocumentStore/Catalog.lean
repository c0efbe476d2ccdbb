/-!
# Catalogs

A catalog maps names to values and lists its names in increasing order, so that two catalogs with
the same entries are equal. The functions on plain lists of entries serve catalogs and the fields
of JSON objects alike.
-/

namespace DocumentStore

namespace Entries

variable {α β : Type}

/-- The value under a name: the first one, should the name occur more than once. -/
def get? (name : String) : List (String × α) → Option α
  | [] => none
  | (other, value) :: rest => if name = other then some value else get? name rest

/-- Puts a value under a name, in the place of the old value or where the order demands. -/
def put (name : String) (value : α) : List (String × α) → List (String × α)
  | [] => [(name, value)]
  | (other, old) :: rest =>
    if name < other then (name, value) :: (other, old) :: rest
    else if name = other then (name, value) :: rest
    else (other, old) :: put name value rest

/-- Puts all entries of a list in order; of entries with the same name the last one counts. -/
def gather (entries : List (String × α)) : List (String × α) :=
  entries.foldl (fun gathered entry => put entry.1 entry.2 gathered) []

/-- Each name occurs once and the names increase. -/
def Ordered (entries : List (String × α)) : Prop := entries.Pairwise (fun a b => a.1 < b.1)

theorem mem_put {name : String} {value : α} {entry : String × α} {entries : List (String × α)}
    (h : entry ∈ put name value entries) : entry = (name, value) ∨ entry ∈ entries := by
  induction entries with
  | nil => simpa [put] using h
  | cons first rest ih =>
    obtain ⟨other, old⟩ := first
    simp only [put] at h
    split at h
    · simpa using h
    · split at h
      · rcases List.mem_cons.1 h with h | h
        · exact .inl h
        · exact .inr (List.mem_cons_of_mem _ h)
      · rcases List.mem_cons.1 h with h | h
        · exact .inr (h ▸ List.mem_cons_self)
        · exact (ih h).imp id (List.mem_cons_of_mem _)

theorem ordered_put (name : String) (value : α) {entries : List (String × α)}
    (h : Ordered entries) : Ordered (put name value entries) := by
  induction entries with
  | nil => simp [put, Ordered]
  | cons first rest ih =>
    obtain ⟨other, old⟩ := first
    obtain ⟨above, tail⟩ := List.pairwise_cons.1 h
    simp only [put]
    split
    · rename_i less
      refine List.pairwise_cons.2 ⟨fun entry inside => ?_, h⟩
      rcases List.mem_cons.1 inside with rfl | inside
      · exact less
      · exact String.lt_trans less (above entry inside)
    · split
      · rename_i same
        subst same
        exact List.pairwise_cons.2 ⟨above, tail⟩
      · rename_i notLess different
        refine List.pairwise_cons.2 ⟨fun entry inside => ?_, ih tail⟩
        rcases mem_put inside with rfl | inside
        · exact String.not_le.1 fun le =>
            different (String.le_antisymm le (String.not_lt.1 notLess))
        · exact above entry inside

theorem ordered_foldl_put (entries gathered : List (String × α)) (h : Ordered gathered) :
    Ordered (entries.foldl (fun gathered entry => put entry.1 entry.2 gathered) gathered) := by
  induction entries generalizing gathered with
  | nil => exact h
  | cons entry rest ih => exact ih _ (ordered_put _ _ h)

theorem ordered_gather (entries : List (String × α)) : Ordered (gather entries) :=
  ordered_foldl_put entries [] List.Pairwise.nil

theorem get?_put_self (name : String) (value : α) (entries : List (String × α)) :
    get? name (put name value entries) = some value := by
  induction entries with
  | nil => simp [put, get?]
  | cons first rest ih =>
    obtain ⟨other, old⟩ := first
    simp only [put]
    split
    · simp [get?]
    · split
      · simp [get?]
      · rename_i different
        simp [get?, different, ih]

theorem get?_put_of_ne {name other : String} (different : name ≠ other) (value : α)
    (entries : List (String × α)) : get? name (put other value entries) = get? name entries := by
  induction entries with
  | nil => simp [put, get?, different]
  | cons first rest ih =>
    obtain ⟨key, old⟩ := first
    simp only [put]
    split
    · simp [get?, different]
    · split
      · rename_i same
        subst same
        simp [get?, different]
      · simp [get?, ih]

/-- Only the names count for the order. -/
theorem ordered_iff_names {entries : List (String × α)} :
    Ordered entries ↔ (entries.map (·.1)).Pairwise (· < ·) :=
  List.pairwise_map.symm

theorem ordered_map {entries : List (String × α)} (h : Ordered entries) (f : α → β) :
    Ordered (entries.map fun entry => (entry.1, f entry.2)) :=
  List.pairwise_map.2 h

end Entries

/-- A map from names to values, with its entries in the order of their names. -/
structure Catalog (α : Type) where
  entries : List (String × α)
  ordered : Entries.Ordered entries

namespace Catalog

variable {α β : Type}

@[ext] theorem ext {left right : Catalog α} (h : left.entries = right.entries) : left = right := by
  cases left; cases right; cases h; rfl

/-- The catalog without entries. -/
def empty : Catalog α := ⟨[], List.Pairwise.nil⟩

/-- The value under a name. -/
def get? (catalog : Catalog α) (name : String) : Option α := Entries.get? name catalog.entries

/-- Puts a value under a name, replacing the one that stood there. -/
def insert (catalog : Catalog α) (name : String) (value : α) : Catalog α :=
  ⟨Entries.put name value catalog.entries, Entries.ordered_put name value catalog.ordered⟩

/-- The names in increasing order. -/
def names (catalog : Catalog α) : List String := catalog.entries.map (·.1)

/-- The values in the order of their names. -/
def values (catalog : Catalog α) : List α := catalog.entries.map (·.2)

/-- Applies a function to every value. -/
def map (f : α → β) (catalog : Catalog α) : Catalog β :=
  ⟨catalog.entries.map fun entry => (entry.1, f entry.2), Entries.ordered_map catalog.ordered f⟩

/-- The catalog of a list of entries; of entries with the same name the last one counts. -/
def ofList (entries : List (String × α)) : Catalog α :=
  ⟨Entries.gather entries, Entries.ordered_gather entries⟩

@[simp] theorem get?_insert_self (catalog : Catalog α) (name : String) (value : α) :
    (catalog.insert name value).get? name = some value :=
  Entries.get?_put_self name value catalog.entries

theorem get?_insert_of_ne (catalog : Catalog α) {name other : String} (different : name ≠ other)
    (value : α) : (catalog.insert other value).get? name = catalog.get? name :=
  Entries.get?_put_of_ne different value catalog.entries

end Catalog

end DocumentStore
