import DocumentStore.Catalog

/-!
# Entries in order

What putting a value under a name does to entries whose values are changed alike, to entries that
hold the value already, and to entries that all come before the name.
-/

namespace DocumentStore

namespace Entries

variable {α β : Type}

theorem get?_map (f : α → β) (name : String) (entries : List (String × α)) :
    get? name (entries.map fun entry => (entry.1, f entry.2)) = (get? name entries).map f := by
  induction entries with
  | nil => rfl
  | cons first rest ih =>
    obtain ⟨other, value⟩ := first
    by_cases same : name = other
    · simp [get?, same]
    · simp [get?, same, ih]

theorem put_map (f : α → β) (name : String) (value : α) (entries : List (String × α)) :
    put name (f value) (entries.map fun entry => (entry.1, f entry.2)) =
      (put name value entries).map fun entry => (entry.1, f entry.2) := by
  induction entries with
  | nil => rfl
  | cons first rest ih =>
    obtain ⟨other, old⟩ := first
    simp only [List.map_cons, put]
    split
    · rfl
    · split
      · rfl
      · rw [ih]
        rfl

theorem get?_eq_none_iff {name : String} {entries : List (String × α)} :
    get? name entries = none ↔ name ∉ entries.map (·.1) := by
  induction entries with
  | nil => simp [get?]
  | cons first rest ih =>
    obtain ⟨other, value⟩ := first
    by_cases same : name = other
    · simp [get?, same]
    · simp [get?, same, ih]

/-- The order of entries does not count where the names are distinct. -/
theorem get?_of_perm {left right : List (String × α)} (perm : left.Perm right)
    (distinct : (left.map (·.1)).Nodup) (name : String) : get? name left = get? name right := by
  induction perm with
  | nil => rfl
  | cons entry _ ih => rw [get?, get?, ih (List.nodup_cons.1 distinct).2]
  | swap first second rest =>
    have different : second.1 ≠ first.1 := by
      rintro same
      simp [same] at distinct
    by_cases same : name = second.1
    · simp [get?, same, different]
    · simp [get?, same]
  | trans perm _ ihLeft ihRight =>
    rw [ihLeft distinct, ihRight ((perm.map _).nodup_iff.1 distinct)]

/-- Names can be left out. -/
theorem get?_filter (keep : String → Bool) (name : String) (entries : List (String × α)) :
    get? name (entries.filter fun entry => keep entry.1) =
      if keep name then get? name entries else none := by
  induction entries with
  | nil => simp [get?]
  | cons first rest ih =>
    obtain ⟨other, value⟩ := first
    by_cases same : name = other
    · subst same
      by_cases kept : keep name = true
      · simp [get?, kept]
      · simp [ih, kept]
    · by_cases kept : keep other = true
      · simp [get?, kept, same, ih]
      · simp [get?, kept, same, ih]

theorem mem_of_get? {name : String} {value : α} {entries : List (String × α)}
    (found : get? name entries = some value) : (name, value) ∈ entries := by
  induction entries with
  | nil => cases found
  | cons first rest ih =>
    obtain ⟨other, old⟩ := first
    rw [get?] at found
    split at found
    · rename_i same
      cases found
      rw [same]
      exact List.mem_cons_self
    · exact List.mem_cons_of_mem _ (ih found)

theorem get?_of_mem {name : String} {value : α} {entries : List (String × α)}
    (ordered : Ordered entries) (inside : (name, value) ∈ entries) :
    get? name entries = some value := by
  induction entries with
  | nil => cases inside
  | cons first rest ih =>
    obtain ⟨above, ordered⟩ := List.pairwise_cons.1 ordered
    rcases List.mem_cons.1 inside with rfl | inside
    · rw [get?, if_pos rfl]
    · have different : name ≠ first.1 := fun same =>
        String.lt_irrefl _ (same ▸ above _ inside)
      rw [get?, if_neg different, ih ordered inside]

theorem put_of_get? {name : String} {value : α} {entries : List (String × α)}
    (ordered : Ordered entries) (found : get? name entries = some value) :
    put name value entries = entries := by
  induction entries with
  | nil => cases found
  | cons first rest ih =>
    obtain ⟨other, old⟩ := first
    obtain ⟨above, ordered⟩ := List.pairwise_cons.1 ordered
    rw [get?] at found
    split at found
    · rename_i same
      cases found
      rw [put, same, if_neg (String.lt_irrefl _), if_pos rfl]
    · rename_i different
      have later : other < name := above _ (mem_of_get? found)
      rw [put, if_neg (fun before => String.lt_irrefl _ (String.lt_trans before later)),
        if_neg different, ih ordered found]

theorem le_of_get? {first : String × α} {rest : List (String × α)}
    (ordered : Ordered (first :: rest)) {name : String} {value : α}
    (found : get? name (first :: rest) = some value) : first.1 ≤ name := by
  rcases List.mem_cons.1 (mem_of_get? found) with rfl | inside
  · exact String.le_refl _
  · have less := (List.pairwise_cons.1 ordered).1 _ inside
    exact String.not_lt.1 fun after => String.lt_irrefl _ (String.lt_trans after less)

theorem get?_eq_none_of_ordered {name : String} {value : α} {rest : List (String × α)}
    (ordered : Ordered ((name, value) :: rest)) : get? name rest = none := by
  refine get?_eq_none_iff.2 fun inside => ?_
  obtain ⟨entry, member, rfl⟩ := List.mem_map.1 inside
  exact String.lt_irrefl _ ((List.pairwise_cons.1 ordered).1 entry member)

/-- Entries in order are the same if they have the same value under every name. -/
theorem ext_get? {left right : List (String × α)} (orderedLeft : Ordered left)
    (orderedRight : Ordered right) (same : ∀ name, get? name left = get? name right) :
    left = right := by
  induction left generalizing right with
  | nil =>
    cases right with
    | nil => rfl
    | cons first rest =>
      have here := same first.1
      rw [get?, get?, if_pos rfl] at here
      cases here
  | cons first rest ih =>
    obtain ⟨name, value⟩ := first
    have found : get? name right = some value := by rw [← same, get?, if_pos rfl]
    cases right with
    | nil => cases found
    | cons first' rest' =>
      obtain ⟨name', value'⟩ := first'
      have found' : get? name' ((name, value) :: rest) = some value' := by
        rw [same, get?, if_pos rfl]
      obtain rfl : name = name' :=
        String.le_antisymm (le_of_get? orderedLeft found') (le_of_get? orderedRight found)
      rw [get?, if_pos rfl] at found
      cases found
      have later : rest = rest' := by
        refine ih (List.pairwise_cons.1 orderedLeft).2 (List.pairwise_cons.1 orderedRight).2 ?_
        intro other
        by_cases this : other = name
        · rw [this, get?_eq_none_of_ordered orderedLeft, get?_eq_none_of_ordered orderedRight]
        · have there := same other
          rwa [get?, if_neg this, get?, if_neg this] at there
      rw [later]

/-- The new value comes to the others, and the one that it replaces is no longer among them. -/
theorem values_put_perm {name : String} (value : α) {entries : List (String × α)}
    (ordered : Ordered entries) :
    ((put name value entries).map (·.2) ++ (get? name entries).toList).Perm
      (value :: entries.map (·.2)) := by
  induction entries with
  | nil => exact .refl _
  | cons first rest ih =>
    obtain ⟨other, old⟩ := first
    have later := ih (List.pairwise_cons.1 ordered).2
    have put_ordered := ordered_put name value ordered
    rw [put] at put_ordered ⊢
    split at put_ordered
    · rename_i less
      rw [if_pos less, get?_eq_none_of_ordered put_ordered]
      simp
    · rename_i notLess
      rw [if_neg notLess, get?]
      by_cases same : name = other
      · rw [if_pos same, if_pos same]
        exact (List.perm_append_singleton old _).cons value
      · rw [if_neg same, if_neg same]
        exact (later.cons old).trans (.swap ..)

theorem put_of_all_lt {name : String} (value : α) {entries : List (String × α)}
    (before : ∀ entry ∈ entries, entry.1 < name) :
    put name value entries = entries ++ [(name, value)] := by
  induction entries with
  | nil => rfl
  | cons first rest ih =>
    obtain ⟨other, old⟩ := first
    have less : other < name := before _ List.mem_cons_self
    have different : name ≠ other := fun same => String.lt_irrefl _ (same ▸ less)
    rw [put, if_neg (fun after => String.lt_irrefl _ (String.lt_trans after less)),
      if_neg different, ih fun entry inside => before entry (List.mem_cons_of_mem _ inside)]
    rfl

theorem foldl_put_of_ordered {entries gathered : List (String × α)}
    (ordered : Ordered (gathered ++ entries)) :
    entries.foldl (fun gathered entry => put entry.1 entry.2 gathered) gathered =
      gathered ++ entries := by
  induction entries generalizing gathered with
  | nil => simp
  | cons entry rest ih =>
    have before : ∀ other ∈ gathered, other.1 < entry.1 := fun other inside =>
      (List.pairwise_append.1 ordered).2.2 other inside entry List.mem_cons_self
    rw [List.foldl_cons, put_of_all_lt entry.2 before, ih (by simpa using ordered)]
    simp

theorem gather_of_ordered {entries : List (String × α)} (ordered : Ordered entries) :
    gather entries = entries :=
  @foldl_put_of_ordered α entries [] ordered

end Entries

namespace Catalog

variable {α β : Type}

theorem get?_map (f : α → β) (catalog : Catalog α) (name : String) :
    (catalog.map f).get? name = (catalog.get? name).map f :=
  Entries.get?_map f name catalog.entries

theorem get?_eq_none_iff {catalog : Catalog α} {name : String} :
    catalog.get? name = none ↔ name ∉ catalog.names :=
  Entries.get?_eq_none_iff

theorem get?_of_mem {catalog : Catalog α} {name : String} {value : α}
    (inside : (name, value) ∈ catalog.entries) : catalog.get? name = some value :=
  Entries.get?_of_mem catalog.ordered inside

theorem ext_get? {left right : Catalog α} (same : ∀ name, left.get? name = right.get? name) :
    left = right :=
  ext (Entries.ext_get? left.ordered right.ordered same)

theorem names_map (f : α → β) (catalog : Catalog α) : (catalog.map f).names = catalog.names := by
  rw [names, names, map, List.map_map]
  rfl

theorem values_map (f : α → β) (catalog : Catalog α) :
    (catalog.map f).values = catalog.values.map f := by
  rw [values, values, map, List.map_map, List.map_map]
  rfl

theorem values_insert_perm (catalog : Catalog α) (name : String) (value : α) :
    ((catalog.insert name value).values ++ (catalog.get? name).toList).Perm
      (value :: catalog.values) :=
  Entries.values_put_perm value catalog.ordered

theorem map_insert (f : α → β) (catalog : Catalog α) (name : String) (value : α) :
    (catalog.insert name value).map f = (catalog.map f).insert name (f value) :=
  ext (Entries.put_map f name value catalog.entries).symm

theorem insert_of_get? {catalog : Catalog α} {name : String} {value : α}
    (found : catalog.get? name = some value) : catalog.insert name value = catalog :=
  ext (Entries.put_of_get? catalog.ordered found)

/-- A name keeps its place when its value is replaced. -/
theorem names_insert_of_get? {catalog : Catalog α} {name : String} {old : α}
    (found : catalog.get? name = some old) (value : α) :
    (catalog.insert name value).names = catalog.names := by
  have present : (catalog.map fun _ => ()).get? name = some () := by
    rw [get?_map, found]
    rfl
  calc (catalog.insert name value).names
      = ((catalog.insert name value).map fun _ => ()).names := (names_map ..).symm
    _ = ((catalog.map fun _ => ()).insert name ()).names := by rw [map_insert]
    _ = (catalog.map fun _ => ()).names := by rw [insert_of_get? present]
    _ = catalog.names := names_map ..

theorem ofList_entries (catalog : Catalog α) : ofList catalog.entries = catalog :=
  ext (Entries.gather_of_ordered catalog.ordered)

end Catalog

end DocumentStore
