import DocumentStore.Disk.Access

/-!
# What a change leaves on a disk

A change at one place touches what stands there and below it, and nothing else: every file whose
way does not lead through the place keeps its content, and every directory stays as long as none
stood at the place itself. A path is here the list of all names that lead to what it names.
-/

namespace DocumentStore

theorem Entries.get?_filter_ne {α : Type} {name other : String} (different : other ≠ name)
    (entries : List (String × α)) :
    get? other (entries.filter fun entry => entry.1 != name) = get? other entries := by
  induction entries with
  | nil => rfl
  | cons first rest ih =>
    obtain ⟨key, value⟩ := first
    by_cases same : key = name
    · have passed : other ≠ key := fun equal => different (equal.trans same)
      simp [get?, same, ih, different]
    · simp [get?, same, ih]

namespace Directory

/-- The content of the file at a path. -/
def file? (directory : Directory) : List String → Option ByteArray
  | [] => none
  | name :: rest =>
    match Entries.get? name directory with
    | some (.directory inner) => file? inner rest
    | some (.file content) => if rest = [] then some content else none
    | none => none

/-- A function changes nothing in a directory but what stands under a name. -/
def ChangesOnly (name : String) (f : Directory → Directory) : Prop :=
  ∀ directory other, other ≠ name → Entries.get? other (f directory) = Entries.get? other directory

theorem changesOnly_put (name : String) (node : Node) : ChangesOnly name (Entries.put name node) :=
  fun directory _ different => Entries.get?_put_of_ne different node directory

theorem changesOnly_filter (name : String) :
    ChangesOnly name (·.filter fun entry => entry.1 != name) :=
  fun directory _ different => Entries.get?_filter_ne different directory

theorem file?_change_elsewhere {name : String} {f : Directory → Directory}
    (only : ChangesOnly name f) {location path : List String}
    (elsewhere : ¬ location ++ [name] <+: path) (directory : Directory) :
    (directory.change f location).file? path = directory.file? path := by
  induction location generalizing directory path with
  | nil =>
    cases path with
    | nil => rfl
    | cons first rest =>
      have different : first ≠ name := by
        intro same
        exact elsewhere ⟨rest, by rw [same]; rfl⟩
      simp only [change, file?, only directory first different]
  | cons step location ih =>
    cases path with
    | nil => rfl
    | cons first rest =>
      cases found : Entries.get? step directory with
      | none => simp only [change, found]
      | some node =>
        cases node with
        | file content => simp only [change, found]
        | directory inner =>
          by_cases same : first = step
          · have below : ¬ location ++ [name] <+: rest := by
              rintro ⟨beyond, rfl⟩
              exact elsewhere ⟨beyond, by rw [same]; rfl⟩
            subst same
            simp only [change, found, file?, Entries.get?_put_self, ih below inner]
          · simp only [change, found, file?, Entries.get?_put_of_ne same]

/-- An empty directory put where nothing stood holds no file. -/
theorem file?_change_put_directory {name : String} {location : List String}
    {directory : Directory}
    (nothing : (directory.at? location).bind (Entries.get? name) = none) (path : List String) :
    (directory.change (Entries.put name (.directory [])) location).file? path =
      directory.file? path := by
  induction location generalizing directory path with
  | nil =>
    cases path with
    | nil => rfl
    | cons first rest =>
      by_cases same : first = name
      · subst same
        have absent : Entries.get? first directory = none := nothing
        simp only [change, file?, Entries.get?_put_self, absent]
        cases rest with
        | nil => rfl
        | cons second rest => rfl
      · simp only [change, file?, Entries.get?_put_of_ne same]
  | cons step location ih =>
    cases path with
    | nil => rfl
    | cons first rest =>
      cases found : Entries.get? step directory with
      | none => simp only [change, found]
      | some node =>
        cases node with
        | file content => simp only [change, found]
        | directory inner =>
          by_cases same : first = step
          · subst same
            have below : (Directory.at? inner location).bind (Entries.get? name) = none := by
              simpa only [at?, found] using nothing
            simp only [change, found, file?, Entries.get?_put_self, ih below]
          · simp only [change, found, file?, Entries.get?_put_of_ne same]

theorem at?_change_isSome {name : String} {f : Directory → Directory} (only : ChangesOnly name f)
    {location : List String} {directory : Directory}
    (noDirectory : ∀ inner, (directory.at? location).bind (Entries.get? name) ≠
      some (.directory inner)) {other : List String} (stands : (directory.at? other).isSome) :
    ((directory.change f location).at? other).isSome := by
  induction location generalizing directory other with
  | nil =>
    cases other with
    | nil => rfl
    | cons first rest =>
      by_cases same : first = name
      · subst same
        cases found : Entries.get? first directory with
        | none => simp [at?, found] at stands
        | some node =>
          cases node with
          | file content => simp [at?, found] at stands
          | directory inner => exact absurd found (noDirectory inner)
      · simpa only [change, at?, only directory first same] using stands
  | cons step location ih =>
    cases other with
    | nil => rfl
    | cons first rest =>
      cases found : Entries.get? step directory with
      | none => simpa only [change, found] using stands
      | some node =>
        cases node with
        | file content => simpa only [change, found] using stands
        | directory inner =>
          by_cases same : first = step
          · subst same
            have below : ∀ inner', (Directory.at? inner location).bind (Entries.get? name) ≠
                some (Node.directory inner') := by
              simpa only [at?, found] using noDirectory
            have stands' : (Directory.at? inner rest).isSome := by simpa only [at?, found] using stands
            simpa only [change, found, at?, Entries.get?_put_self] using ih below stands'
          · simpa only [change, found, at?, Entries.get?_put_of_ne same] using stands

theorem at?_append_singleton (directory : Directory) (location : List String) (name : String) :
    directory.at? (location ++ [name]) =
      match (directory.at? location).bind (Entries.get? name) with
      | some (.directory inner) => some inner
      | _ => none := by
  induction location generalizing directory with
  | nil => rfl
  | cons first rest ih =>
    cases found : Entries.get? first directory with
    | none => simp [at?, found]
    | some node =>
      cases node with
      | file content => simp [at?, found]
      | directory inner => simpa [at?, found] using ih inner

theorem file?_append_singleton (directory : Directory) (location : List String) (name : String) :
    directory.file? (location ++ [name]) =
      match (directory.at? location).bind (Entries.get? name) with
      | some (.file content) => some content
      | _ => none := by
  induction location generalizing directory with
  | nil =>
    cases found : Entries.get? name directory with
    | none => simp [at?, file?, found]
    | some node => cases node <;> simp [at?, file?, found]
  | cons first rest ih =>
    cases found : Entries.get? first directory with
    | none => simp [at?, file?, found]
    | some node =>
      cases node with
      | file content => simp [at?, file?, found]
      | directory inner => simpa [at?, file?, found] using ih inner

end Directory

namespace Disk

theorem read?_eq_file? (disk : Disk) (place : Place) :
    disk.read? place = disk.root.file? place.below := by
  rw [Place.below, Directory.file?_append_singleton]
  rfl

theorem read?_put_elsewhere {place other : Place} (elsewhere : ¬ place.below <+: other.below)
    (disk : Disk) (node : Node) : (disk.put place node).read? other = disk.read? other := by
  rw [read?_eq_file?, read?_eq_file?]
  exact Directory.file?_change_elsewhere (Directory.changesOnly_put place.name node) elsewhere
    disk.root

theorem read?_put_directory {disk : Disk} {place : Place} (nothing : disk.node? place = none)
    (other : Place) : (disk.put place (.directory [])).read? other = disk.read? other := by
  rw [read?_eq_file?, read?_eq_file?]
  exact Directory.file?_change_put_directory nothing other.below

theorem read?_put_self {disk : Disk} {place : Place}
    (inside : (disk.directory? place.location).isSome) (content : ByteArray) :
    (disk.put place (.file content)).read? place = some content := by
  rw [read?, node?_put_self disk place _ inside]

/-- Neither of two places in one directory stands below the other. -/
theorem not_below_of_ne {place other : Place} (together : place.location = other.location)
    (different : place.name ≠ other.name) : ¬ place.below <+: other.below := by
  rintro ⟨beyond, same⟩
  rw [Place.below, Place.below, together, List.append_assoc] at same
  obtain ⟨names, -⟩ := List.cons.inj (List.append_cancel_left same)
  exact different names

theorem node?_of_names_eq_nil {disk : Disk} {place : Place}
    (empty : disk.names place.location = []) : disk.node? place = none := by
  rw [names, List.map_eq_nil_iff] at empty
  rw [node?]
  cases stands : disk.directory? place.location with
  | none => rfl
  | some directory =>
    rw [stands] at empty
    obtain rfl : directory = [] := empty
    rfl

theorem directory?_below (disk : Disk) (place : Place) :
    disk.directory? place.below =
      match disk.node? place with
      | some (.directory inner) => some inner
      | _ => none :=
  Directory.at?_append_singleton disk.root place.location place.name

theorem directory?_put_isSome {disk : Disk} {place : Place} {node : Node}
    (noDirectory : ∀ inner, disk.node? place ≠ some (.directory inner)) {location : List String}
    (stands : (disk.directory? location).isSome) :
    ((disk.put place node).directory? location).isSome :=
  Directory.at?_change_isSome (Directory.changesOnly_put place.name node) noDirectory stands

theorem directory?_erase_isSome {disk : Disk} {place : Place}
    (noDirectory : ∀ inner, disk.node? place ≠ some (.directory inner)) {location : List String}
    (stands : (disk.directory? location).isSome) :
    ((disk.erase place).directory? location).isSome :=
  Directory.at?_change_isSome (Directory.changesOnly_filter place.name) noDirectory stands

end Disk

end DocumentStore
