import DocumentStore.Proofs.Disk.Access

/-!
# Directories that stay

Making directories, writing a file and moving a file leave every directory where it is. So a path
whose directories were made once can be made again, and nothing changes then.
-/

namespace DocumentStore.Disk

/-- Every directory of a disk stands on a later one. -/
def Keeps (disk later : Disk) : Prop :=
  ∀ location, (disk.directory? location).isSome → (later.directory? location).isSome

theorem Keeps.trans {first second third : Disk} (before : Keeps first second)
    (after : Keeps second third) : Keeps first third :=
  fun location stands => after location (before location stands)

theorem keeps_of_root {disk later : Disk} (same : later.root = disk.root) : Keeps disk later := by
  intro location stands
  rw [directory?, same]
  exact stands

theorem keeps_put {disk : Disk} {place : Place} {node : Node}
    (noDirectory : ∀ inner, disk.node? place ≠ some (.directory inner)) :
    Keeps disk (disk.put place node) :=
  fun _ stands => directory?_put_isSome noDirectory stands

theorem keeps_erase {disk : Disk} {place : Place}
    (noDirectory : ∀ inner, disk.node? place ≠ some (.directory inner)) :
    Keeps disk (disk.erase place) :=
  fun _ stands => directory?_erase_isSome noDirectory stands

theorem keeps_of_write_eq_ok {disk later : Disk} {place : Place} {content : ByteArray}
    (written : disk.write place content = (.ok (), later)) : Keeps disk later := by
  obtain ⟨free, rfl⟩ := of_write_eq_ok written
  exact (keeps_of_root (root_nextFate disk)).trans (keeps_put (of_obstacle?_eq_none free).2)

theorem node?_erase_beside {place other : Place} (together : other.location = place.location)
    (different : other.name ≠ place.name) (disk : Disk) :
    (disk.erase place).node? other = disk.node? other := by
  simp only [node?, directory?, erase, together, Directory.at?_change_self]
  cases disk.root.at? place.location with
  | none => rfl
  | some directory => exact Entries.get?_filter_ne different directory

theorem keeps_of_rename_eq_ok {disk later : Disk} {source target : Place}
    (together : target.location = source.location) (different : target.name ≠ source.name)
    (moved : disk.rename source target = (.ok (), later)) : Keeps disk later := by
  obtain ⟨content, stood, free, rfl⟩ := of_rename_eq_ok moved
  have stood' := (read?_of_root (root_nextFate disk) source).trans stood
  have noDirectory : ∀ inner,
      (disk.nextFate.2.erase source).node? target ≠ some (.directory inner) := by
    rw [node?_erase_beside together different]
    exact (of_obstacle?_eq_none free).2
  have erased := keeps_erase (not_directory_of_read? stood')
  exact (keeps_of_root (root_nextFate disk)).trans (erased.trans (keeps_put noDirectory))

/-- Every directory that a row of components goes through from a location stands. -/
def Passable (disk : Disk) (location : List String) : List Path.Component → Prop
  | [] => True
  | .name s :: rest =>
    (∃ inner, disk.find ⟨location, s⟩ = .ok (.directory inner)) ∧
      Passable disk (location ++ [s]) rest
  | component :: rest => Passable disk (component.enter location) rest

theorem find_directory_iff {disk : Disk} {place : Place} :
    (∃ inner, disk.find place = .ok (.directory inner)) ↔
      ¬ Path.maxNameSize < place.name.utf8ByteSize ∧ (disk.directory? place.below).isSome := by
  rw [directory?_below, find]
  by_cases long : Path.maxNameSize < place.name.utf8ByteSize
  · simp [long]
  · rw [if_neg long]
    cases disk.node? place with
    | none => simp
    | some node => cases node <;> simp [long]

theorem Passable.of_keeps {disk later : Disk} (keeps : Keeps disk later) {location : List String}
    {components : List Path.Component} (passable : Passable disk location components) :
    Passable later location components := by
  induction components generalizing location with
  | nil => trivial
  | cons component rest ih =>
    cases component with
    | name s =>
      obtain ⟨found, passable⟩ := passable
      obtain ⟨short, stands⟩ := find_directory_iff.1 found
      exact ⟨find_directory_iff.2 ⟨short, keeps _ stands⟩, ih passable⟩
    | root | current | parent => exact ih passable

/-- Where all directories stand none is made. -/
theorem makeDirectories_of_passable {disk : Disk} {location : List String}
    {components : List Path.Component} (passable : Passable disk location components)
    (made : Bool) : disk.makeDirectories made location components = (.ok (), disk) := by
  induction components generalizing location made with
  | nil => rfl
  | cons component rest ih =>
    cases component with
    | name s =>
      obtain ⟨⟨inner, found⟩, passable⟩ := passable
      rw [makeDirectories, found]
      exact ih passable made
    | root | current | parent => exact ih passable made

theorem directory?_dropLast {disk : Disk} {location : List String}
    (stands : (disk.directory? location).isSome) :
    (disk.directory? location.dropLast).isSome := by
  rcases List.eq_nil_or_concat location with rfl | ⟨before, name, rfl⟩
  · rfl
  · rw [List.concat_eq_append, directory?, Directory.at?_append_singleton] at stands
    rw [List.concat_eq_append, List.dropLast_concat, directory?]
    cases found : disk.root.at? before with
    | none => simp [found] at stands
    | some directory => rfl

/-- What was made can be followed, and every directory that stood before still stands. -/
theorem passable_of_makeDirectories {disk later : Disk} {made : Bool} {location : List String}
    {components : List Path.Component} (stands : (disk.directory? location).isSome)
    (done : disk.makeDirectories made location components = (.ok (), later)) :
    Keeps disk later ∧ Passable later location components := by
  induction components generalizing disk made location with
  | nil =>
    cases done
    exact ⟨fun _ stands => stands, trivial⟩
  | cons component rest ih =>
    cases component with
    | name s =>
      rw [makeDirectories] at done
      split at done
      · rename_i inner found
        obtain ⟨short, below⟩ := find_directory_iff.1 ⟨inner, found⟩
        obtain ⟨keeps, passable⟩ := ih below done
        exact ⟨keeps, find_directory_iff.2 ⟨short, keeps _ below⟩, passable⟩
      · cases done
      · rename_i missing
        have nothing := node?_of_find_notFound missing
        have short : ¬ Path.maxNameSize < s.utf8ByteSize := by
          intro long
          rw [find, if_pos long] at missing
          cases missing
        have below : ((disk.put ⟨location, s⟩ (.directory [])).directory?
            (Place.below ⟨location, s⟩)).isSome := by
          rw [directory?_below, node?_put_self disk ⟨location, s⟩ _ stands]
          rfl
        have before : Keeps disk (disk.put ⟨location, s⟩ (.directory [])) :=
          keeps_put fun inner stood => by
            rw [nothing] at stood
            cases stood
        obtain ⟨keeps, passable⟩ := ih below done
        exact ⟨before.trans keeps, find_directory_iff.2 ⟨short, keeps _ below⟩, passable⟩
      · cases done
    | root => exact ih rfl done
    | current => exact ih stands done
    | parent => exact ih (directory?_dropLast stands) done

theorem directory?_of_passable {disk : Disk} {location : List String}
    {components : List Path.Component} (passable : Passable disk location components)
    (stands : (disk.directory? location).isSome) :
    (disk.directory? (components.foldl Path.Component.enter location)).isSome := by
  induction components generalizing location with
  | nil => exact stands
  | cons component rest ih =>
    cases component with
    | name s => exact ih passable.2 (find_directory_iff.1 passable.1).2
    | root => exact ih passable rfl
    | current => exact ih passable stands
    | parent => exact ih passable (directory?_dropLast stands)

/-- Where directories were made along a path, the one to which it leads stands. -/
theorem directory?_of_createDirectories {disk made : Disk} {path : String}
    (created : disk.createDirectories path = (.ok (), made)) :
    (made.directory? (Path.location path)).isSome := by
  by_cases empty : path.isEmpty
  · rw [String.isEmpty_iff.1 empty]
    rfl
  · rw [createDirectories, if_neg empty] at created
    split at created
    · cases created
    · cases created
    · cases created
    · exact directory?_of_passable (passable_of_makeDirectories rfl created).2 rfl

/-- A path whose directories were made once can be made again, as long as no directory is gone and
the disk lets it happen. Nothing changes then but the fates that are left. -/
theorem createDirectories_again {disk made later : Disk} {path : String}
    (created : disk.createDirectories path = (.ok (), made)) (keeps : Keeps made later)
    (granted : later.nextFate.1 = .granted) :
    ∃ rest, later.createDirectories path = (.ok (), rest) ∧
      (rest = later ∨ rest = later.nextFate.2) := by
  by_cases empty : path.isEmpty
  · exact ⟨later, by rw [createDirectories, if_pos empty], .inl rfl⟩
  · rw [createDirectories, if_neg empty] at created ⊢
    split at created
    · cases created
    · cases created
    · cases created
    · rename_i after _ fine
      have passable := (passable_of_makeDirectories rfl created).2.of_keeps
        (keeps.trans (keeps_of_root (root_nextFate later)))
      rcases next : later.nextFate with ⟨fate, rest⟩
      rw [next] at granted passable
      obtain rfl : fate = .granted := granted
      rw [fine]
      exact ⟨rest, makeDirectories_of_passable passable false, .inr rfl⟩

theorem nextFate_of_granting {disk : Disk} (granting : disk.fates = []) :
    disk.nextFate = (.granted, disk) := by
  rw [nextFate, granting]

theorem fates_makeDirectories (disk : Disk) (made : Bool) (location : List String)
    (components : List Path.Component) :
    (disk.makeDirectories made location components).2.fates = disk.fates := by
  induction components generalizing disk made location with
  | nil => rfl
  | cons component rest ih =>
    cases component with
    | name s =>
      rw [makeDirectories]
      split
      · exact ih ..
      · rfl
      · exact ih ..
      · rfl
    | root | current | parent => exact ih ..

theorem fates_createDirectories {disk later : Disk} {path : String} (granting : disk.fates = [])
    (created : disk.createDirectories path = (.ok (), later)) : later.fates = [] := by
  by_cases empty : path.isEmpty
  · rw [createDirectories, if_pos empty] at created
    cases created
    exact granting
  · rw [createDirectories, if_neg empty, nextFate_of_granting granting] at created
    split at created
    · cases created
    · cases created
    · cases created
    · rename_i same _
      cases same
      have fates := disk.fates_makeDirectories false [] (Path.components path)
      rw [created] at fates
      exact fates.trans granting

theorem createDirectories_of_granting {disk made later : Disk} {path : String}
    (created : disk.createDirectories path = (.ok (), made)) (keeps : Keeps made later)
    (granting : later.fates = []) : later.createDirectories path = (.ok (), later) := by
  have next := nextFate_of_granting granting
  obtain ⟨rest, again, rfl | rfl⟩ := createDirectories_again created keeps (by rw [next])
  · exact again
  · rw [again, next]

end DocumentStore.Disk
