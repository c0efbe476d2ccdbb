import DocumentStore.Proofs.Disk.Contents

/-!
# What accesses leave on a disk

Making directories touches no file, whether it succeeds or breaks off. Writing a file touches no
other file, and a move that is refused touches none.
-/

namespace DocumentStore.Disk

theorem root_nextFate (disk : Disk) : disk.nextFate.2.root = disk.root := by
  unfold nextFate
  split <;> rfl

theorem node?_of_root {disk disk' : Disk} (same : disk'.root = disk.root) (place : Place) :
    disk'.node? place = disk.node? place := by
  simp only [node?, directory?, same]

theorem read?_of_root {disk disk' : Disk} (same : disk'.root = disk.root) (place : Place) :
    disk'.read? place = disk.read? place := by
  rw [read?, read?, node?_of_root same]

theorem node?_of_find_notFound {disk : Disk} {place : Place}
    (found : disk.find place = .error .notFound) : disk.node? place = none := by
  unfold find at found
  split at found
  · cases found
  · split at found
    · cases found
    · assumption

/-- Where a file can be put there is a directory to hold it, and none stands in the way. -/
theorem of_obstacle?_eq_none {disk : Disk} {place : Place} (free : disk.obstacle? place = none) :
    (disk.directory? place.location).isSome ∧
      ∀ inner, disk.node? place ≠ some (.directory inner) := by
  unfold obstacle? at free
  split at free
  · cases free
  · cases free
  · cases free
  · rename_i directory holder notDirectory shortName
    refine ⟨by rw [holder]; rfl, ?_⟩
    intro inner stands
    have short : ¬ Path.maxNameSize < place.name.utf8ByteSize := by
      intro long
      exact shortName (by rw [find, if_pos long])
    exact notDirectory inner (by rw [find, if_neg short, stands])

theorem read?_makeDirectories (disk : Disk) (made : Bool) (location : List String)
    (components : List Path.Component) (place : Place) :
    (disk.makeDirectories made location components).2.read? place = disk.read? place := by
  induction components generalizing disk made location with
  | nil => rfl
  | cons component rest ih =>
    cases component with
    | name s =>
      rw [makeDirectories]
      split
      · exact ih ..
      · rfl
      · rename_i found
        rw [ih]
        exact read?_put_directory (node?_of_find_notFound found) place
      · rfl
    | root => exact ih ..
    | current => exact ih ..
    | parent => exact ih ..

theorem read?_createDirectories (disk : Disk) (path : String) (place : Place) :
    (disk.createDirectories path).2.read? place = disk.read? place := by
  have unchanged := read?_of_root (root_nextFate disk) place
  rcases next : disk.nextFate with ⟨fate, after⟩
  rw [next] at unchanged
  by_cases empty : path.isEmpty
  · rw [createDirectories, if_pos empty]
  · rw [createDirectories, if_neg empty, next]
    cases fate <;> cases Path.error? (Path.trimEnd path)
    case granted.none => exact (read?_makeDirectories ..).trans unchanged
    all_goals exact unchanged

theorem read?_write_elsewhere {place other : Place}
    (elsewhere : ¬ place.below <+: other.below) (disk : Disk) (content : ByteArray) :
    (disk.write place content).2.read? other = disk.read? other := by
  have unchanged := read?_of_root (root_nextFate disk) other
  rcases next : disk.nextFate with ⟨fate, after⟩
  rw [next] at unchanged
  simp only [write, next]
  split
  · exact unchanged
  · exact unchanged
  · rw [read?_put_elsewhere elsewhere]
    exact unchanged
  · rw [read?_put_elsewhere elsewhere]
    exact unchanged

/-- A file that could be written stands where none of the directories was in its way. -/
theorem of_write_eq_ok {disk disk' : Disk} {place : Place} {content : ByteArray}
    (written : disk.write place content = (.ok (), disk')) :
    disk.nextFate.2.obstacle? place = none ∧
      disk' = disk.nextFate.2.put place (.file content) := by
  rcases next : disk.nextFate with ⟨fate, after⟩
  simp only [write, next] at written
  split at written
  · cases written
  · cases written
  · rename_i free
    cases written
    exact ⟨free, rfl⟩
  · cases written

theorem read?_of_write_eq_ok {disk disk' : Disk} {place : Place} {content : ByteArray}
    (written : disk.write place content = (.ok (), disk')) : disk'.read? place = some content := by
  obtain ⟨free, rfl⟩ := of_write_eq_ok written
  exact read?_put_self (of_obstacle?_eq_none free).1 content

theorem read?_of_rename_eq_error {disk disk' : Disk} {source target : Place} {error : DiskError}
    (refused : disk.rename source target = (.error error, disk')) (place : Place) :
    disk'.read? place = disk.read? place := by
  have unchanged := read?_of_root (root_nextFate disk) place
  rcases next : disk.nextFate with ⟨fate, after⟩
  rw [next] at unchanged
  cases fate <;> simp only [rename, next] at refused
  case granted => split at refused <;> cases refused <;> exact unchanged
  all_goals
    cases refused
    exact unchanged

/-- What a move that succeeds found, and what it leaves. -/
theorem of_rename_eq_ok {disk disk' : Disk} {source target : Place}
    (moved : disk.rename source target = (.ok (), disk')) :
    ∃ content, disk.read? source = some content ∧
      disk.nextFate.2.obstacle? target = none ∧
      disk' = (disk.nextFate.2.erase source).put target (.file content) := by
  have unchanged := read?_of_root (root_nextFate disk) source
  rcases next : disk.nextFate with ⟨fate, after⟩
  rw [next] at unchanged
  cases fate <;> simp only [rename, next] at moved
  case granted =>
    split at moved
    · cases moved
    · cases moved
    · rename_i content stood free
      cases moved
      exact ⟨content, unchanged ▸ stood, free, rfl⟩
  all_goals cases moved

theorem not_directory_of_read? {disk : Disk} {place : Place} {content : ByteArray}
    (stands : disk.read? place = some content) (inner : Directory) :
    disk.node? place ≠ some (.directory inner) := by
  intro directory
  rw [read?, directory] at stands
  cases stands

theorem read?_of_rename_eq_ok {disk disk' : Disk} {source target : Place}
    (moved : disk.rename source target = (.ok (), disk')) :
    disk'.read? target = disk.read? source := by
  obtain ⟨content, stood, free, rfl⟩ := of_rename_eq_ok moved
  have stood' := (read?_of_root (root_nextFate disk) source).trans stood
  rw [stood]
  exact read?_put_self
    (directory?_erase_isSome (not_directory_of_read? stood') (of_obstacle?_eq_none free).1) content

end DocumentStore.Disk
