/-!
# Computations that can fail

How a result of a composed computation comes about from the results of its parts.
-/

namespace DocumentStore

variable {ε α β : Type}

/-- Why a computation fails, if it does. -/
def failure? : Except ε α → Option ε
  | .ok _ => none
  | .error error => some error

theorem failure?_eq_some_iff {x : Except ε α} {error : ε} :
    failure? x = some error ↔ x = .error error := by
  cases x with
  | error e => simp [failure?]
  | ok a => simp [failure?]

theorem bind_eq_ok_iff {x : Except ε α} {f : α → Except ε β} {b : β} :
    x >>= f = .ok b ↔ ∃ a, x = .ok a ∧ f a = .ok b := by
  cases x with
  | error e => simp [bind, Except.bind]
  | ok a => simp [bind, Except.bind]

theorem bind_eq_error_iff {x : Except ε α} {f : α → Except ε β} {error : ε} :
    x >>= f = .error error ↔ x = .error error ∨ ∃ a, x = .ok a ∧ f a = .error error := by
  cases x with
  | error e => simp [bind, Except.bind]
  | ok a => simp [bind, Except.bind]

theorem map_eq_ok_iff {x : Except ε α} {f : α → β} {b : β} :
    x.map f = .ok b ↔ ∃ a, x = .ok a ∧ f a = b := by
  cases x with
  | error e => simp [Except.map]
  | ok a => simp [Except.map]

theorem mapError_eq_ok_iff {ε' : Type} {x : Except ε α} {f : ε → ε'} {a : α} :
    x.mapError f = .ok a ↔ x = .ok a := by
  cases x with
  | error e => exact ⟨nofun, nofun⟩
  | ok b =>
    exact ⟨fun same => congrArg _ (Except.ok.inj same), fun same => congrArg _ (Except.ok.inj same)⟩

theorem foldlM_cons_of_ok {f : β → α → Except ε β} {x : α} {start next : β}
    (first : f start x = .ok next) (rest : List α) :
    (x :: rest).foldlM f start = rest.foldlM f next := by
  rw [List.foldlM_cons, first]
  rfl

theorem foldlM_append_of_ok {f : β → α → Except ε β} {before : List α} {start middle : β}
    (first : before.foldlM f start = .ok middle) (rest : List α) :
    (before ++ rest).foldlM f start = rest.foldlM f middle := by
  rw [List.foldlM_append, first]
  rfl

theorem foldlM_cons_eq_ok_iff {f : β → α → Except ε β} {x : α} {rest : List α} {start last : β} :
    (x :: rest).foldlM f start = .ok last ↔
      ∃ next, f start x = .ok next ∧ rest.foldlM f next = .ok last := by
  rw [List.foldlM_cons, bind_eq_ok_iff]

theorem foldlM_concat_eq_ok_iff {f : β → α → Except ε β} {before : List α} {x : α}
    {start last : β} :
    (before ++ [x]).foldlM f start = .ok last ↔
      ∃ middle, before.foldlM f start = .ok middle ∧ f middle x = .ok last := by
  rw [List.foldlM_append, bind_eq_ok_iff]
  simp only [List.foldlM_cons, List.foldlM_nil, bind_pure]

/-- A row of results is what a function makes of every item, if it can be undone. -/
theorem mapM_eq_ok_iff {f : α → Except ε β} {g : β → α} {xs : List α}
    (undone : ∀ x ∈ xs, ∀ y, f x = .ok y ↔ x = g y) {ys : List β} :
    xs.mapM f = .ok ys ↔ xs = ys.map g := by
  induction xs generalizing ys with
  | nil => cases ys <;> simp [pure, Except.pure]
  | cons x rest ih =>
    obtain ⟨first, others⟩ := List.forall_mem_cons.1 undone
    rw [List.mapM_cons]
    constructor
    · intro mapped
      obtain ⟨y, here, mapped⟩ := bind_eq_ok_iff.1 mapped
      obtain ⟨more, later, same⟩ := bind_eq_ok_iff.1 mapped
      cases same
      rw [List.map_cons, ← (first y).1 here, ← (ih others).1 later]
    · intro same
      cases ys with
      | nil => cases same
      | cons y more =>
        obtain ⟨here, later⟩ := List.cons.inj same
        rw [(first y).2 here, (ih others).2 later]
        rfl

theorem exists_of_mapM_eq_ok {f : α → Except ε β} {xs : List α} {ys : List β}
    (mapped : xs.mapM f = .ok ys) {y : β} (inside : y ∈ ys) : ∃ x ∈ xs, f x = .ok y := by
  induction xs generalizing ys with
  | nil =>
    cases mapped
    cases inside
  | cons x rest ih =>
    rw [List.mapM_cons] at mapped
    obtain ⟨first, here, mapped⟩ := bind_eq_ok_iff.1 mapped
    obtain ⟨others, later, same⟩ := bind_eq_ok_iff.1 mapped
    cases same
    rcases List.mem_cons.1 inside with rfl | inside
    · exact ⟨x, List.mem_cons_self, here⟩
    · obtain ⟨x', member, there⟩ := ih later inside
      exact ⟨x', List.mem_cons_of_mem _ member, there⟩

end DocumentStore
