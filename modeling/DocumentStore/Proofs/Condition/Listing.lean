import DocumentStore.Proofs.Condition.Machine

/-!
# Operands that list their instructions

Where every operand tells the instructions that made it, and none is made up for one that is
missing, the operands on the stack tell, from the lowest to the topmost, exactly the instructions
that have been run. Each of them stands for one segment of the program, so a program that leaves one
operand is what this operand tells.
-/

namespace DocumentStore.Interpretation

variable {α : Type} {i : Interpretation α} {listing : α → List Token}

/-- Every operand lists the instructions that made it, those of its left operand first, and an
operand that is missing or left over is refused. -/
structure Lists (i : Interpretation α) (listing : α → List Token) : Prop where
  name : ∀ {s a}, i.name s = .ok a → listing a = [.name s]
  literal : ∀ {l a}, i.literal l = .ok a → listing a = [.literal l]
  apply : ∀ {op left right a}, i.apply op left right = .ok a →
    listing a = listing left ++ listing right ++ [.operator op]
  missing : i.missing = refuseMissing
  finish : i.finish = finishSingle

theorem eq_cons_of_pop (missing : i.missing = refuseMissing) {op : Operator} {stack rest : List α}
    {a : α} (popped : i.pop op stack = .ok (a, rest)) : stack = a :: rest := by
  cases stack with
  | nil =>
    rw [pop, missing] at popped
    cases popped
  | cons top stack =>
    cases popped
    rfl

theorem finishSingle_eq_some {stack : List α} {value : α}
    (finished : finishSingle stack = .ok (some value)) : stack = [value] := by
  obtain _ | ⟨top, _ | ⟨below, rest⟩⟩ := stack <;> cases finished
  rfl

namespace Lists

/-- One instruction more has been run, and one more is listed. -/
theorem step (lists : Lists i listing) {stack next : List α} {token : Token}
    (stepped : i.step stack token = .ok next) :
    next.reverse.flatMap listing = stack.reverse.flatMap listing ++ [token] := by
  obtain ⟨s, a, rfl, made, rfl⟩ | ⟨l, a, rfl, made, rfl⟩ |
    ⟨op, right, left, a, afterRight, rest, rfl, poppedRight, poppedLeft, applied, rfl⟩ :=
      step_eq_ok stepped
  · simp [lists.name made]
  · simp [lists.literal made]
  · -- The right operand lies on top, so in the listing it comes after the left one.
    rw [eq_cons_of_pop lists.missing poppedRight, eq_cons_of_pop lists.missing poppedLeft]
    simp [lists.apply applied]

theorem foldlM (lists : Lists i listing) {tokens : List Token} {stack last : List α}
    (ran : tokens.foldlM i.step stack = .ok last) :
    last.reverse.flatMap listing = stack.reverse.flatMap listing ++ tokens := by
  induction tokens generalizing stack with
  | nil =>
    cases ran
    rw [List.append_nil]
  | cons token rest ih =>
    obtain ⟨next, stepped, ran⟩ := foldlM_cons_eq_ok_iff.1 ran
    rw [ih ran, lists.step stepped, List.append_assoc]
    rfl

/-- A program that leaves one operand is what this operand lists. -/
theorem instructions (lists : Lists i listing) {program : Program} {value : α}
    (ran : i.run program = .ok (some value)) : program.instructions = listing value := by
  obtain ⟨last, folded, finished⟩ := bind_eq_ok_iff.1 ran
  rw [lists.finish] at finished
  have listed := lists.foldlM folded
  rw [finishSingle_eq_some finished] at listed
  simpa using listed.symm

end Lists

end DocumentStore.Interpretation
