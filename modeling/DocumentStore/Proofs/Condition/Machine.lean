import DocumentStore.Condition.Machine
import DocumentStore.Proofs.Except
import Mathlib.Data.List.Forall2

/-!
# Runs of the machine

What one instruction takes from the stack and leaves on it, and what follows for whole runs. One
interpretation simulates another when every operand of the second has a counterpart in the first,
operator by operator; a run keeps the counterparts, so whatever the second interpretation computes,
the first one computes as well. An interpretation that never fails can be run on everything but
parentheses.
-/

namespace DocumentStore

namespace Token

/-- A field name or a literal. -/
def isOperand : Token → Bool
  | .name _ | .literal _ => true
  | _ => false

/-- An operator of two operands. -/
def isOperator : Token → Bool
  | .operator _ => true
  | _ => false

/-- One of the two parentheses. -/
def isParenthesis : Token → Bool
  | .openParen | .closeParen => true
  | _ => false

end Token

namespace Interpretation

variable {α β : Type} {Rel : α → β → Prop} {i : Interpretation α} {j : Interpretation β}

/-- An operator leaves what it makes of the two operands that it takes. -/
theorem step_operator_of_ok {op : Operator} {stack afterRight rest : List α} {right left a : α}
    (poppedRight : i.pop op stack = .ok (right, afterRight))
    (poppedLeft : i.pop op afterRight = .ok (left, rest))
    (applied : i.apply op left right = .ok a) : i.step stack (.operator op) = .ok (a :: rest) :=
  bind_eq_ok_iff.2 ⟨_, poppedRight, bind_eq_ok_iff.2 ⟨_, poppedLeft,
    bind_eq_ok_iff.2 ⟨a, applied, rfl⟩⟩⟩

/-- Whatever an instruction does, it leaves one operand that it has made. -/
theorem step_eq_ok {stack next : List α} {token : Token} (stepped : i.step stack token = .ok next) :
    (∃ s a, token = .name s ∧ i.name s = .ok a ∧ next = a :: stack) ∨
    (∃ l a, token = .literal l ∧ i.literal l = .ok a ∧ next = a :: stack) ∨
    ∃ op right left a afterRight rest, token = .operator op ∧
      i.pop op stack = .ok (right, afterRight) ∧ i.pop op afterRight = .ok (left, rest) ∧
      i.apply op left right = .ok a ∧ next = a :: rest := by
  cases token with
  | name s =>
    obtain ⟨a, made, same⟩ := bind_eq_ok_iff.1 stepped
    cases same
    exact .inl ⟨s, a, rfl, made, rfl⟩
  | literal l =>
    obtain ⟨a, made, same⟩ := bind_eq_ok_iff.1 stepped
    cases same
    exact .inr (.inl ⟨l, a, rfl, made, rfl⟩)
  | operator op =>
    obtain ⟨⟨right, afterRight⟩, poppedRight, stepped⟩ := bind_eq_ok_iff.1 stepped
    obtain ⟨⟨left, rest⟩, poppedLeft, stepped⟩ := bind_eq_ok_iff.1 stepped
    obtain ⟨a, applied, same⟩ := bind_eq_ok_iff.1 stepped
    cases same
    exact .inr (.inr
      ⟨op, right, left, a, afterRight, rest, rfl, poppedRight, poppedLeft, applied, rfl⟩)
  | openParen | closeParen => cases stepped

/-- Whatever `i` makes of a part of a program, `j` makes its counterpart under `Rel`. -/
structure SimulatedBy (Rel : α → β → Prop) (i : Interpretation α) (j : Interpretation β) :
    Prop where
  name : ∀ {s a}, i.name s = .ok a → ∃ b, j.name s = .ok b ∧ Rel a b
  literal : ∀ {l a}, i.literal l = .ok a → ∃ b, j.literal l = .ok b ∧ Rel a b
  apply : ∀ {op left right left' right' a}, Rel left left' → Rel right right' →
    i.apply op left right = .ok a → ∃ b, j.apply op left' right' = .ok b ∧ Rel a b
  missing : ∀ {op a}, i.missing op = .ok a → ∃ b, j.missing op = .ok b ∧ Rel a b
  finish : ∀ {stack stack' a}, List.Forall₂ Rel stack stack' → i.finish stack = .ok a →
    ∃ b, j.finish stack' = .ok b ∧ Option.Rel Rel a b

theorem pop_of_simulatedBy (sim : SimulatedBy Rel i j) {op : Operator} {stack : List α}
    {stack' : List β} (related : List.Forall₂ Rel stack stack') {a : α} {rest : List α}
    (popped : i.pop op stack = .ok (a, rest)) :
    ∃ b rest', j.pop op stack' = .ok (b, rest') ∧ Rel a b ∧ List.Forall₂ Rel rest rest' := by
  cases related with
  | nil =>
    obtain ⟨value, stood, same⟩ := map_eq_ok_iff.1 popped
    cases same
    obtain ⟨b, stood', rel⟩ := sim.missing stood
    exact ⟨b, [], by simp [pop, stood', Except.map], rel, .nil⟩
  | cons rel others =>
    cases popped
    exact ⟨_, _, rfl, rel, others⟩

theorem step_of_simulatedBy (sim : SimulatedBy Rel i j) {stack next : List α} {stack' : List β}
    (related : List.Forall₂ Rel stack stack') {token : Token}
    (stepped : i.step stack token = .ok next) :
    ∃ next', j.step stack' token = .ok next' ∧ List.Forall₂ Rel next next' := by
  obtain ⟨s, a, rfl, made, rfl⟩ | ⟨l, a, rfl, made, rfl⟩ |
    ⟨op, right, left, a, afterRight, rest, rfl, poppedRight, poppedLeft, applied, rfl⟩ :=
      step_eq_ok stepped
  · obtain ⟨b, made', rel⟩ := sim.name made
    exact ⟨b :: stack', bind_eq_ok_iff.2 ⟨b, made', rfl⟩, .cons rel related⟩
  · obtain ⟨b, made', rel⟩ := sim.literal made
    exact ⟨b :: stack', bind_eq_ok_iff.2 ⟨b, made', rfl⟩, .cons rel related⟩
  · obtain ⟨right', afterRight', popRight, relRight, others⟩ :=
      pop_of_simulatedBy sim related poppedRight
    obtain ⟨left', rest', popLeft, relLeft, others⟩ := pop_of_simulatedBy sim others poppedLeft
    obtain ⟨b, applied', rel⟩ := sim.apply relLeft relRight applied
    exact ⟨b :: rest', step_operator_of_ok popRight popLeft applied', .cons rel others⟩

theorem foldlM_of_simulatedBy (sim : SimulatedBy Rel i j) {tokens : List Token}
    {stack last : List α} {stack' : List β} (related : List.Forall₂ Rel stack stack')
    (ran : tokens.foldlM i.step stack = .ok last) :
    ∃ last', tokens.foldlM j.step stack' = .ok last' ∧ List.Forall₂ Rel last last' := by
  induction tokens generalizing stack stack' with
  | nil =>
    cases ran
    exact ⟨stack', rfl, related⟩
  | cons token rest ih =>
    obtain ⟨next, stepped, ran⟩ := foldlM_cons_eq_ok_iff.1 ran
    obtain ⟨next', stepped', related'⟩ := step_of_simulatedBy sim related stepped
    obtain ⟨last', ran', final⟩ := ih related' ran
    exact ⟨last', foldlM_cons_eq_ok_iff.2 ⟨next', stepped', ran'⟩, final⟩

/-- A run that succeeds under the simulated interpretation succeeds under the other one, and the
two results are counterparts. -/
theorem run_of_simulatedBy (sim : SimulatedBy Rel i j) {program : Program} {value : Option α}
    (ran : i.run program = .ok value) :
    ∃ value', j.run program = .ok value' ∧ Option.Rel Rel value value' := by
  obtain ⟨last, folded, finished⟩ := bind_eq_ok_iff.1 ran
  obtain ⟨last', folded', related⟩ := foldlM_of_simulatedBy sim .nil folded
  obtain ⟨value', finished', rel⟩ := sim.finish related finished
  exact ⟨value', bind_eq_ok_iff.2 ⟨last', folded', finished'⟩, rel⟩

/-- What is accepted as a single value, or as none, has a counterpart wherever a single value and an
empty stack are accepted. -/
theorem finishSingle_of_forall₂ {finish : List β → Except ConditionError (Option β)}
    (empty : finish [] = .ok none) (single : ∀ b, finish [b] = .ok (some b)) {stack : List α}
    {stack' : List β} (related : List.Forall₂ Rel stack stack') {value : Option α}
    (finished : finishSingle stack = .ok value) :
    ∃ value', finish stack' = .ok value' ∧ Option.Rel Rel value value' := by
  cases related with
  | nil =>
    cases finished
    exact ⟨none, empty, .none⟩
  | cons rel others =>
    cases others with
    | nil =>
      cases finished
      exact ⟨_, single _, .some rel⟩
    | cons rel' others => cases finished

/-- Every operand can be made, and every two operands can be combined. -/
structure Answers (i : Interpretation α) : Prop where
  name : ∀ s, ∃ a, i.name s = .ok a
  literal : ∀ l, ∃ a, i.literal l = .ok a
  compare : ∀ op left right, ∃ a, i.compare op left right = .ok a
  join : ∀ op left right, ∃ a, i.join op left right = .ok a

theorem exists_pop (stands : ∀ op, ∃ a, i.missing op = .ok a) (op : Operator) (stack : List α) :
    ∃ a rest, i.pop op stack = .ok (a, rest) := by
  cases stack with
  | nil =>
    obtain ⟨a, stood⟩ := stands op
    exact ⟨a, [], by rw [pop, stood]; rfl⟩
  | cons a rest => exact ⟨a, rest, rfl⟩

namespace Answers

theorem apply (answers : Answers i) (op : Operator) (left right : α) :
    ∃ a, i.apply op left right = .ok a := by
  cases op with
  | comparison op => exact answers.compare op left right
  | connective op => exact answers.join op left right

theorem step_operand (answers : Answers i) {token : Token} (operand : token.isOperand = true)
    (stack : List α) : ∃ a, i.step stack token = .ok (a :: stack) := by
  cases token with
  | name s =>
    obtain ⟨a, made⟩ := answers.name s
    exact ⟨a, bind_eq_ok_iff.2 ⟨a, made, rfl⟩⟩
  | literal l =>
    obtain ⟨a, made⟩ := answers.literal l
    exact ⟨a, bind_eq_ok_iff.2 ⟨a, made, rfl⟩⟩
  | operator op | openParen | closeParen => cases operand

/-- An operator finds its operands on the stack, or others are made up for them. -/
theorem step_operator (answers : Answers i) {op : Operator} {stack afterRight rest : List α}
    {right left : α} (poppedRight : i.pop op stack = .ok (right, afterRight))
    (poppedLeft : i.pop op afterRight = .ok (left, rest)) :
    ∃ a, i.step stack (.operator op) = .ok (a :: rest) := by
  obtain ⟨a, applied⟩ := answers.apply op left right
  exact ⟨a, step_operator_of_ok poppedRight poppedLeft applied⟩

/-- Where an operand can be made up for every one that is missing, only parentheses fail. -/
theorem exists_step (answers : Answers i) (stands : ∀ op, ∃ a, i.missing op = .ok a)
    (stack : List α) {token : Token} (plain : token.isParenthesis = false) :
    ∃ next, i.step stack token = .ok next := by
  by_cases operand : token.isOperand = true
  · obtain ⟨a, stepped⟩ := answers.step_operand operand stack
    exact ⟨_, stepped⟩
  · cases token with
    | operator op =>
      obtain ⟨right, afterRight, poppedRight⟩ := exists_pop stands op stack
      obtain ⟨left, rest, poppedLeft⟩ := exists_pop stands op afterRight
      obtain ⟨a, stepped⟩ := answers.step_operator poppedRight poppedLeft
      exact ⟨_, stepped⟩
    | openParen | closeParen => cases plain
    | name s | literal l => exact absurd rfl operand

theorem exists_foldlM (answers : Answers i) (stands : ∀ op, ∃ a, i.missing op = .ok a)
    {tokens : List Token} (plain : ∀ token ∈ tokens, token.isParenthesis = false)
    (stack : List α) : ∃ last, tokens.foldlM i.step stack = .ok last := by
  induction tokens generalizing stack with
  | nil => exact ⟨stack, rfl⟩
  | cons token rest ih =>
    obtain ⟨first, others⟩ := List.forall_mem_cons.1 plain
    obtain ⟨next, stepped⟩ := answers.exists_step stands stack first
    rw [foldlM_cons_of_ok stepped]
    exact ih others next

end Answers

theorem step_ne_nil {stack next : List α} {token : Token} (stepped : i.step stack token = .ok next) :
    next ≠ [] := by
  obtain ⟨s, a, _, _, rfl⟩ | ⟨l, a, _, _, rfl⟩ | ⟨_, _, _, a, _, rest, _, _, _, _, rfl⟩ :=
    step_eq_ok stepped <;> simp

/-- Every instruction leaves an operand, so only the empty program leaves none. -/
theorem eq_nil_of_foldlM_nil {tokens : List Token} {stack : List α}
    (ran : tokens.foldlM i.step stack = .ok []) : tokens = [] := by
  rcases List.eq_nil_or_concat tokens with rfl | ⟨before, token, rfl⟩
  · rfl
  · rw [List.concat_eq_append] at ran
    obtain ⟨middle, -, stepped⟩ := foldlM_concat_eq_ok_iff.1 ran
    exact absurd rfl (step_ne_nil stepped)

theorem run_eq_none_of_finishSingle {program : Program} (single : i.finish = finishSingle)
    (ran : i.run program = .ok none) : program.instructions = [] := by
  obtain ⟨stack, folded, finished⟩ := bind_eq_ok_iff.1 ran
  rw [single] at finished
  cases stack with
  | nil => exact eq_nil_of_foldlM_nil folded
  | cons a rest => cases rest <;> cases finished

end Interpretation

end DocumentStore
