import DocumentStore.Proofs.Condition.Arity

/-!
# Evaluation of programs that lack operands

Evaluation takes an absent operand wherever the stack has none left, and so from below all that it
has computed. A program that lacks operands is therefore evaluated as if absent operands stood in
front of it, one for each that it lacks. Together with them it lists a row of expressions, one after
the other; the first of these decides, and the others are ignored.
-/

namespace DocumentStore

/-- An expression in which absent operands may stand. -/
inductive PartialExpression
  | gap
  | name (s : String)
  | literal (l : Literal)
  | operation (op : Operator) (left right : PartialExpression)
deriving DecidableEq

namespace PartialExpression

/-- The operands and operators of an expression, each operator after its two operands. A gap has no
token. -/
def postorder : PartialExpression → List (Option Token)
  | .gap => [none]
  | .name s => [some (.name s)]
  | .literal l => [some (.literal l)]
  | .operation op left right => left.postorder ++ right.postorder ++ [some (.operator op)]

/-- The scalar that an expression comes to on a record. -/
def value (record : Record) : PartialExpression → Scalar
  | .gap => .absent
  | .name s => record s
  | .literal l => .ofLiteral l
  | .operation (.comparison op) left right =>
    .bool (op.holds (left.value record) (right.value record))
  | .operation (.connective op) left right => op.choose (left.value record) (right.value record)

/-- A connective comes to the value of one of its two sides. -/
theorem value_connective (record : Record) (op : Connective) (left right : PartialExpression) :
    (operation (.connective op) left right).value record = left.value record ∨
      (operation (.connective op) left right).value record = right.value record := by
  rw [value]
  cases op with
  | and => by_cases truthy : (left.value record).isTruthy <;> simp [Connective.choose, truthy]
  | or => by_cases truthy : (left.value record).isTruthy <;> simp [Connective.choose, truthy]

/-- Takes in one item of a listing: an operand goes on top of the expressions so far, an operator
joins the two topmost ones. -/
def take : List PartialExpression → Option Token → List PartialExpression
  | stack, none => .gap :: stack
  | stack, some (.name s) => .name s :: stack
  | stack, some (.literal l) => .literal l :: stack
  | right :: left :: rest, some (.operator op) => .operation op left right :: rest
  | stack, some _ => stack

theorem foldl_take_postorder (e : PartialExpression) (stack : List PartialExpression) :
    e.postorder.foldl take stack = e :: stack := by
  induction e generalizing stack with
  | gap | name s | literal l => rfl
  | operation op left right ihLeft ihRight =>
    rw [postorder, List.foldl_append, List.foldl_append, ihLeft, ihRight]
    rfl

theorem foldl_take_flatMap (row stack : List PartialExpression) :
    (row.flatMap postorder).foldl take stack = row.reverse ++ stack := by
  induction row generalizing stack with
  | nil => rfl
  | cons e rest ih =>
    rw [List.flatMap_cons, List.foldl_append, foldl_take_postorder, ih, List.reverse_cons,
      List.append_assoc]
    rfl

/-- The expressions of a row can be told from its listing. -/
theorem eq_of_flatMap_postorder {row others : List PartialExpression}
    (same : row.flatMap postorder = others.flatMap postorder) : row = others := by
  have taken := congrArg (List.foldl take []) same
  rw [foldl_take_flatMap, foldl_take_flatMap, List.append_nil, List.append_nil] at taken
  exact List.reverse_injective taken

end PartialExpression

/-! ## Operands that are missing -/

namespace Interpretation

variable {α β : Type} {Rel : α → β → Prop} {i : Interpretation α} {j : Interpretation β}

/-- How many of the operands that an instruction takes are taken from an empty stack. An operator
takes one from the stack and one from what is then left of it. -/
def emptyPops (stack : List α) : Token → Nat
  | .operator _ => [stack, stack.tail].countP List.isEmpty
  | _ => 0

/-- How many operands are taken from an empty stack while instructions are run. -/
def missingOperands (i : Interpretation α) : List α → List Token → Nat
  | _, [] => 0
  | stack, token :: rest =>
    emptyPops stack token +
      match i.step stack token with
      | .ok next => i.missingOperands next rest
      | .error _ => 0

theorem missingOperands_cons {stack next : List α} {token : Token}
    (stepped : i.step stack token = .ok next) (rest : List Token) :
    i.missingOperands stack (token :: rest) =
      emptyPops stack token + i.missingOperands next rest := by
  rw [missingOperands, stepped]

theorem emptyPops_of_forall₂ {stack : List α} {stack' : List β}
    (related : List.Forall₂ Rel stack stack') (token : Token) :
    emptyPops stack token = emptyPops stack' token := by
  cases token with
  | operator op =>
    cases related with
    | nil => rfl
    | cons rel others => cases others <;> rfl
  | openParen | closeParen | name s | literal l => rfl

/-- The same operands are missing from a run and from one that simulates it. -/
theorem missingOperands_of_simulatedBy (sim : SimulatedBy Rel i j) {tokens : List Token}
    {stack last : List α} {stack' : List β} (related : List.Forall₂ Rel stack stack')
    (ran : tokens.foldlM i.step stack = .ok last) :
    j.missingOperands stack' tokens = i.missingOperands stack tokens := by
  induction tokens generalizing stack stack' with
  | nil => rfl
  | cons token rest ih =>
    obtain ⟨next, stepped, ran⟩ := foldlM_cons_eq_ok_iff.1 ran
    obtain ⟨next', stepped', related'⟩ := step_of_simulatedBy sim related stepped
    rw [missingOperands_cons stepped, missingOperands_cons stepped', ih related' ran,
      emptyPops_of_forall₂ related]

/-! ## Building expressions with gaps -/

/-- Builds the expressions that a program lists, with a gap for every operand that is missing. -/
def gapped : Interpretation PartialExpression where
  name s := .ok (.name s)
  literal l := .ok (.literal l)
  compare op left right := .ok (.operation (.comparison op) left right)
  join op left right := .ok (.operation (.connective op) left right)
  missing _ := .ok .gap
  finish stack := .ok stack.getLast?

theorem answers_gapped : gapped.Answers where
  name _ := ⟨_, rfl⟩
  literal _ := ⟨_, rfl⟩
  compare _ _ _ := ⟨_, rfl⟩
  join _ _ _ := ⟨_, rfl⟩

theorem gapped_apply (op : Operator) (left right : PartialExpression) :
    gapped.apply op left right = .ok (.operation op left right) := by
  cases op <;> rfl

theorem evaluator_apply (record : Record) (op : Operator) (left right : PartialExpression) :
    (evaluator record).apply op (left.value record) (right.value record) =
      .ok ((PartialExpression.operation op left right).value record) := by
  cases op <;> rfl

theorem getLast?_of_forall₂ {stack : List α} {stack' : List β}
    (related : List.Forall₂ Rel stack stack') : Option.Rel Rel stack.getLast? stack'.getLast? := by
  induction related with
  | nil => exact .none
  | cons rel others ih =>
    cases others with
    | nil => exact .some rel
    | cons rel' others => exact ih

/-- Evaluation computes the values of the expressions that are built. -/
theorem gapped_simulatedBy_evaluator (record : Record) :
    SimulatedBy (fun e scalar => e.value record = scalar) gapped (evaluator record) where
  name made := by
    cases made
    exact ⟨_, rfl, rfl⟩
  literal made := by
    cases made
    exact ⟨_, rfl, rfl⟩
  apply {op left right left' right' a} leftValue rightValue applied := by
    rw [gapped_apply] at applied
    cases applied
    rw [← leftValue, ← rightValue]
    exact ⟨_, evaluator_apply record op left right, rfl⟩
  missing stood := by
    cases stood
    exact ⟨_, rfl, rfl⟩
  finish related finished := by
    cases finished
    exact ⟨_, rfl, getLast?_of_forall₂ related⟩

open PartialExpression Program

/-- Between two stacks of expressions some instructions have been run, and operands were missing.
From the lowest expression to the topmost, the stacks list the same but for the gaps that are put in
front and the instructions that follow. -/
structure Extends (missing : Nat) (tokens : List Token) (before after : List PartialExpression) :
    Prop where
  listed : List.replicate missing none ++ before.reverse.flatMap postorder ++ tokens.map some =
    after.reverse.flatMap postorder
  height : (after.length : Int) = before.length + missing + depth tokens

theorem Extends.nil (stack : List PartialExpression) : Extends 0 [] stack stack where
  listed := by simp
  height := by simp [depth]

theorem Extends.append {missing further : Nat} {first second : List Token}
    {before middle after : List PartialExpression} (one : Extends missing first before middle)
    (two : Extends further second middle after) :
    Extends (missing + further) (first ++ second) before after where
  listed := by
    rw [← two.listed, ← one.listed, Nat.add_comm, List.replicate_add]
    simp only [List.map_append, List.append_assoc]
  height := by
    have := one.height
    have := two.height
    rw [depth_append]
    push_cast
    omega

theorem Extends.operand {token : Token} {e : PartialExpression} (operand : token.isOperand = true)
    (alone : e.postorder = [some token]) (stack : List PartialExpression) :
    Extends 0 [token] stack (e :: stack) where
  listed := by simp [alone]
  height := by
    rw [depth_operand operand, List.length_cons]
    simp

theorem extends_step {stack next : List PartialExpression} {token : Token}
    (stepped : gapped.step stack token = .ok next) :
    Extends (emptyPops stack token) [token] stack next := by
  obtain ⟨s, a, rfl, made, rfl⟩ | ⟨l, a, rfl, made, rfl⟩ |
    ⟨op, right, left, a, afterRight, rest, rfl, poppedRight, poppedLeft, applied, rfl⟩ :=
      step_eq_ok stepped
  · cases made
    exact .operand rfl rfl stack
  · cases made
    exact .operand rfl rfl stack
  · have one : depth [.operator op] = -1 := rfl
    rw [gapped_apply] at applied
    cases applied
    -- Gaps come in below the operands that are there, so on the left side of the operator first.
    obtain _ | ⟨top, _ | ⟨below, others⟩⟩ := stack
    · cases poppedRight
      cases poppedLeft
      exact ⟨rfl, rfl⟩
    · cases poppedRight
      cases poppedLeft
      constructor
      · simp [emptyPops, postorder]
      · simp [emptyPops, one]
    · have enough : emptyPops (top :: below :: others) (.operator op) = 0 := rfl
      cases poppedRight
      cases poppedLeft
      rw [enough]
      constructor
      · simp [postorder]
      · rw [one, List.length_cons, List.length_cons, List.length_cons]
        omega

theorem extends_foldlM {tokens : List Token} {stack last : List PartialExpression}
    (ran : tokens.foldlM gapped.step stack = .ok last) :
    Extends (gapped.missingOperands stack tokens) tokens stack last := by
  induction tokens generalizing stack with
  | nil =>
    cases ran
    exact .nil _
  | cons token rest ih =>
    obtain ⟨next, stepped, ran⟩ := foldlM_cons_eq_ok_iff.1 ran
    rw [missingOperands_cons stepped]
    exact (extends_step stepped).append (ih ran)

end Interpretation

/-! ## The value of a program -/

namespace Program

open Interpretation

/-- A program is evaluated to the truth of the first expression that is built from it. -/
theorem evaluate_of_gapped {program : Program} {first : PartialExpression}
    (built : gapped.run program = .ok (some first)) (record : Record) :
    program.evaluate record = .ok (first.value record).isTruthy := by
  obtain ⟨value, evaluated, related⟩ :=
    run_of_simulatedBy (gapped_simulatedBy_evaluator record) built
  obtain ⟨same⟩ := related
  rw [evaluate, value?, evaluated, ← same]
  rfl

/-- What a program comes to, whatever it lacks and whatever it leaves over. Put in front of the
program, as many gaps as operands are missing from its evaluation make it the listing of just one row
of expressions, of as many as the operands and gaps outnumber the operators. The program is evaluated
to the truth of the first expression, in which a connective comes to the value of one of its sides; if
there is no instruction, it is true. -/
theorem evaluate_with_gaps {tokens : List Token} {program : Program}
    (assembled : ofTokens tokens = .ok program) :
    ∃ (missing : Nat) (row : List PartialExpression),
      List.replicate missing none ++ program.instructions.map some =
        row.flatMap PartialExpression.postorder ∧
      (∀ others : List PartialExpression,
        List.replicate missing none ++ program.instructions.map some =
          others.flatMap PartialExpression.postorder → others = row) ∧
      (row.length : Int) = depth program.instructions + missing ∧
      ∀ record,
        (evaluator record).missingOperands [] program.instructions = missing ∧
        (program.isEmpty = true → program.evaluate record = .ok true) ∧
        (program.isEmpty = false → ∃ first others, row = first :: others ∧
          program.evaluate record = .ok (first.value record).isTruthy) ∧
        ∀ op left right,
          (PartialExpression.operation (.connective op) left right).value record =
              left.value record ∨
            (PartialExpression.operation (.connective op) left right).value record =
              right.value record := by
  have plain := plain_of_ofTokens assembled
  obtain ⟨stack, ran⟩ := answers_gapped.exists_foldlM (fun _ => ⟨_, rfl⟩) plain []
  have extended := extends_foldlM ran
  have listed : List.replicate (gapped.missingOperands [] program.instructions) none ++
      program.instructions.map some = stack.reverse.flatMap PartialExpression.postorder := by
    simpa using extended.listed
  refine ⟨_, stack.reverse, listed, ?_, ?_, ?_⟩
  · intro others same
    exact PartialExpression.eq_of_flatMap_postorder (same.symm.trans listed)
  · have height := extended.height
    rw [List.length_nil] at height
    rw [List.length_reverse]
    omega
  · intro record
    refine ⟨missingOperands_of_simulatedBy (gapped_simulatedBy_evaluator record) .nil ran,
      fun isEmpty => evaluate_of_isEmpty isEmpty record, ?_,
      PartialExpression.value_connective record⟩
    intro notEmpty
    cases row : stack.reverse with
    | nil =>
      rw [List.reverse_eq_nil_iff.1 row] at ran
      rw [isEmpty, eq_nil_of_foldlM_nil ran] at notEmpty
      cases notEmpty
    | cons first others =>
      -- The first expression of the row is the lowest one on the stack.
      have lowest : stack.getLast? = some first := by
        rw [List.getLast?_eq_head?_reverse, row, List.head?_cons]
      have built : gapped.run program = .ok (some first) := by
        rw [run, ran, ← lowest]
        rfl
      exact ⟨first, others, rfl, evaluate_of_gapped built record⟩

/-- The condition `(=) a` lacks both operands of its operator and leaves a field over: two gaps are
compared, and they are equal on every record. -/
theorem evaluate_with_gaps_of_lone_operator :
    let equals : Operator := .comparison .eq
    let tokens : List Token := [.openParen, .operator equals, .closeParen, .name "a"]
    let program : Program := ⟨[.operator equals, .name "a"]⟩
    ofTokens tokens = .ok program ∧
      [none, none] ++ program.instructions.map some =
        [PartialExpression.operation equals .gap .gap, .name "a"].flatMap
          PartialExpression.postorder ∧
      ∀ record,
        (evaluator record).missingOperands [] program.instructions = 2 ∧
        program.evaluate record = .ok true := by
  intro equals tokens program
  have assembled : ofTokens tokens = .ok program := rfl
  have listed : [none, none] ++ program.instructions.map some =
      [PartialExpression.operation equals .gap .gap, .name "a"].flatMap
        PartialExpression.postorder := rfl
  refine ⟨assembled, listed, ?_⟩
  intro record
  obtain ⟨missing, row, -, unique, -, onRecords⟩ := evaluate_with_gaps assembled
  obtain ⟨lacks, -, decides, -⟩ := onRecords record
  have two : (evaluator record).missingOperands [] program.instructions = 2 := rfl
  obtain rfl : missing = 2 := lacks.symm.trans two
  obtain ⟨first, others, same, evaluated⟩ := decides rfl
  rw [← unique _ listed] at same
  obtain ⟨rfl, -⟩ := List.cons.inj same
  exact ⟨two, evaluated⟩

end Program

end DocumentStore
