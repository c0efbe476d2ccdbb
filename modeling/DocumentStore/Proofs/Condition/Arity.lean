import DocumentStore.Proofs.Condition.Conservation

/-!
# Operands that are missing or left over

An operand adds one value to the stack, and an operator that finds two values leaves one. So as long
as no operator finds fewer, the height of the stack is the number of operands less the number of
operators, and counting says how a run ends where nothing but the number of operands is refused.
-/

namespace DocumentStore

namespace Program

/-- By how much the operands among some instructions outnumber the operators. -/
def depth (instructions : List Token) : Int :=
  (instructions.countP Token.isOperand : Int) - instructions.countP Token.isOperator

/-- The operator at a place is met at a depth below two. -/
def LacksAt (instructions : List Token) (n : Nat) (op : Operator) : Prop :=
  instructions[n]? = some (.operator op) ∧ depth (instructions.take n) < 2

theorem depth_append (first second : List Token) :
    depth (first ++ second) = depth first + depth second := by
  simp only [depth, List.countP_append, Int.natCast_add]
  omega

theorem depth_operand {token : Token} (operand : token.isOperand = true) : depth [token] = 1 := by
  cases token with
  | name s => rfl
  | literal l => rfl
  | operator op | openParen | closeParen => cases operand

/-- Of the operators that lack an operand one is the first. -/
theorem exists_first_lack {instructions : List Token}
    (lack : ∃ n op, LacksAt instructions n op) :
    ∃ n op, LacksAt instructions n op ∧ ∀ m < n, ∀ other, ¬ LacksAt instructions m other := by
  classical
  obtain ⟨op, lacks⟩ := Nat.find_spec lack
  refine ⟨Nat.find lack, op, lacks, ?_⟩
  intro m less other earlier
  exact Nat.find_min lack less ⟨other, earlier⟩

end Program

namespace Interpretation

open Program

variable {α : Type} {i : Interpretation α}

/-- An instruction that finds what it needs changes the height of the stack as it changes the
depth. -/
theorem Answers.step_height (answers : Answers i) {token : Token}
    (plain : token.isParenthesis = false) {stack : List α}
    (supplied : ∀ op, token = .operator op → 2 ≤ stack.length) :
    ∃ next, i.step stack token = .ok next ∧ (next.length : Int) = stack.length + depth [token] := by
  by_cases operand : token.isOperand = true
  · obtain ⟨a, stepped⟩ := answers.step_operand operand stack
    refine ⟨_, stepped, ?_⟩
    rw [depth_operand operand, List.length_cons]
    rfl
  · cases token with
    | operator op =>
      obtain _ | ⟨right, _ | ⟨left, rest⟩⟩ := stack
      · exact absurd (supplied op rfl) (by simp)
      · exact absurd (supplied op rfl) (by simp)
      · have applied : ∃ a, i.step (right :: left :: rest) (.operator op) = .ok (a :: rest) :=
          answers.step_operator rfl rfl
        obtain ⟨a, stepped⟩ := applied
        have one : depth [.operator op] = -1 := rfl
        refine ⟨_, stepped, ?_⟩
        simp only [one, List.length_cons]
        omega
    | openParen | closeParen => cases plain
    | name s | literal l => exact absurd rfl operand

theorem step_missing (missing : i.missing = refuseMissing) (op : Operator) {stack : List α}
    (short : stack.length < 2) : i.step stack (.operator op) = .error (.missingOperand op) := by
  obtain _ | ⟨right, _ | ⟨left, rest⟩⟩ := stack
  · simp only [step, pop, missing]
    rfl
  · simp only [step, pop, missing]
    rfl
  · simp only [List.length_cons] at short
    omega

theorem finishSingle_eq_none_iff {stack : List α} : finishSingle stack = .ok none ↔ stack = [] := by
  obtain _ | ⟨value, _ | ⟨below, rest⟩⟩ := stack <;> simp [finishSingle]

theorem exists_finishSingle_iff {stack : List α} :
    (∃ value, finishSingle stack = .ok (some value)) ↔ stack.length = 1 := by
  obtain _ | ⟨value, _ | ⟨below, rest⟩⟩ := stack <;> simp [finishSingle]

theorem finishSingle_of_lt {stack : List α} (many : 1 < stack.length) :
    finishSingle stack = .error (.danglingOperands stack.length) := by
  obtain _ | ⟨value, _ | ⟨below, rest⟩⟩ := stack
  · simp at many
  · simp at many
  · rfl

section

variable (answers : Answers i) {instructions : List Token}
  (plain : ∀ token ∈ instructions, token.isParenthesis = false)

include answers plain

/-- The height of the stack is the depth, up to the first operator that lacks an operand. -/
theorem foldlM_take (n : Nat) (supplied : ∀ m < n, ∀ op, ¬ LacksAt instructions m op) :
    ∃ stack, (instructions.take n).foldlM i.step [] = .ok stack ∧
      (stack.length : Int) = depth (instructions.take n) := by
  induction n with
  | zero => exact ⟨[], rfl, rfl⟩
  | succ n ih =>
    obtain ⟨stack, ran, height⟩ := ih fun m less => supplied m (Nat.lt_succ_of_lt less)
    rw [List.take_add_one]
    cases here : instructions[n]? with
    | none =>
      rw [Option.toList_none, List.append_nil]
      exact ⟨stack, ran, height⟩
    | some token =>
      have enough : ∀ op, token = .operator op → 2 ≤ stack.length := by
        rintro op rfl
        have deep : ¬ depth (instructions.take n) < 2 := fun short =>
          supplied n (Nat.lt_succ_self n) op ⟨here, short⟩
        omega
      obtain ⟨next, stepped, one⟩ :=
        answers.step_height (plain token (List.mem_of_getElem? here)) enough
      refine ⟨next, ?_, ?_⟩
      · rw [foldlM_append_of_ok ran]
        exact foldlM_cons_of_ok stepped []
      · rw [one, height, ← depth_append]
        rfl

theorem foldlM_of_lacks (missing : i.missing = refuseMissing) {n : Nat} {op : Operator}
    (lacks : LacksAt instructions n op)
    (first : ∀ m < n, ∀ other, ¬ LacksAt instructions m other) :
    instructions.foldlM i.step [] = .error (.missingOperand op) := by
  obtain ⟨stack, ran, height⟩ := foldlM_take answers plain n first
  obtain ⟨here, short⟩ := lacks
  obtain ⟨inside, same⟩ := List.getElem?_eq_some_iff.1 here
  have split : instructions.take n ++ .operator op :: instructions.drop (n + 1) = instructions := by
    rw [← same, ← List.drop_eq_getElem_cons inside, List.take_append_drop]
  rw [← split, foldlM_append_of_ok ran, List.foldlM_cons, step_missing missing op (by omega)]
  rfl

theorem foldlM_of_supplied (supplied : ¬ ∃ n op, LacksAt instructions n op) :
    ∃ stack, instructions.foldlM i.step [] = .ok stack ∧
      (stack.length : Int) = depth instructions := by
  have none : ∀ m < instructions.length, ∀ op, ¬ LacksAt instructions m op := by
    intro m _ op lacks
    exact supplied ⟨m, op, lacks⟩
  have all := foldlM_take answers plain instructions.length none
  rwa [List.take_length] at all

end

/-- How a run ends where only the number of operands can be refused. If operators are met at a depth
below two, the first of them is blamed. Otherwise the empty program has no value, a program has one
value if its operands outnumber its operators by one, and if they do so by more, the error tells by
how many. -/
theorem run_arity (answers : Answers i) (missing : i.missing = refuseMissing)
    (finish : i.finish = finishSingle) {tokens : List Token} {program : Program}
    (assembled : ofTokens tokens = .ok program) :
    ((∃ n op, LacksAt program.instructions n op) →
      ∃ n op, LacksAt program.instructions n op ∧
        (∀ m < n, ∀ other, ¬ LacksAt program.instructions m other) ∧
        i.run program = .error (.missingOperand op)) ∧
    ((¬ ∃ n op, LacksAt program.instructions n op) →
      (i.run program = .ok none ↔ program.isEmpty = true) ∧
      ((∃ value, i.run program = .ok (some value)) ↔ depth program.instructions = 1) ∧
      (1 < depth program.instructions →
        i.run program = .error (.danglingOperands (depth program.instructions).toNat))) := by
  have plain := plain_of_ofTokens assembled
  constructor
  · intro lack
    obtain ⟨n, op, lacks, first⟩ := exists_first_lack lack
    refine ⟨n, op, lacks, first, ?_⟩
    rw [run, foldlM_of_lacks answers plain missing lacks first]
    rfl
  · intro supplied
    obtain ⟨stack, ran, height⟩ := foldlM_of_supplied answers plain supplied
    have finished : i.run program = finishSingle stack := by
      rw [run, ran, ← finish]
      rfl
    have empty : stack = [] ↔ program.isEmpty = true := by
      rw [isEmpty, List.isEmpty_iff]
      constructor
      · rintro rfl
        exact eq_nil_of_foldlM_nil ran
      · intro noInstruction
        rw [noInstruction] at ran
        cases ran
        rfl
    rw [finished, finishSingle_eq_none_iff, exists_finishSingle_iff]
    refine ⟨empty, by omega, fun many => ?_⟩
    rw [finishSingle_of_lt (by omega), ← height, Int.toNat_natCast]

theorem answers_printer : Answers printer where
  name _ := ⟨_, rfl⟩
  literal _ := ⟨_, rfl⟩
  compare _ _ _ := ⟨_, rfl⟩
  join _ _ _ := ⟨_, rfl⟩

/-- Printing `a = AND b`, of whose operators both lack an operand, and `a b = c d`, which leaves three
values. -/
theorem run_arity_of_printer :
    let equals : Operator := .comparison .eq
    let lacking : Program :=
      ⟨[.name "a", .operator equals, .name "b", .operator (.connective .and)]⟩
    let dangling : Program := ⟨[.name "a", .name "b", .name "c", .name "d", .operator equals]⟩
    ofTokens [.name "a", .operator equals, .operator (.connective .and), .name "b"] = .ok lacking ∧
      LacksAt lacking.instructions 1 equals ∧
      LacksAt lacking.instructions 3 (.connective .and) ∧
      printer.run lacking = .error (.missingOperand equals) ∧
      ofTokens [.name "a", .name "b", .operator equals, .name "c", .name "d"] = .ok dangling ∧
      (¬ ∃ n op, LacksAt dangling.instructions n op) ∧
      printer.run dangling = .error (.danglingOperands 3) := by
  intro equals lacking dangling
  have lackingMade :
      ofTokens [.name "a", .operator equals, .operator (.connective .and), .name "b"] =
        .ok lacking := rfl
  have danglingMade :
      ofTokens [.name "a", .name "b", .operator equals, .name "c", .name "d"] =
        .ok dangling := rfl
  have lack : LacksAt lacking.instructions 1 equals := ⟨rfl, by decide⟩
  have supplied : ¬ ∃ n op, LacksAt dangling.instructions n op := by
    rintro ⟨n, op, here, short⟩
    obtain _ | _ | _ | _ | _ | n := n <;> cases here
    exact absurd short (by decide)
  refine ⟨lackingMade, lack, ⟨rfl, by decide⟩, ?_, danglingMade, supplied, ?_⟩
  · obtain ⟨n, op, lacks, first, ran⟩ :=
      (run_arity answers_printer rfl rfl lackingMade).1 ⟨1, _, lack⟩
    rcases Nat.lt_trichotomy n 1 with before | rfl | after
    · obtain rfl : n = 0 := by omega
      cases lacks.1
    · cases lacks.1
      exact ran
    · exact absurd lack (first 1 after _)
  · exact ((run_arity answers_printer rfl rfl danglingMade).2 supplied).2.2 (by decide)

end Interpretation

end DocumentStore
