import DocumentStore.Condition.Error

/-!
# Programs

A program lists the operands and operators of a condition in postfix order. It is assembled from
the tokens of the condition in one pass: operands are emitted at once, operators wait on a stack
until one that binds less tightly, or a closing parenthesis, releases them.
-/

namespace DocumentStore

/-- The instructions of a condition in postfix order. -/
structure Program where
  instructions : List Token
deriving DecidableEq

namespace Program

/-- The number of instructions. -/
def size (program : Program) : Nat := program.instructions.length

/-- Whether there is no instruction. -/
def isEmpty (program : Program) : Bool := program.instructions.isEmpty

/-- The instructions as they are shown, with single spaces between them. -/
def display (program : Program) : String :=
  " ".intercalate (program.instructions.map Token.display)

/-- What waits for its right operand or its closing parenthesis. -/
inductive Pending
  | operator (op : Operator)
  | openParen
deriving DecidableEq

/-- A program under assembly. -/
structure Assembly where
  /-- The instructions emitted so far, the last one first. -/
  emitted : List Token
  /-- What waits, the innermost first. -/
  waiting : List Pending
deriving DecidableEq

/-- Whether a waiting operator takes its operands before an incoming one does. -/
def bindsBefore (waiting incoming : Operator) : Bool :=
  incoming.precedence < waiting.precedence ||
    (waiting.precedence == incoming.precedence && incoming.groupsLeft)

namespace Assembly

/-- Emits the waiting operators that take their operands before an incoming one does. -/
def release (incoming : Operator) (emitted : List Token) : List Pending → Assembly
  | .operator op :: waiting =>
    if bindsBefore op incoming then release incoming (.operator op :: emitted) waiting
    else ⟨emitted, .operator op :: waiting⟩
  | waiting => ⟨emitted, waiting⟩

/-- Emits the operators that wait inside the innermost parenthesis and closes it. -/
def close (emitted : List Token) : List Pending → Except ConditionError Assembly
  | .operator op :: waiting => close (.operator op :: emitted) waiting
  | .openParen :: waiting => .ok ⟨emitted, waiting⟩
  | [] => .error .mismatchedParentheses

/-- Takes in one token. -/
def step (assembly : Assembly) : Token → Except ConditionError Assembly
  | .operator op =>
    let released := release op assembly.emitted assembly.waiting
    .ok ⟨released.emitted, .operator op :: released.waiting⟩
  | .openParen => .ok ⟨assembly.emitted, .openParen :: assembly.waiting⟩
  | .closeParen => close assembly.emitted assembly.waiting
  | .name s => .ok ⟨.name s :: assembly.emitted, assembly.waiting⟩
  | .literal l => .ok ⟨.literal l :: assembly.emitted, assembly.waiting⟩

/-- Emits all that waits; no parenthesis may be among it. -/
def finish (emitted : List Token) : List Pending → Except ConditionError (List Token)
  | .operator op :: waiting => finish (.operator op :: emitted) waiting
  | .openParen :: _ => .error .mismatchedParentheses
  | [] => .ok emitted.reverse

end Assembly

/-- The program of a row of tokens. Only parentheses without a partner are refused; whether every
operator has its operands is left to those that run the program. -/
def ofTokens (tokens : List Token) : Except ConditionError Program := do
  let assembly ← tokens.foldlM Assembly.step ⟨[], []⟩
  return ⟨← Assembly.finish assembly.emitted assembly.waiting⟩

end Program

end DocumentStore
