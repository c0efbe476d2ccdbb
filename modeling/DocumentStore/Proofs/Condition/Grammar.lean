import DocumentStore.Condition.Program
import DocumentStore.Proofs.Except

/-!
# The grammar of conditions

A sentence is a row of clauses joined by connectives, a clause is a row of atoms compared with each
other, and an atom is an operand or a sentence in parentheses; rows group to the left. The program
that is assembled from the tokens of a sentence lists its expression tree in postorder.

While a sentence is read, the operators of its last unfinished groups wait on the stack. What has
been emitted (`emitted`) and what waits (`held`) make up the listing of the tree so far, and what
waited before the sentence began is not touched.
-/

namespace DocumentStore

/-- An expression tree over names and literals. -/
inductive Expression
  | name (s : String)
  | literal (l : Literal)
  | operation (op : Operator) (left right : Expression)
deriving DecidableEq

/-- The operands and operators of an expression, each operator after its two operands. -/
def Expression.postorder : Expression → List Token
  | .name s => [.name s]
  | .literal l => [.literal l]
  | .operation op left right => left.postorder ++ right.postorder ++ [.operator op]

mutual

/-- Clauses joined by connectives. -/
inductive Sentence
  | clause (c : Clause)
  | join (left : Sentence) (op : Connective) (right : Clause)

/-- Atoms compared with each other. -/
inductive Clause
  | atom (a : Atom)
  | compare (left : Clause) (op : Comparison) (right : Atom)

/-- An operand, or a sentence in parentheses. -/
inductive Atom
  | name (s : String)
  | literal (l : Literal)
  | group (s : Sentence)

end

mutual

/-- The tokens of a sentence. -/
def Sentence.tokens : Sentence → List Token
  | .clause c => c.tokens
  | .join left op right => left.tokens ++ .operator (.connective op) :: right.tokens

/-- The tokens of a clause. -/
def Clause.tokens : Clause → List Token
  | .atom a => a.tokens
  | .compare left op right => left.tokens ++ .operator (.comparison op) :: right.tokens

/-- The tokens of an atom. -/
def Atom.tokens : Atom → List Token
  | .name s => [.name s]
  | .literal l => [.literal l]
  | .group s => .openParen :: (s.tokens ++ [.closeParen])

end

mutual

/-- The expression that a sentence stands for. -/
def Sentence.expression : Sentence → Expression
  | .clause c => c.expression
  | .join left op right => .operation (.connective op) left.expression right.expression

/-- The expression that a clause stands for. -/
def Clause.expression : Clause → Expression
  | .atom a => a.expression
  | .compare left op right => .operation (.comparison op) left.expression right.expression

/-- The expression that an atom stands for; parentheses leave no trace. -/
def Atom.expression : Atom → Expression
  | .name s => .name s
  | .literal l => .literal l
  | .group s => s.expression

end

/-- The tokens of a clause that are emitted when its last token has been read. -/
def Clause.emitted : Clause → List Token
  | .atom a => a.expression.postorder
  | .compare left _ right => left.expression.postorder ++ right.expression.postorder

/-- The operators of a clause that wait when its last token has been read. -/
def Clause.held : Clause → List Operator
  | .atom _ => []
  | .compare _ op _ => [.comparison op]

/-- The tokens of a sentence that are emitted when its last token has been read. -/
def Sentence.emitted : Sentence → List Token
  | .clause c => c.emitted
  | .join left _ right => left.expression.postorder ++ right.emitted

/-- The operators of a sentence that wait when its last token has been read, the innermost
first. -/
def Sentence.held : Sentence → List Operator
  | .clause c => c.held
  | .join _ op right => right.held ++ [.connective op]

theorem Clause.emitted_append_held (c : Clause) :
    c.emitted ++ c.held.map .operator = c.expression.postorder := by
  cases c with
  | atom a => simp [emitted, held, expression]
  | compare left op right => simp [emitted, held, expression, Expression.postorder]

theorem Sentence.emitted_append_held (s : Sentence) :
    s.emitted ++ s.held.map .operator = s.expression.postorder := by
  cases s with
  | clause c => simp only [emitted, held, expression, c.emitted_append_held]
  | join left op right =>
    simp [emitted, held, expression, Expression.postorder, ← right.emitted_append_held]

namespace Program

theorem bindsBefore_connective (waiting : Operator) (op : Connective) :
    bindsBefore waiting (.connective op) = true := by
  cases waiting <;> rfl

namespace Assembly

/-- An operator that comes in releases nothing of what waits. -/
def Blocks (incoming : Operator) (waiting : List Pending) : Prop :=
  ∀ op rest, waiting = .operator op :: rest → bindsBefore op incoming = false

theorem blocks_of_no_operator {waiting : List Pending}
    (h : ∀ op rest, waiting ≠ .operator op :: rest) (incoming : Operator) :
    Blocks incoming waiting :=
  fun op rest same => absurd same (h op rest)

theorem blocks_comparison_of_connective (op : Connective) (incoming : Comparison)
    (waiting : List Pending) :
    Blocks (.comparison incoming) (.operator (.connective op) :: waiting) := by
  intro other rest same
  cases same
  rfl

theorem release_of_blocks {incoming : Operator} {waiting : List Pending}
    (h : Blocks incoming waiting) (emitted : List Token) :
    release incoming emitted waiting = ⟨emitted, waiting⟩ := by
  cases waiting with
  | nil => rfl
  | cons pending rest =>
    cases pending with
    | operator op => simp [release, h op rest rfl]
    | openParen => rfl

theorem release_append {incoming : Operator} {held : List Operator} {waiting : List Pending}
    (binds : ∀ op ∈ held, bindsBefore op incoming = true) (h : Blocks incoming waiting)
    (emitted : List Token) :
    release incoming emitted (held.map .operator ++ waiting) =
      ⟨(held.map .operator).reverse ++ emitted, waiting⟩ := by
  induction held generalizing emitted with
  | nil => exact release_of_blocks h emitted
  | cons op rest ih =>
    have first := binds op List.mem_cons_self
    simp [release, first, ih fun other inside => binds other (List.mem_cons_of_mem _ inside)]

theorem close_append (held : List Operator) (emitted : List Token) (waiting : List Pending) :
    close emitted (held.map .operator ++ .openParen :: waiting) =
      .ok ⟨(held.map .operator).reverse ++ emitted, waiting⟩ := by
  induction held generalizing emitted with
  | nil => rfl
  | cons op rest ih => simp [close, ih]

theorem finish_map (held : List Operator) (emitted : List Token) :
    finish emitted (held.map .operator) = .ok (emitted.reverse ++ held.map .operator) := by
  induction held generalizing emitted with
  | nil => simp [finish]
  | cons op rest ih => simp [finish, ih]

section

variable {before listing : List Token} {held : List Operator} {waiting : List Pending}

/-- An operator that comes in after a group releases what the group holds. -/
theorem step_operator {incoming : Operator} (listed : before ++ held.map .operator = listing)
    (binds : ∀ op ∈ held, bindsBefore op incoming = true) (h : Blocks incoming waiting)
    (emitted : List Token) :
    step ⟨before.reverse ++ emitted, held.map .operator ++ waiting⟩ (.operator incoming) =
      .ok ⟨listing.reverse ++ emitted, .operator incoming :: waiting⟩ := by
  simp only [step, release_append binds h, ← listed, List.reverse_append, List.append_assoc]

/-- A closing parenthesis releases what the group inside it holds. -/
theorem step_closeParen (listed : before ++ held.map .operator = listing)
    (emitted : List Token) :
    step ⟨before.reverse ++ emitted, held.map .operator ++ .openParen :: waiting⟩ .closeParen =
      .ok ⟨listing.reverse ++ emitted, waiting⟩ := by
  simp only [step, close_append, ← listed, List.reverse_append, List.append_assoc]

end

theorem bindsBefore_of_mem_held {c : Clause} {op : Operator} (inside : op ∈ c.held)
    (incoming : Comparison) : bindsBefore op (.comparison incoming) = true := by
  cases c with
  | atom a => cases inside
  | compare left other right =>
    rw [List.mem_singleton.1 inside]
    rfl

mutual

theorem foldlM_sentence : ∀ (s : Sentence) {waiting : List Pending} (emitted : List Token),
    (∀ op rest, waiting ≠ .operator op :: rest) →
    s.tokens.foldlM step ⟨emitted, waiting⟩ =
      .ok ⟨s.emitted.reverse ++ emitted, s.held.map .operator ++ waiting⟩
  | .clause c, waiting, emitted, fresh => by
    rw [Sentence.tokens]
    exact foldlM_clause c emitted fun incoming => blocks_of_no_operator fresh _
  | .join left op right, waiting, emitted, fresh => by
    have released := step_operator left.emitted_append_held
      (fun other _ => bindsBefore_connective other op) (blocks_of_no_operator fresh _) emitted
    rw [Sentence.tokens, foldlM_append_of_ok (foldlM_sentence left emitted fresh),
      foldlM_cons_of_ok released, foldlM_clause right _ fun incoming =>
        blocks_comparison_of_connective op incoming waiting]
    simp [Sentence.emitted, Sentence.held]

theorem foldlM_clause : ∀ (c : Clause) {waiting : List Pending} (emitted : List Token),
    (∀ incoming, Blocks (.comparison incoming) waiting) →
    c.tokens.foldlM step ⟨emitted, waiting⟩ =
      .ok ⟨c.emitted.reverse ++ emitted, c.held.map .operator ++ waiting⟩
  | .atom a, waiting, emitted, _ => by
    rw [Clause.tokens]
    exact foldlM_atom a emitted waiting
  | .compare left op right, waiting, emitted, blocks => by
    have released := step_operator left.emitted_append_held
      (fun other inside => bindsBefore_of_mem_held inside op) (blocks op) emitted
    rw [Clause.tokens, foldlM_append_of_ok (foldlM_clause left emitted blocks),
      foldlM_cons_of_ok released, foldlM_atom right]
    simp [Clause.emitted, Clause.held]

theorem foldlM_atom : ∀ (a : Atom) (emitted : List Token) (waiting : List Pending),
    a.tokens.foldlM step ⟨emitted, waiting⟩ =
      .ok ⟨a.expression.postorder.reverse ++ emitted, waiting⟩
  | .name s, emitted, waiting => rfl
  | .literal l, emitted, waiting => rfl
  | .group s, emitted, waiting => by
    have opened : step ⟨emitted, waiting⟩ .openParen = .ok ⟨emitted, .openParen :: waiting⟩ := rfl
    have fresh : ∀ op rest, Pending.openParen :: waiting ≠ .operator op :: rest := by simp
    rw [Atom.tokens, foldlM_cons_of_ok opened,
      foldlM_append_of_ok (foldlM_sentence s emitted fresh),
      foldlM_cons_of_ok (step_closeParen s.emitted_append_held emitted)]
    rfl

end

end Assembly

theorem ofTokens_atom (a : Atom) : ofTokens a.tokens = .ok ⟨a.expression.postorder⟩ := by
  have read := Assembly.foldlM_atom a [] []
  rw [List.append_nil] at read
  refine bind_eq_ok_iff.2 ⟨_, read, bind_eq_ok_iff.2 ⟨_, rfl, ?_⟩⟩
  rw [List.reverse_reverse]
  rfl

/-- The program of a sentence lists its expression in postorder. -/
theorem ofTokens_sentence (s : Sentence) :
    ofTokens s.tokens = .ok ⟨s.expression.postorder⟩ := by
  have fresh : ∀ op rest, ([] : List Pending) ≠ .operator op :: rest := by simp
  have read := Assembly.foldlM_sentence s [] fresh
  rw [List.append_nil, List.append_nil] at read
  rw [ofTokens, read]
  change (Assembly.finish _ _ >>= _) = _
  rw [Assembly.finish_map, List.reverse_reverse, s.emitted_append_held]
  rfl

/-- Connectives are equal in strength and group to the left; comparisons come before them. -/
example (a b c : String) :
    ofTokens [.name a, .operator (.comparison .eq), .name b, .operator (.connective .or), .name b,
      .operator (.connective .and), .openParen, .name c, .operator (.connective .or), .name a,
      .closeParen] =
    .ok ⟨[.name a, .name b, .operator (.comparison .eq), .name b, .operator (.connective .or),
      .name c, .name a, .operator (.connective .or), .operator (.connective .and)]⟩ := rfl

end Program

end DocumentStore
