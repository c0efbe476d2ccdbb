import DocumentStore.Proofs.Condition.Balance
import DocumentStore.Proofs.Condition.Grammar
import Mathlib.Data.List.Chain

/-!
# The stack of what waits

The open parentheses cut the stack into groups of operators. An operator that comes in first releases
those that do not bind less tightly, so within a group the operators bind the more tightly the nearer
they are to the top, and taking entries off the top does not disturb that. There are two degrees of
strength, so a group holds two operators at most, and the number of open parentheses bounds the height
of the stack.
-/

namespace DocumentStore

namespace Operator

/-- The first of two operators binds more tightly. -/
def Outbinds (upper lower : Operator) : Prop := lower.precedence < upper.precedence

instance : Trans Outbinds Outbinds Outbinds := ⟨fun upper lower => Nat.lt_trans lower upper⟩

theorem precedence_pos (op : Operator) : 0 < op.precedence := by
  cases op <;> exact Nat.zero_lt_succ _

theorem precedence_le (op : Operator) : op.precedence ≤ 2 := by
  cases op <;> simp [precedence]

/-- Only a comparison binds more tightly than another operator, and only than a connective. -/
theorem Outbinds.kinds {upper lower : Operator} (outbinds : upper.Outbinds lower) :
    (∃ comparison, upper = .comparison comparison) ∧ ∃ connective, lower = .connective connective := by
  cases upper with
  | connective op => exact absurd lower.precedence_pos (Nat.not_lt_of_le (Nat.le_of_lt_succ outbinds))
  | comparison op =>
    cases lower with
    | connective below => exact ⟨⟨op, rfl⟩, below, rfl⟩
    | comparison below => exact absurd outbinds (Nat.lt_irrefl _)

/-- Operators each of which binds more tightly than all after it are a comparison and a connective, or
only one of the two, or none. -/
theorem exists_of_pairwise_outbinds {group : List Operator} (weakens : group.Pairwise Outbinds) :
    ∃ (comparison? : Option Comparison) (connective? : Option Connective),
      group = (comparison?.map .comparison).toList ++ (connective?.map .connective).toList := by
  cases group with
  | nil => exact ⟨none, none, rfl⟩
  | cons upper rest =>
    obtain ⟨first, others⟩ := List.pairwise_cons.1 weakens
    cases rest with
    | nil =>
      cases upper with
      | comparison op => exact ⟨some op, none, rfl⟩
      | connective op => exact ⟨none, some op, rfl⟩
    | cons lower more =>
      obtain ⟨⟨comparison, rfl⟩, connective, rfl⟩ := (first _ List.mem_cons_self).kinds
      cases more with
      | nil => exact ⟨some comparison, some connective, rfl⟩
      | cons lowest _ =>
        obtain ⟨⟨_, same⟩, -⟩ := ((List.pairwise_cons.1 others).1 lowest List.mem_cons_self).kinds
        cases same

end Operator

namespace Program

theorem outbinds_of_waits {op incoming : Operator} (waits : bindsBefore op incoming = false) :
    incoming.Outbinds op := by
  simp only [bindsBefore, Operator.groupsLeft, Bool.and_true, Bool.or_eq_false_iff,
    decide_eq_false_iff_not, beq_eq_false_iff_ne] at waits
  have notAbove := waits.1
  have different := waits.2
  change op.precedence < incoming.precedence
  omega

/-- An entry may lie directly on another one: of two operators the upper one binds more tightly. -/
def Pending.LiesOn : Pending → Pending → Prop
  | .operator upper, .operator lower => upper.Outbinds lower
  | _, _ => True

/-- Within each group the operators bind the more tightly the nearer they are to the top. -/
def Rising (stack : List Pending) : Prop := stack.IsChain Pending.LiesOn

/-- The strength of the operator at the top, or zero if there is none. -/
def strengthAtTop : List Pending → Nat
  | .operator op :: _ => op.precedence
  | _ => 0

theorem strengthAtTop_le (stack : List Pending) : strengthAtTop stack ≤ 2 := by
  unfold strengthAtTop
  split
  · exact Operator.precedence_le _
  · exact Nat.zero_le 2

namespace Rising

variable {stack : List Pending} {op : Operator}

theorem push (rising : Rising stack) (blocks : Assembly.Blocks op stack) :
    Rising (.operator op :: stack) := by
  refine List.isChain_cons.2 ⟨?_, rising⟩
  intro below top
  cases below with
  | openParen => trivial
  | operator lower =>
    obtain ⟨rest, rfl⟩ := List.head?_eq_some_iff.1 top
    exact outbinds_of_waits (blocks lower rest rfl)

theorem openParen (rising : Rising stack) : Rising (.openParen :: stack) :=
  List.isChain_cons.2 ⟨fun _ _ => trivial, rising⟩

/-- In a stretch of operators each one binds more tightly than all that lie under it. -/
theorem pairwise_group (rising : Rising stack) {above below : List Pending} {group : List Operator}
    (split : stack = above ++ group.map .operator ++ below) :
    group.Pairwise Operator.Outbinds := by
  have stretch : (group.map Pending.operator).IsChain Pending.LiesOn :=
    rising.infix ⟨above, below, split.symm⟩
  exact List.isChain_iff_pairwise.1 ((List.isChain_map Pending.operator).1 stretch)

/-- Each open parenthesis accounts for itself and for the two operators that may lie under it. -/
theorem length_le (rising : Rising stack) :
    stack.length ≤ 3 * stack.count .openParen + strengthAtTop stack := by
  induction stack with
  | nil => exact Nat.le_refl 0
  | cons top rest ih =>
    have bound := ih rising.tail
    cases top with
    | openParen =>
      have two := strengthAtTop_le rest
      rw [List.length_cons, List.count_cons_self]
      omega
    | operator op =>
      have higher : strengthAtTop rest < op.precedence := by
        cases rest with
        | nil => exact op.precedence_pos
        | cons next others =>
          cases next with
          | openParen => exact op.precedence_pos
          | operator lower => exact (List.isChain_cons_cons.1 rising).1
      rw [List.length_cons, Assembly.count_operator_cons, strengthAtTop]
      omega

end Rising

namespace Assembly

variable {before after : Assembly} {token : Token}

theorem Emits.suffix (emits : Emits before after) : after.waiting <:+ before.waiting := by
  induction emits with
  | none => exact List.suffix_rfl
  | operator _ ih => exact ih.trans (List.suffix_cons ..)

/-- An operator that comes in releases all that would not lie under it. -/
theorem blocks_release (incoming : Operator) (emitted : List Token) (waiting : List Pending) :
    Blocks incoming (release incoming emitted waiting).waiting := by
  induction waiting generalizing emitted with
  | nil => exact blocks_of_no_operator (by simp [release]) incoming
  | cons pending rest ih =>
    cases pending with
    | openParen => exact blocks_of_no_operator (by simp [release]) incoming
    | operator op =>
      rw [release]
      split
      · exact ih _
      · rename_i waits
        rintro _ _ ⟨⟩
        exact Bool.eq_false_iff.2 waits

theorem rising_step (rising : Rising before.waiting) (stepped : step before token = .ok after) :
    Rising after.waiting := by
  cases token with
  | operator op =>
    cases stepped
    have left := (emits_release op before.emitted before.waiting).suffix
    have blocks := blocks_release op before.emitted before.waiting
    exact Rising.push (rising.suffix left) blocks
  | openParen =>
    cases stepped
    exact rising.openParen
  | closeParen => exact (rising.suffix (emits_of_close stepped).suffix).tail
  | name s | literal l =>
    cases stepped
    exact rising

theorem rising_foldlM {tokens : List Token} (read : tokens.foldlM step before = .ok after)
    (rising : Rising before.waiting) : Rising after.waiting := by
  induction tokens generalizing before with
  | nil =>
    cases read
    exact rising
  | cons token rest ih =>
    obtain ⟨next, stepped, read⟩ := foldlM_cons_eq_ok_iff.1 read
    exact ih read (rising_step rising stepped)

/-- The stacks that occur while tokens are assembled: what waits after a part of the tokens from the
start, and what is left of it when entries are taken off the top, one after the other. -/
def Occurs (tokens : List Token) (stack : List Pending) : Prop :=
  ∃ part read, part <+: tokens ∧ part.foldlM step ⟨[], []⟩ = .ok read ∧ stack <:+ read.waiting

theorem Occurs.rising {tokens : List Token} {stack : List Pending} (occurs : Occurs tokens stack) :
    Rising stack := by
  obtain ⟨part, last, -, read, left⟩ := occurs
  exact (rising_foldlM read List.IsChain.nil).suffix left

/-- At every step of the assembly of any tokens, and while entries are taken off: operators that
wait next to each other bind the more tightly the nearer they are to the top, so next to each other
there wait at most one comparison and under it at most one connective; and with k parentheses open
there are at most 3k + 2 entries. -/
theorem occurring_stack_rises {tokens : List Token} {stack : List Pending}
    (occurs : Occurs tokens stack) :
    (∀ above group below, stack = above ++ group.map .operator ++ below →
      group.Pairwise Operator.Outbinds ∧
      ∃ (comparison? : Option Comparison) (connective? : Option Connective),
        group = (comparison?.map .comparison).toList ++ (connective?.map .connective).toList) ∧
    stack.length ≤ 3 * stack.count .openParen + 2 := by
  have rising := occurs.rising
  refine ⟨?_, ?_⟩
  · intro above group below split
    have weakens := rising.pairwise_group split
    exact ⟨weakens, Operator.exists_of_pairwise_outbinds weakens⟩
  · have bound := rising.length_le
    have top := strengthAtTop_le stack
    omega

/-- Operators without operands fill the stack up to the bound, inside a parenthesis and outside. -/
theorem occurring_stack_rises_to_bound :
    let tokens : List Token := [.operator (.connective .and), .operator (.comparison .eq), .openParen,
      .operator (.comparison .lt), .operator (.connective .or), .operator (.comparison .ne)]
    let inner : List Operator := [.comparison .ne, .connective .or]
    let outer : List Operator := [.comparison .eq, .connective .and]
    let stack : List Pending := inner.map .operator ++ .openParen :: outer.map .operator
    Occurs tokens stack ∧ inner.Pairwise Operator.Outbinds ∧ outer.Pairwise Operator.Outbinds ∧
      stack.length ≤ 3 * stack.count .openParen + 2 ∧
      stack.length = 3 * stack.count .openParen + 2 := by
  intro tokens inner outer stack
  have occurs : Occurs tokens stack :=
    ⟨tokens, ⟨[.operator (.comparison .lt)], stack⟩, List.prefix_rfl, rfl, List.suffix_rfl⟩
  obtain ⟨groups, bound⟩ := occurring_stack_rises occurs
  have lower : stack = (inner.map .operator ++ [.openParen]) ++ outer.map .operator ++ [] := rfl
  exact ⟨occurs, (groups [] inner _ rfl).1, (groups _ outer [] lower).1, bound, rfl⟩

end Assembly

end Program

end DocumentStore
