import DocumentStore.Proofs.Condition.Assembly
import DocumentStore.Proofs.Except
import Mathlib.Data.List.Infix

/-!
# Parentheses that have partners

The parentheses that wait are those of the tokens read so far that are still open. Assembly fails
exactly where a closing parenthesis finds none of them, and at the end if one is left. Operators
come and go between them, with or without their operands, and make no difference.
-/

namespace DocumentStore.Program

namespace Assembly

/-- The number of parentheses that are open. -/
def level (assembly : Assembly) : Nat := assembly.waiting.count .openParen

theorem count_operator_cons (op : Operator) (waiting : List Pending) :
    (.operator op :: waiting).count Pending.openParen = waiting.count .openParen :=
  List.count_cons_of_ne (by simp)

theorem Emits.level {before after : Assembly} (emits : Emits before after) :
    after.level = before.level := by
  induction emits with
  | none => rfl
  | operator _ ih => exact ih.trans (count_operator_cons _ _).symm

/-- A closing parenthesis closes one that is open, and fails if there is none. -/
theorem close_level (emitted : List Token) (waiting : List Pending) :
    (∃ after, close emitted waiting = .ok after ∧ waiting.count .openParen = after.level + 1) ∨
    (close emitted waiting = .error .mismatchedParentheses ∧ waiting.count .openParen = 0) := by
  induction waiting generalizing emitted with
  | nil => exact .inr ⟨rfl, rfl⟩
  | cons pending rest ih =>
    cases pending with
    | openParen => exact .inl ⟨_, rfl, List.count_cons_self⟩
    | operator op =>
      rw [count_operator_cons]
      exact ih _

/-- At the end no parenthesis may be open. -/
theorem finish_level (emitted : List Token) (waiting : List Pending) :
    (∃ instructions, finish emitted waiting = .ok instructions ∧
      waiting.count .openParen = 0) ∨
    (finish emitted waiting = .error .mismatchedParentheses ∧ 0 < waiting.count .openParen) := by
  induction waiting generalizing emitted with
  | nil => exact .inl ⟨_, rfl, rfl⟩
  | cons pending rest ih =>
    cases pending with
    | openParen => exact .inr ⟨rfl, by simp⟩
    | operator op =>
      rw [count_operator_cons]
      exact ih _

/-- One token more opens a parenthesis, closes one, or leaves those that are open; only a closing one
can fail, for want of a partner. -/
theorem step_level (before : Assembly) (token : Token) :
    (∃ after, step before token = .ok after ∧
      after.level + [token].count .closeParen = before.level + [token].count .openParen) ∨
    (step before token = .error .mismatchedParentheses ∧ token = .closeParen ∧
      before.level = 0) := by
  cases token with
  | operator op =>
    let released := release op before.emitted before.waiting
    have kept : level ⟨released.emitted, .operator op :: released.waiting⟩ = before.level :=
      (count_operator_cons op _).trans (emits_release op before.emitted before.waiting).level
    exact .inl ⟨_, rfl, kept⟩
  | openParen =>
    have opened : level ⟨before.emitted, .openParen :: before.waiting⟩ = before.level + 1 :=
      List.count_cons_self
    exact .inl ⟨_, rfl, opened⟩
  | name s => exact .inl ⟨_, rfl, rfl⟩
  | literal l => exact .inl ⟨_, rfl, rfl⟩
  | closeParen =>
    rcases close_level before.emitted before.waiting with ⟨after, closed, one⟩ | ⟨failed, none⟩
    · exact .inl ⟨after, closed, one.symm⟩
    · exact .inr ⟨failed, rfl, none⟩

/-- The parentheses that are open after a row of tokens, or where the row fails. -/
theorem foldlM_level (tokens : List Token) :
    (∃ after, tokens.foldlM step ⟨[], []⟩ = .ok after ∧
      after.level + tokens.count .closeParen = tokens.count .openParen ∧
      ∀ part, part <+: tokens → part.count .closeParen ≤ part.count .openParen) ∨
    (tokens.foldlM step ⟨[], []⟩ = .error .mismatchedParentheses ∧
      ∃ part, part <+: tokens ∧ part.count .openParen < part.count .closeParen) := by
  -- From the right: a part from the start of a longer row is all of it, or a part of the row before.
  induction tokens using List.reverseRecOn with
  | nil =>
    refine .inl ⟨_, rfl, rfl, ?_⟩
    intro part inside
    rw [List.prefix_nil.1 inside]
    exact Nat.le_refl _
  | append_singleton tokens token ih =>
    rcases ih with ⟨middle, read, total, parts⟩ | ⟨failed, part, inside, unopened⟩
    · have opens : (tokens ++ [token]).count .openParen =
          tokens.count .openParen + [token].count .openParen := List.count_append
      have closes : (tokens ++ [token]).count .closeParen =
          tokens.count .closeParen + [token].count .closeParen := List.count_append
      rw [foldlM_append_of_ok read]
      rcases step_level middle token with ⟨after, stepped, one⟩ | ⟨failed, rfl, none⟩
      · refine .inl ⟨after, foldlM_cons_of_ok stepped [], by omega, ?_⟩
        intro part inside
        rcases List.prefix_concat_iff.1 inside with rfl | inside
        · omega
        · exact parts part inside
      · have one : [Token.closeParen].count .closeParen = 1 := rfl
        have zero : [Token.closeParen].count .openParen = 0 := rfl
        refine .inr ⟨?_, _, List.prefix_rfl, by omega⟩
        rw [List.foldlM_cons, failed]
        rfl
    · refine .inr ⟨?_, part, inside.trans (List.prefix_append ..), unopened⟩
      rw [List.foldlM_append, failed]
      rfl

end Assembly

/-- Some tokens from the start close more parentheses than they open, or all of them do not open as
many as they close. -/
def Unbalanced (tokens : List Token) : Prop :=
  (∃ part, part <+: tokens ∧ part.count .openParen < part.count .closeParen) ∨
    tokens.count .openParen ≠ tokens.count .closeParen

theorem not_unbalanced_iff {tokens : List Token} :
    ¬ Unbalanced tokens ↔
      (∀ part, part <+: tokens → part.count .closeParen ≤ part.count .openParen) ∧
      tokens.count .openParen = tokens.count .closeParen := by
  simp only [Unbalanced, not_or, not_exists, not_and, Nat.not_lt, Classical.not_not]

/-- A part from the start of two rows is a part of the first one, or all of it and a part of the
second one. -/
theorem prefix_append_cases {part first second : List Token} (inside : part <+: first ++ second) :
    part <+: first ∨ ∃ more, part = first ++ more ∧ more <+: second := by
  rcases List.prefix_or_prefix_of_prefix inside (List.prefix_append first second) with
    short | ⟨more, rfl⟩
  · exact .inl short
  · exact .inr ⟨more, rfl, (List.prefix_append_right_inj first).1 inside⟩

/-- Balanced tokens in the middle of others make no difference to these. -/
theorem unbalanced_insert_iff {middle : List Token} (balanced : ¬ Unbalanced middle)
    (before after : List Token) :
    Unbalanced (before ++ middle ++ after) ↔ Unbalanced (before ++ after) := by
  obtain ⟨parts, total⟩ := not_unbalanced_iff.1 balanced
  have more (token : Token) : (before ++ middle ++ after).count token =
      (before ++ after).count token + middle.count token := by
    simp only [List.count_append]
    omega
  have opens := more .openParen
  have closes := more .closeParen
  constructor
  · rintro (⟨part, inside, unopened⟩ | differ)
    · rw [List.append_assoc] at inside
      rcases prefix_append_cases inside with short | ⟨part, rfl, later⟩
      · exact .inl ⟨part, short.trans (List.prefix_append ..), unopened⟩
      · rcases prefix_append_cases later with short | ⟨part, rfl, last⟩
        · have opened := parts part short
          refine .inl ⟨before, List.prefix_append .., ?_⟩
          simp only [List.count_append] at unopened
          omega
        · refine .inl ⟨before ++ part, (List.prefix_append_right_inj before).2 last, ?_⟩
          simp only [List.count_append] at unopened ⊢
          omega
    · exact .inr (by omega)
  · rintro (⟨part, inside, unopened⟩ | differ)
    · rcases prefix_append_cases inside with short | ⟨part, rfl, later⟩
      · have longer : before <+: before ++ middle ++ after := ⟨middle ++ after, by simp⟩
        exact .inl ⟨part, short.trans longer, unopened⟩
      · refine .inl ⟨before ++ middle ++ part, (List.prefix_append_right_inj _).2 later, ?_⟩
        simp only [List.count_append] at unopened ⊢
        omega
    · exact .inr (by omega)

theorem ofTokens_cases (tokens : List Token) :
    (¬ Unbalanced tokens ∧ ∃ program, ofTokens tokens = .ok program) ∨
    (Unbalanced tokens ∧ ofTokens tokens = .error .mismatchedParentheses) := by
  rcases Assembly.foldlM_level tokens with ⟨last, read, total, parts⟩ | ⟨failed, unopened⟩
  · have level : last.level = last.waiting.count .openParen := rfl
    rcases Assembly.finish_level last.emitted last.waiting with
      ⟨instructions, finished, none⟩ | ⟨failed, opened⟩
    · refine .inl ⟨?_, ⟨instructions⟩, bind_eq_ok_iff.2 ⟨last, read, bind_eq_ok_iff.2
        ⟨instructions, finished, rfl⟩⟩⟩
      rintro (⟨part, inside, unopened⟩ | differ)
      · exact Nat.not_le_of_lt unopened (parts part inside)
      · omega
    · refine .inr ⟨.inr (by omega), ?_⟩
      rw [ofTokens, read]
      change (Assembly.finish last.emitted last.waiting >>= _) = _
      rw [failed]
      rfl
  · refine .inr ⟨.inl unopened, ?_⟩
    rw [ofTokens, failed]
    rfl

/-- Tokens are refused exactly if their parentheses are not balanced. Any other tokens have a
program, whatever else is wrong with them. -/
theorem ofTokens_unbalanced (tokens : List Token) :
    (ofTokens tokens = .error .mismatchedParentheses ↔ Unbalanced tokens) ∧
    ((∃ program, ofTokens tokens = .ok program) ↔ ¬ Unbalanced tokens) := by
  rcases ofTokens_cases tokens with ⟨balanced, program, made⟩ | ⟨unbalanced, failed⟩
  · refine ⟨iff_of_false ?_ balanced, iff_of_true ⟨program, made⟩ balanced⟩
    rw [made]
    nofun
  · refine ⟨iff_of_true failed unbalanced, iff_of_false ?_ (not_not_intro unbalanced)⟩
    rintro ⟨program, made⟩
    rw [failed] at made
    cases made

/-- As many are opened as are closed, but the first one is closed. -/
example (s : String) :
    ofTokens [.name s, .closeParen, .openParen] = .error .mismatchedParentheses := rfl

end DocumentStore.Program
