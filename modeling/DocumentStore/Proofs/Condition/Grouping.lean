import DocumentStore.Proofs.Condition.Balance
import DocumentStore.Proofs.Condition.Grammar

/-!
# Groups in parentheses

Tokens that compile on their own are assembled in the same way inside a pair of parentheses: no
operator of the group releases what waits before the opening parenthesis, and the closing one
releases exactly what still waits inside. The tokens need not be well formed. So a group acts on what
has been emitted alone, whatever stands around it, and a second pair of parentheses changes nothing.
-/

namespace DocumentStore

/-- Tokens in a pair of parentheses. -/
def Token.enclosed (tokens : List Token) : List Token := .openParen :: (tokens ++ [.closeParen])

namespace Program

namespace Assembly

theorem close_within {waiting : List Pending} {inside : List Token} {held : List Pending} {after : Assembly}
    (closed : close inside held = .ok after) (emitted : List Token) :
    close (inside ++ emitted) (held ++ waiting) =
      .ok ⟨after.emitted ++ emitted, after.waiting ++ waiting⟩ := by
  induction held generalizing inside with
  | nil => cases closed
  | cons pending rest ih =>
    cases pending with
    | operator op => exact ih closed
    | openParen =>
      cases closed
      rfl

section

variable {waiting : List Pending} (fresh : ∀ op rest, waiting ≠ .operator op :: rest)

include fresh

theorem release_within (incoming : Operator) (inside emitted : List Token) (held : List Pending) :
    release incoming (inside ++ emitted) (held ++ waiting) =
      ⟨(release incoming inside held).emitted ++ emitted,
        (release incoming inside held).waiting ++ waiting⟩ := by
  induction held generalizing inside with
  | nil => exact release_of_blocks (blocks_of_no_operator fresh incoming) _
  | cons pending rest ih =>
    cases pending with
    | operator op =>
      by_cases binds : bindsBefore op incoming = true
      · have released := ih (.operator op :: inside)
        simpa [release, binds] using released
      · simp [release, binds]
    | openParen => rfl

/-- A token that is taken in on its own is taken in alike inside a group. -/
theorem step_within {before after : Assembly} {token : Token}
    (stepped : step before token = .ok after) (emitted : List Token) :
    step ⟨before.emitted ++ emitted, before.waiting ++ waiting⟩ token =
      .ok ⟨after.emitted ++ emitted, after.waiting ++ waiting⟩ := by
  cases token with
  | operator op =>
    cases stepped
    simp only [step, release_within fresh]
    rfl
  | closeParen => exact close_within stepped emitted
  | openParen | name s | literal l =>
    cases stepped
    rfl

theorem foldlM_within {tokens : List Token} {before after : Assembly}
    (read : tokens.foldlM step before = .ok after) (emitted : List Token) :
    tokens.foldlM step ⟨before.emitted ++ emitted, before.waiting ++ waiting⟩ =
      .ok ⟨after.emitted ++ emitted, after.waiting ++ waiting⟩ := by
  induction tokens generalizing before with
  | nil =>
    cases read
    rfl
  | cons token rest ih =>
    obtain ⟨next, stepped, read⟩ := foldlM_cons_eq_ok_iff.1 read
    rw [foldlM_cons_of_ok (step_within fresh stepped emitted)]
    exact ih read

end

/-- What is left at the end of the tokens is what the closing parenthesis releases. -/
theorem close_of_finish {inside listing : List Token} {held : List Pending}
    (finished : finish inside held = .ok listing) (emitted : List Token) (waiting : List Pending) :
    close (inside ++ emitted) (held ++ .openParen :: waiting) =
      .ok ⟨listing.reverse ++ emitted, waiting⟩ := by
  induction held generalizing inside with
  | nil =>
    cases finished
    rw [List.reverse_reverse]
    rfl
  | cons pending rest ih =>
    cases pending with
    | operator op => exact ih finished
    | openParen => cases finished

/-- Tokens that compile have their instructions emitted when they stand in parentheses, and what
waits before the group stays as it is. -/
theorem foldlM_group {tokens : List Token} {program : Program}
    (compiled : ofTokens tokens = .ok program) (emitted : List Token) (waiting : List Pending) :
    (Token.enclosed tokens).foldlM step ⟨emitted, waiting⟩ =
      .ok ⟨program.instructions.reverse ++ emitted, waiting⟩ := by
  obtain ⟨last, read, finished⟩ := bind_eq_ok_iff.1 compiled
  obtain ⟨listing, complete, made⟩ := bind_eq_ok_iff.1 finished
  cases made
  have fresh : ∀ op rest, Pending.openParen :: waiting ≠ .operator op :: rest := by simp
  have opened : step ⟨emitted, waiting⟩ .openParen = .ok ⟨emitted, .openParen :: waiting⟩ := rfl
  have inside := foldlM_within fresh read emitted
  rw [List.nil_append, List.nil_append] at inside
  have closed : step ⟨last.emitted ++ emitted, last.waiting ++ .openParen :: waiting⟩ .closeParen =
      .ok ⟨listing.reverse ++ emitted, waiting⟩ := close_of_finish complete emitted waiting
  rw [Token.enclosed, foldlM_cons_of_ok opened, foldlM_append_of_ok inside, foldlM_cons_of_ok closed]
  rfl

end Assembly

/-- Two groups joined by a connective compile to their instructions and then the connective. -/
theorem ofTokens_joined {left right : List Token} {first second : Program}
    (leftCompiled : ofTokens left = .ok first) (rightCompiled : ofTokens right = .ok second)
    (op : Connective) :
    ofTokens (Token.enclosed left ++ .operator (.connective op) :: Token.enclosed right) =
      .ok ⟨first.instructions ++ second.instructions ++ [.operator (.connective op)]⟩ := by
  have joined : Assembly.step ⟨first.instructions.reverse ++ [], []⟩ (.operator (.connective op)) =
      .ok ⟨first.instructions.reverse ++ [], [.operator (.connective op)]⟩ := rfl
  rw [ofTokens, foldlM_append_of_ok (Assembly.foldlM_group leftCompiled [] []),
    foldlM_cons_of_ok joined, Assembly.foldlM_group rightCompiled]
  refine bind_eq_ok_iff.2 ⟨_, rfl, bind_eq_ok_iff.2 ⟨_, rfl, ?_⟩⟩
  simp [pure, Except.pure]

section

variable {tokens : List Token} {program : Program}

/-- Parentheses leave no trace in a program. -/
theorem ofTokens_enclosed (compiled : ofTokens tokens = .ok program) :
    ofTokens (Token.enclosed tokens) = .ok program := by
  refine bind_eq_ok_iff.2 ⟨_, Assembly.foldlM_group compiled [] [], bind_eq_ok_iff.2 ⟨_, rfl, ?_⟩⟩
  simp [pure, Except.pure]

/-- Groups with the same program can stand for each other in any tokens, those that fail included. -/
theorem ofTokens_enclosed_congr {other : List Token} (compiled : ofTokens tokens = .ok program)
    (compiledOther : ofTokens other = .ok program) (before after : List Token) :
    ofTokens (before ++ Token.enclosed tokens ++ after) =
      ofTokens (before ++ Token.enclosed other ++ after) := by
  have alike : (Token.enclosed tokens).foldlM Assembly.step =
      (Token.enclosed other).foldlM Assembly.step := by
    funext assembly
    exact (Assembly.foldlM_group compiled assembly.emitted assembly.waiting).trans
      (Assembly.foldlM_group compiledOther assembly.emitted assembly.waiting).symm
  simp only [ofTokens, List.foldlM_append, alike]

/-- Tokens that compile do not help those around them to partners, nor take them away. -/
theorem ofTokens_around_enclosed (compiled : ofTokens tokens = .ok program)
    (before after : List Token) :
    ofTokens (before ++ Token.enclosed tokens ++ after) = .error .mismatchedParentheses ↔
      Unbalanced (before ++ after) := by
  have balanced := (ofTokens_unbalanced _).2.1 ⟨program, ofTokens_enclosed compiled⟩
  rw [(ofTokens_unbalanced _).1, unbalanced_insert_iff balanced]

end

/-- Redundant parentheses never change a program. Tokens that compile, well formed or not, compile to
the same program in parentheses. In the midst of other tokens a second pair of parentheses around them
makes no difference, neither to the program nor to a failure: both fail exactly if the parentheses
before and after them are not balanced. -/
theorem ofTokens_redundant {tokens : List Token} {program : Program}
    (compiled : ofTokens tokens = .ok program) :
    ofTokens (Token.enclosed tokens) = ofTokens tokens ∧
    ∀ before after,
      ofTokens (before ++ Token.enclosed (Token.enclosed tokens) ++ after) =
        ofTokens (before ++ Token.enclosed tokens ++ after) ∧
      (ofTokens (before ++ Token.enclosed tokens ++ after) = .error .mismatchedParentheses ↔
        Unbalanced (before ++ after)) := by
  have once := ofTokens_enclosed compiled
  refine ⟨once.trans compiled.symm, fun before after => ⟨?_, ?_⟩⟩
  · exact ofTokens_enclosed_congr once compiled before after
  · exact ofTokens_around_enclosed compiled before after

/-- A group in which one operator lacks its left operand and one its right operand, after an operator
that waits; a parenthesis without a partner may follow. -/
theorem ofTokens_redundant_of_spare :
    let less : Token := .operator (.comparison .lt)
    let tokens : List Token := [.operator (.connective .or), .name "a", .operator (.comparison .eq)]
    let program : Program :=
      ⟨[.name "a", .operator (.comparison .eq), .operator (.connective .or)]⟩
    ofTokens tokens = .ok program ∧
      ofTokens (Token.enclosed tokens) = .ok program ∧
      ofTokens ([.name "b", less] ++ Token.enclosed (Token.enclosed tokens) ++ []) =
        .ok ⟨.name "b" :: (program.instructions ++ [less])⟩ ∧
      ofTokens ([.name "b", less] ++ Token.enclosed (Token.enclosed tokens) ++ [.closeParen]) =
        .error .mismatchedParentheses := by
  intro less tokens program
  have compiled : ofTokens tokens = .ok program := rfl
  obtain ⟨once, context⟩ := ofTokens_redundant compiled
  obtain ⟨same, -⟩ := context [.name "b", less] []
  obtain ⟨alike, fails⟩ := context [.name "b", less] [.closeParen]
  exact ⟨compiled, once.trans compiled, same.trans rfl, alike.trans (fails.2 (.inr (by decide)))⟩

end Program

end DocumentStore
