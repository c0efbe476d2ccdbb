import DocumentStore.Proofs.Condition.Conservation
import DocumentStore.Proofs.Condition.Folding
import DocumentStore.Proofs.Condition.Modes
import DocumentStore.Proofs.Condition.Spelling

/-!
# Tokens and programs that are printed

A token is legible if it is scanned again from what is shown of it. Legible tokens stay apart when
single blanks stand between them, and every token of a condition is legible, numbers perhaps
excepted. A program is printed with parentheses around every operation, so that its text is read as
one atom, and nothing is left to the strength of the operators.
-/

namespace DocumentStore

namespace Token

open Text

/-- A token that is scanned alone from what is shown of it. -/
def Legible (token : Token) : Prop := scan token.display.toList = ([token], [])

/-- A token that a condition can spell: a field name that is no connective in any letter case, a
plain literal, or any operator or parenthesis. -/
def Plain : Token → Prop
  | .name s => IsIdentifier s.toList ∧ spells "and" s.toList = false ∧ spells "or" s.toList = false
  | .literal l => l.Plain
  | .operator _ | .openParen | .closeParen => True

theorem legible_of_plain {token : Token} (plain : token.Plain) : token.Legible := by
  cases token with
  | operator op => exact scan_symbol op
  | openParen | closeParen => exact scan_single (by decide) rfl
  | name s => exact scan_name plain.1 plain.2.1 plain.2.2
  | literal l => exact scan_literal plain

theorem legible_number_iff {x : Float} :
    Legible (.literal (.number x)) ↔
      ofText true (Literal.number x).display = .ok [.literal (.number x)] :=
  scanStrict_eq_ok_iff.symm

/-- Legible tokens with single blanks between them are scanned one by one. -/
theorem scan_intercalate {tokens : List Token} (legible : ∀ token ∈ tokens, token.Legible) :
    scan (" ".intercalate (tokens.map display)).toList = (tokens, []) := by
  induction tokens with
  | nil => exact scan_nil
  | cons token rest ih =>
    obtain ⟨first, others⟩ := List.forall_mem_cons.1 legible
    cases rest with
    | nil =>
      have alone : (" ".intercalate ([token].map display)) = token.display := by simp
      rw [alone]
      exact first
    | cons next rest =>
      have shown : (" ".intercalate ((token :: next :: rest).map display)).toList =
          token.display.toList ++ ' ' ::
            (" ".intercalate ((next :: rest).map display)).toList := by
        simp [String.toList_intercalate, List.intercalate]
      rw [shown]
      exact scan_append_blank first (ih others)

/-- Scanning undoes showing: plain tokens that are shown with single blanks between them are scanned
again in both modes, whatever stands next to each other. -/
theorem ofText_intercalate {tokens : List Token} (plain : ∀ token ∈ tokens, token.Plain)
    (strict : Bool) : ofText strict (" ".intercalate (tokens.map display)) = .ok tokens :=
  ofText_of_scan (scan_intercalate fun token inside => legible_of_plain (plain token inside)) strict

/-- Signs that would be one operator, a number before a word, a word that begins with a connective,
and a text that looks like other tokens. -/
theorem ofText_intercalate_of_neighbours :
    let thirty : Float := (Decimal.mk 30 0).toFloat
    let tokens : List Token := [.operator (.comparison .gt), .operator (.comparison .eq),
      .literal (.number thirty), .name "ORDER", .operator (.connective .or),
      .literal (.text "AND (a = 1)"), .closeParen, .openParen]
    " ".intercalate (tokens.map display) = "> = 30 ORDER OR \"AND (a = 1)\" ) (" ∧
      ∀ strict, ofText strict "> = 30 ORDER OR \"AND (a = 1)\" ) (" = .ok tokens := by
  intro thirty tokens
  have shown : plainText thirty = "30" := by decide +kernel
  have number : (Literal.number thirty).Plain := by
    rw [Literal.Plain, shown]
    have digits : ∀ c ∈ "30".toList, c.isDigit = true := List.all_eq_true.1 rfl
    exact ⟨.inl ⟨List.cons_ne_nil _ _, digits⟩, rfl⟩
  have quoted : (Literal.text "AND (a = 1)").Plain := ⟨by decide, by decide, by decide⟩
  have named : Plain (.name "ORDER") := ⟨by decide, by decide, by decide⟩
  have plain : ∀ token ∈ tokens, token.Plain := by
    simp only [tokens, List.forall_mem_cons]
    exact ⟨trivial, trivial, number, named, trivial, quoted, trivial, trivial, nofun⟩
  have joined : " ".intercalate (tokens.map display) = "> = 30 ORDER OR \"AND (a = 1)\" ) (" := by
    simp only [tokens, List.map_cons, display, Literal.display, shown]
    rfl
  refine ⟨joined, ?_⟩
  intro strict
  rw [← joined]
  exact ofText_intercalate plain strict

theorem plain_ofWord {word : List Char} (identifier : IsIdentifier word) : (ofWord word).Plain := by
  rw [ofWord]
  split
  · trivial
  · rename_i noConnective
    rw [Plain, String.toList_ofList]
    rw [Connective.ofWord?] at noConnective
    split at noConnective
    · cases noConnective
    · rename_i notAnd
      split at noConnective
      · cases noConnective
      · rename_i notOr
        exact ⟨identifier, Bool.eq_false_iff.2 notAnd, Bool.eq_false_iff.2 notOr⟩

theorem plain_of_readQuoted? {text rest : List Char} {token : Token}
    (read : readQuoted? text = some (token, rest)) : token.Plain := by
  unfold readQuoted? at read
  split at read
  · cases read
    have goesOn : ∀ c ∈ text.takeWhile (fun c => !endsQuoted c), (!endsQuoted c) = true :=
      List.all_eq_true.1 List.all_takeWhile
    have absent : ∀ c, endsQuoted c = true → c ∉ text.takeWhile fun c => !endsQuoted c := by
      intro c ends inside
      have stays := goesOn c inside
      rw [ends] at stays
      cases stays
    rw [Plain, Literal.Plain, String.toList_ofList]
    exact ⟨absent '"' rfl, absent '\n' rfl, absent '\r' rfl⟩
  · cases read

/-- A token that is read is plain, or it is a number. -/
theorem plain_of_read? {text rest : List Char} {token : Token}
    (read : read? text = some (token, rest)) :
    token.Plain ∨ ∃ x, token = .literal (.number x) := by
  unfold read? at read
  split at read
  case h_9 => exact .inl (plain_of_readQuoted? read)
  case h_10 c text _ _ _ _ _ _ _ _ _ =>
    split at read
    · rename_i start
      cases read
      have parts : ∀ d ∈ text.takeWhile isWordPart, isWordPart d = true :=
        List.all_eq_true.1 List.all_takeWhile
      rw [List.takeWhile_cons_of_pos (isWordPart_of_isWordStart start)]
      exact .inl (plain_ofWord ⟨start, parts⟩)
    · split at read
      · rename_i digit
        obtain ⟨_, _, x, -, -, -, -, number⟩ := readNumber_cons digit text
        rw [number] at read
        cases read
        exact .inr ⟨x, rfl⟩
      · cases read
  case h_11 => cases read
  all_goals
    cases read
    exact .inl trivial

theorem plain_of_passed {text : List Char} {tokens : List Token} (passed : Passed text tokens) :
    ∀ token ∈ tokens, token.Plain ∨ ∃ x, token = .literal (.number x) := by
  induction passed with
  | done => nofun
  | blank _ _ ih => exact ih
  | token _ read _ ih => exact List.forall_mem_cons.2 ⟨plain_of_read? read, ih⟩
  | skipped _ _ _ ih => exact ih

/-- The tokens of a condition are legible, if its numbers are. -/
theorem legible_of_ofText {strict : Bool} {text : String} {tokens : List Token}
    (scanned : ofText strict text = .ok tokens) {token : Token} (inside : token ∈ tokens)
    (readBack : ∀ x, token = .literal (.number x) → token.Legible) : token.Legible := by
  have all : scanAll text.toList = tokens := Except.ok.inj (ofText_permissive scanned)
  have passed := passed_scanAll text.toList
  rw [all] at passed
  rcases plain_of_passed passed token inside with plain | ⟨x, number⟩
  · exact legible_of_plain plain
  · exact readBack x number

end Token

namespace Expression

/-- The text of an expression, with parentheses around every operation. -/
def written : Expression → List Char
  | .name s => s.toList
  | .literal l => l.display.toList
  | .operation op left right =>
    '(' :: (left.written ++ ' ' :: (op.symbol.toList ++ ' ' :: (right.written ++ [')'])))

theorem fold_printer (e : Expression) : e.fold .printer = .ok (String.ofList e.written) := by
  induction e with
  | name s => exact congrArg Except.ok String.ofList_toList.symm
  | literal l => exact congrArg Except.ok String.ofList_toList.symm
  | operation op left right ihLeft ihRight =>
    have shown : "(" ++ String.ofList left.written ++ " " ++ op.symbol ++ " " ++
        String.ofList right.written ++ ")" =
        String.ofList (operation op left right).written := by
      rw [← String.toList_inj]
      simp [written]
    rw [fold, ihLeft, ihRight, ← shown]
    cases op <;> rfl

/-- An expression as an atom of a condition. -/
def atom : Expression → Atom
  | .name s => .name s
  | .literal l => .literal l
  | .operation (.comparison op) left right =>
    .group (.clause (.compare (.atom left.atom) op right.atom))
  | .operation (.connective op) left right =>
    .group (.join (.clause (.atom left.atom)) op (.atom right.atom))

theorem expression_atom (e : Expression) : e.atom.expression = e := by
  induction e with
  | name s => rfl
  | literal l => rfl
  | operation op left right ihLeft ihRight =>
    cases op <;> simp only [atom, Atom.expression, Sentence.expression, Clause.expression, ihLeft,
      ihRight]

theorem tokens_atom (op : Operator) (left right : Expression) :
    (operation op left right).atom.tokens =
      .openParen :: (left.atom.tokens ++ .operator op :: (right.atom.tokens ++ [.closeParen])) := by
  cases op <;> simp [atom, Atom.tokens, Sentence.tokens, Clause.tokens]

/-- The text of an expression of legible tokens is scanned to the tokens of its atom. -/
theorem scan_written {e : Expression} (legible : ∀ token ∈ e.postorder, token.Legible) :
    Token.scan e.written = (e.atom.tokens, []) := by
  induction e with
  | name s => exact legible (.name s) (List.mem_singleton_self _)
  | literal l => exact legible (.literal l) (List.mem_singleton_self _)
  | operation op left right ihLeft ihRight =>
    obtain ⟨operands, _⟩ := List.forall_mem_append.1 legible
    obtain ⟨leftLegible, rightLegible⟩ := List.forall_mem_append.1 operands
    rw [tokens_atom]
    exact Token.scan_operation op (ihLeft leftLegible) (ihRight rightLegible)

end Expression

namespace Program

/-- What is printed of a program with one value is the text of the expression that it lists. -/
theorem exists_written {program : Program} {printed : String}
    (shown : program.parenthesized = .ok (some printed)) :
    ∃ e : Expression, program.instructions = e.postorder ∧ printed = String.ofList e.written := by
  obtain ⟨e, lists⟩ := exists_expression rfl rfl shown
  have ran := Interpretation.run_eq_fold .printer e
  rw [← lists, e.fold_printer] at ran
  have same : some (String.ofList e.written) = some printed :=
    Except.ok.inj (ran.symm.trans shown)
  exact ⟨e, lists, (Option.some.inj same).symm⟩

/-- Compiling undoes printing. If the program of a condition can be printed, its text is accepted by
strict scanning and compiles to the same program. Each number of the condition must be read back from
what is shown of it. -/
theorem ofTokens_of_parenthesized {strict : Bool} {text : String} {condition : Condition}
    (compiled : Condition.ofText strict text = .ok condition) {printed : String}
    (shown : condition.program.parenthesized = .ok (some printed))
    (readBack : ∀ x, .literal (.number x) ∈ condition.program.instructions →
      Token.ofText true (Literal.number x).display = .ok [.literal (.number x)]) :
    ∃ tokens, Token.ofText true printed = .ok tokens ∧
      ofTokens tokens = .ok condition.program := by
  obtain ⟨source, scanned, compiled⟩ := bind_eq_ok_iff.1 compiled
  obtain ⟨program, assembled, same⟩ := bind_eq_ok_iff.1 compiled
  cases same
  obtain ⟨listing, traces⟩ := exists_traces assembled
  obtain ⟨e, lists, rfl⟩ := exists_written shown
  have legible : ∀ token ∈ e.postorder, token.Legible := by
    intro token inside
    rw [← lists] at inside
    have member : token ∈ source := List.mem_of_mem_filter (traces.perm.mem_iff.1 inside)
    refine Token.legible_of_ofText scanned member ?_
    rintro x rfl
    exact Token.legible_number_iff.2 (readBack x inside)
  refine ⟨e.atom.tokens, ?_, ?_⟩
  · refine Token.ofText_of_scan ?_ true
    rw [String.toList_ofList]
    exact Expression.scan_written legible
  · rw [ofTokens_atom, e.expression_atom, ← lists]

/-- A comparison whose sides are a connective and another comparison. -/
theorem ofTokens_of_parenthesized_of_nested :
    let text := "(a OR 30) = (\"x\" > b) AND c"
    ∃ condition, Condition.ofText false text = .ok condition ∧
      condition.program.parenthesized = .ok (some "(((a OR 30) = (\"x\" > b)) AND c)") ∧
      ∃ tokens, Token.ofText true "(((a OR 30) = (\"x\" > b)) AND c)" = .ok tokens ∧
        ofTokens tokens = .ok condition.program := by
  intro text
  let thirty : Float := (Decimal.mk 30 0).toFloat
  let program : Program := ⟨[.name "a", .literal (.number thirty), .operator (.connective .or),
    .literal (.text "x"), .name "b", .operator (.comparison .gt), .operator (.comparison .eq),
    .name "c", .operator (.connective .and)]⟩
  have compiled : Condition.ofText false text = .ok ⟨text, program⟩ := by decide +kernel
  have shown : program.parenthesized = .ok (some "(((a OR 30) = (\"x\" > b)) AND c)") := by
    decide +kernel
  refine ⟨⟨text, program⟩, compiled, shown, ofTokens_of_parenthesized compiled shown ?_⟩
  intro x inside
  have only : x = thirty := by simpa [program] using inside
  rw [only]
  decide +kernel

end Program

end DocumentStore
