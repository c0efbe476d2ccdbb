import DocumentStore.Proofs.Condition.Scanning
import DocumentStore.Proofs.Decimal.Digits
import DocumentStore.Proofs.Text.Words

/-!
# Texts of single tokens

Each token has texts that are scanned to it alone: a field name, unless it spells a connective in
some letter case, a text in quotes on one line, and a number written without sign and exponent.
Texts that are scanned to their end can be put one after the other with a blank between them.
-/

namespace DocumentStore

/-- A literal that a condition can spell as it is shown: a text on one line without quotes, or a
number that is shown as digits with an optional fraction, and is read back from them. -/
def Literal.Plain : Literal → Prop
  | .text s => '"' ∉ s.toList ∧ '\n' ∉ s.toList ∧ '\r' ∉ s.toList
  | .number x =>
    Decimal.IsPlain (plainText x).toList ∧ Decimal.float? (plainText x).toList = some x

namespace Token

open Text

theorem scan_single {c : Char} {text : List Char} {token : Token}
    (notBlank : ¬ isBlank c = true) (read : read? (c :: text) = some (token, [])) :
    scan (c :: text) = ([token], []) := by
  rw [scan_token notBlank read, scan_nil]

theorem scan_word {word : List Char} (identifier : IsIdentifier word) :
    scan word = ([ofWord word], []) := by
  cases word with
  | nil => exact identifier.elim
  | cons c rest =>
    have parts := identifier.isWord.2
    have notBlank : ¬ isBlank c = true := by
      simp [isBlank_of_isWordPart (parts c List.mem_cons_self)]
    apply scan_single notBlank
    rw [read?_of_plain (.inl identifier.1), if_pos identifier.1, readWord,
      List.takeWhile_eq_self_iff.2 parts, List.dropWhile_eq_nil_iff.2 parts]

theorem scan_name {s : String} (identifier : IsIdentifier s.toList)
    (notAnd : spells "and" s.toList = false) (notOr : spells "or" s.toList = false) :
    scan s.toList = ([.name s], []) := by
  rw [scan_word identifier, ofWord, Connective.ofWord?, notAnd, notOr]
  exact congrArg (fun name => ([Token.name name], [])) String.ofList_toList

theorem scan_connective_symbol (op : Connective) :
    scan op.symbol.toList = ([.operator (.connective op)], []) := by
  cases op <;> exact scan_single (by decide) rfl

theorem scan_comparison_symbol (op : Comparison) :
    scan op.symbol.toList = ([.operator (.comparison op)], []) := by
  cases op <;> exact scan_single (by decide) rfl

theorem scan_quoted {s : String} (noQuote : '"' ∉ s.toList) (noFeed : '\n' ∉ s.toList)
    (noReturn : '\r' ∉ s.toList) :
    scan ('"' :: (s.toList ++ ['"'])) = ([.literal (.text s)], []) := by
  have goesOn : ∀ c ∈ s.toList, (!endsQuoted c) = true := by
    intro c inside
    simp [endsQuoted, ne_of_mem_of_not_mem inside noQuote, ne_of_mem_of_not_mem inside noFeed,
      ne_of_mem_of_not_mem inside noReturn]
  have read : readQuoted? (s.toList ++ ['"']) = some (.literal (.text s), []) := by
    rw [readQuoted?, List.takeWhile_append_of_pos goesOn, List.dropWhile_append_of_pos goesOn]
    simp [endsQuoted]
  exact scan_single (by decide) read

/-- How many characters a number takes from the front of a text: its digits, and if digits follow a
point after them, the point and those digits. -/
def numeralLength (text : List Char) : Nat :=
  let whole := (text.takeWhile Char.isDigit).length
  let fraction := ((text.drop (whole + 1)).takeWhile Char.isDigit).length
  if (text.drop whole).head? = some '.' ∧ 0 < fraction then whole + 1 + fraction else whole

theorem numeralLength_append {whole after : List Char} (digits : Numeral.Digits whole)
    (ends : Numeral.EndsDigits after) :
    numeralLength (whole ++ after) =
      if after.head? = some '.' ∧ (after.drop 1).takeWhile Char.isDigit ≠ [] then
        whole.length + 1 + ((after.drop 1).takeWhile Char.isDigit).length
      else whole.length := by
  obtain ⟨taken, -⟩ := Decimal.takeWhile_append_of_ends digits.2 ends
  have point : (whole ++ after).drop whole.length = after := List.drop_left
  have further : (whole ++ after).drop (whole.length + 1) = after.drop 1 := by
    rw [← List.drop_drop, point]
  simp only [numeralLength, taken, point, further, List.length_pos_iff]

/-- Where a number begins, what it takes from the text is plain and spells it. -/
theorem readNumber_cons {c : Char} (digit : c.isDigit = true) (text : List Char) :
    ∃ numeral rest x, c :: text = numeral ++ rest ∧ numeralLength (c :: text) = numeral.length ∧
      Decimal.IsPlain numeral ∧ Decimal.float? numeral = some x ∧
      readNumber (c :: text) = (.literal (.number x), rest) := by
  obtain ⟨whole, after, split, digits, ends⟩ : ∃ whole after, c :: text = whole ++ after ∧
      Numeral.Digits whole ∧ Numeral.EndsDigits after := by
    refine ⟨_, _, List.takeWhile_append_dropWhile.symm, ⟨?_, List.all_eq_true.1 List.all_takeWhile⟩,
      head_dropWhile (c :: text)⟩
    simp [digit]
  obtain ⟨taken, dropped⟩ := Decimal.takeWhile_append_of_ends digits.2 ends
  rw [split, numeralLength_append digits ends]
  simp only [readNumber, taken, dropped]
  by_cases pointed : after.head? = some '.' ∧ (after.drop 1).takeWhile Char.isDigit ≠ []
  · rw [if_pos pointed, if_pos pointed]
    obtain ⟨tail, rfl⟩ := List.head?_eq_some_iff.1 pointed.1
    have fractionDigits : Numeral.Digits (tail.takeWhile Char.isDigit) :=
      ⟨pointed.2, List.all_eq_true.1 List.all_takeWhile⟩
    refine ⟨whole ++ '.' :: tail.takeWhile Char.isDigit, tail.dropWhile Char.isDigit, _, ?_, ?_,
      .inr ⟨_, _, digits, fractionDigits, rfl⟩, Decimal.float?_point digits fractionDigits, rfl⟩
    · rw [List.append_assoc, List.cons_append, List.takeWhile_append_dropWhile]
    · rw [List.length_append, List.length_cons, List.drop_one, List.tail_cons]
      omega
  · rw [if_neg pointed, if_neg pointed]
    exact ⟨whole, after, _, rfl, rfl, .inl digits, Decimal.float?_digits digits, rfl⟩

theorem scan_number {text : List Char} {x : Float} (plain : Decimal.IsPlain text)
    (spelled : Decimal.float? text = some x) :
    scan text = ([.literal (.number x)], []) := by
  have read : readNumber text = (.literal (.number x), []) := by
    rcases plain with digits | ⟨whole, fraction, wholeDigits, fractionDigits, rfl⟩
    · obtain ⟨taken, dropped⟩ := Decimal.takeWhile_of_digits digits
      rw [Decimal.float?_digits digits] at spelled
      simp [readNumber, taken, dropped, Option.some.inj spelled]
    · obtain ⟨taken, dropped⟩ := Decimal.takeWhile_of_point wholeDigits.2 fraction
      obtain ⟨takenAfter, droppedAfter⟩ := Decimal.takeWhile_of_digits fractionDigits
      rw [Decimal.float?_point wholeDigits fractionDigits] at spelled
      simp [readNumber, taken, dropped, takenAfter, droppedAfter, fractionDigits.1,
        Option.some.inj spelled]
  obtain ⟨c, rest, rfl, digit⟩ := plain.exists_cons
  have notBlank : isBlank c = false := isBlank_of_isWordPart (isWordPart_of_isDigit digit)
  apply scan_single (by simp [notBlank])
  rw [read?_of_plain (.inr digit), if_neg (by simp [isWordStart_of_isDigit digit]), read]

theorem scan_literal {literal : Literal} (plain : literal.Plain) :
    scan literal.display.toList = ([.literal literal], []) := by
  cases literal with
  | text s =>
    have shown : (Literal.text s).display.toList = '"' :: (s.toList ++ ['"']) := by
      simp [Literal.display]
    rw [shown, scan_quoted plain.1 plain.2.1 plain.2.2]
  | number x => exact scan_number plain.1 plain.2

theorem scan_symbol (op : Operator) : scan op.symbol.toList = ([.operator op], []) := by
  cases op with
  | comparison op => exact scan_comparison_symbol op
  | connective op => exact scan_connective_symbol op

/-- A blank keeps the tokens of two texts apart. -/
theorem scan_append_blank {text more : List Char} {tokens others : List Token}
    (first : scan text = (tokens, [])) (second : scan more = (others, [])) :
    scan (text ++ ' ' :: more) = (tokens ++ others, []) := by
  have ends : ∀ c ∈ (' ' :: more).head?, endsTokens c = true := by
    rintro c ⟨⟩
    decide
  rw [scan_append_of_ends first ends, scan_blank (by decide), second]

/-- An operation in parentheses is scanned to its two sides and its operator, in parentheses. -/
theorem scan_operation {left right : List Char} {tokens others : List Token} (op : Operator)
    (first : scan left = (tokens, [])) (second : scan right = (others, [])) :
    scan ('(' :: (left ++ ' ' :: (op.symbol.toList ++ ' ' :: (right ++ [')'])))) =
      (.openParen :: (tokens ++ .operator op :: (others ++ [.closeParen])), []) := by
  have closed : scan (right ++ [')']) = (others ++ [.closeParen], []) := by
    rw [scan_append second, scan_nil]
  have sides := scan_append_blank first (scan_append_blank (scan_symbol op) closed)
  rw [scan_openParen, sides]
  rfl

end Token

end DocumentStore
