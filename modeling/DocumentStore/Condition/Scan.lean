import DocumentStore.Condition.Error
import DocumentStore.Text.Blank
import DocumentStore.Text.Utf16

/-!
# Scanning conditions

The text of a condition is cut into tokens, with blanks between them. At each point the longest
operator is tried first, then parentheses, texts in quotes, words and numbers. Strict scanning
refuses a character at which no token begins; permissive scanning passes over it.
-/

namespace DocumentStore.Token

/-- A word is a connective in any letter case, or else a field name. -/
def ofWord (word : List Char) : Token :=
  match Connective.ofWord? word with
  | some connective => .operator (.connective connective)
  | none => .name (String.ofList word)

/-- The characters at which a text in quotes ends: the quote, or the end of the line. -/
def endsQuoted (c : Char) : Bool := c == '"' || c == '\n' || c == '\r'

/-- Reads a text up to its closing quote, which must stand on the same line. -/
def readQuoted? (text : List Char) : Option (Token × List Char) :=
  match text.dropWhile (fun c => !endsQuoted c) with
  | '"' :: rest =>
    some (.literal (.text (String.ofList (text.takeWhile fun c => !endsQuoted c))), rest)
  | _ => none

/-- Reads a word from the front of a text. -/
def readWord (text : List Char) : Token × List Char :=
  (ofWord (text.takeWhile Text.isWordPart), text.dropWhile Text.isWordPart)

/-- Reads digits from the front of a text, with a point if digits follow it as well. No reader of
numbers refuses these characters (`readNumber_eq_checked`), so there is no error for them. -/
def readNumber (text : List Char) : Token × List Char :=
  let whole := text.takeWhile Char.isDigit
  let rest := text.dropWhile Char.isDigit
  let fraction := (rest.drop 1).takeWhile Char.isDigit
  if rest.head? = some '.' ∧ fraction ≠ [] then
    (.literal (.number (Decimal.ofParts whole fraction 0).toFloat),
      (rest.drop 1).dropWhile Char.isDigit)
  else (.literal (.number (Decimal.ofParts whole [] 0).toFloat), rest)

/-- Reads one token from the front of a text, if a token begins there. -/
def read? : List Char → Option (Token × List Char)
  | '!' :: '=' :: rest => some (.operator (.comparison .ne), rest)
  | '>' :: '=' :: rest => some (.operator (.comparison .ge), rest)
  | '<' :: '=' :: rest => some (.operator (.comparison .le), rest)
  | '=' :: rest => some (.operator (.comparison .eq), rest)
  | '>' :: rest => some (.operator (.comparison .gt), rest)
  | '<' :: rest => some (.operator (.comparison .lt), rest)
  | '(' :: rest => some (.openParen, rest)
  | ')' :: rest => some (.closeParen, rest)
  | '"' :: rest => readQuoted? rest
  | c :: rest =>
    if Text.isWordStart c then some (readWord (c :: rest))
    else if c.isDigit then some (readNumber (c :: rest))
    else none
  | [] => none

theorem length_dropWhile_le (p : Char → Bool) (text : List Char) :
    (text.dropWhile p).length ≤ text.length := by
  have whole := congrArg List.length (List.takeWhile_append_dropWhile (p := p) (l := text))
  rw [List.length_append] at whole
  omega

theorem length_dropWhile_lt {p : Char → Bool} {c : Char} (h : p c) (text : List Char) :
    ((c :: text).dropWhile p).length < (c :: text).length := by
  have := length_dropWhile_le p text
  simp only [List.dropWhile_cons, h, if_true, List.length_cons]
  omega

theorem length_readQuoted? {text rest : List Char} {token : Token}
    (h : readQuoted? text = some (token, rest)) : rest.length < text.length := by
  unfold readQuoted? at h
  split at h
  · rename_i rest' ends
    have := length_dropWhile_le (fun c => !endsQuoted c) text
    simp only [Option.some.injEq, Prod.mk.injEq] at h
    rw [ends, List.length_cons, h.2] at this
    omega
  · simp at h

theorem length_readNumber {c : Char} (h : c.isDigit) (text : List Char) :
    (readNumber (c :: text)).2.length < (c :: text).length := by
  have whole := length_dropWhile_lt h text
  simp only [readNumber]
  split
  · have := length_dropWhile_le Char.isDigit (((c :: text).dropWhile Char.isDigit).drop 1)
    simp only [List.length_drop] at this ⊢
    omega
  · exact whole

theorem length_read? {text rest : List Char} {token : Token}
    (h : read? text = some (token, rest)) : rest.length < text.length := by
  unfold read? at h
  split at h
  case h_9 =>
    have := length_readQuoted? h
    simp only [List.length_cons]; omega
  case h_10 c text' _ _ _ _ _ _ _ _ _ =>
    split at h
    · rename_i start
      simp only [Option.some.injEq] at h
      have := length_dropWhile_lt (Text.isWordPart_of_isWordStart start) text'
      rw [readWord, Prod.mk.injEq] at h
      rwa [h.2] at this
    · split at h
      · rename_i digit
        simp only [Option.some.injEq] at h
        have := length_readNumber digit text'
        rw [h] at this
        exact this
      · simp at h
  case h_11 => simp at h
  all_goals
    simp only [Option.some.injEq, Prod.mk.injEq] at h
    rw [← h.2]
    simp only [List.length_cons]; omega

/-- Reads tokens until the text ends or a character begins no token; the tokens, and the text from
that character on. -/
def scan (text : List Char) : List Token × List Char :=
  match text with
  | [] => ([], [])
  | c :: rest =>
    if Text.isBlank c then scan rest
    else
      match _h : read? (c :: rest) with
      | none => ([], c :: rest)
      | some (token, rest') =>
        let (tokens, stop) := scan rest'
        (token :: tokens, stop)
termination_by text.length
decreasing_by
  · simp
  · exact length_read? (by assumption)

theorem length_scan_le (text : List Char) : (scan text).2.length ≤ text.length := by
  fun_induction scan text with
  | case1 => simp
  | case2 c rest _ ih => simp only [List.length_cons]; omega
  | case3 => simp
  | case4 c rest _ token rest' h tokens stop scanned ih =>
    have := length_read? h
    rw [scanned] at ih
    simp only at ih ⊢
    omega

/-- The tokens of a text, passing over every character at which no token begins. -/
def scanAll (text : List Char) : List Token :=
  match _h : scan text with
  | (tokens, []) => tokens
  | (tokens, _ :: rest) => tokens ++ scanAll rest
termination_by text.length
decreasing_by
  have := length_scan_le text
  rw [_h] at this
  simp only [List.length_cons] at this
  omega

/-- The tokens of a text, unless a character begins no token. -/
def scanStrict (text : List Char) : Except ConditionError (List Token) :=
  match scan text with
  | (tokens, []) => .ok tokens
  | (_, c :: rest) =>
    .error (.unexpectedCharacter c (Text.byteLength text - Text.byteLength (c :: rest)))

/-- The tokens of a condition under strict or permissive scanning. -/
def ofText (strict : Bool) (text : String) : Except ConditionError (List Token) :=
  if strict then scanStrict text.toList else .ok (scanAll text.toList)

end DocumentStore.Token
