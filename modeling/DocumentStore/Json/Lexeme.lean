import DocumentStore.Json.Numeral

/-!
# Lexemes of JSON texts

A JSON text is cut into marks, words, numerals and strings, with space, tab, line feed and
carriage return between them. Two kinds of lexeme are well formed and yet stand for nothing: a
numeral that is too large, and a string with a surrogate that is not half of a pair.
-/

namespace DocumentStore.Json

/-- A mark, word, numeral or string of a JSON text. -/
inductive Lexeme
  | openArray
  | closeArray
  | openObject
  | closeObject
  | comma
  | colon
  | null
  | bool (b : Bool)
  /-- A numeral, without a number if that is too large. -/
  | number (n? : Option Number)
  /-- A string, without a text if it has a lone surrogate. -/
  | string (s? : Option String)
deriving DecidableEq

namespace Lexeme

/-- A character of a string, or a code unit that is written as four hexadecimal digits. -/
inductive Piece
  | char (c : Char)
  | unit (n : Nat)
deriving DecidableEq, Repr

/-- The value of a hexadecimal digit in either case. -/
def hexValue? (c : Char) : Option Nat :=
  if c.isDigit then some (c.toNat - '0'.toNat)
  else if 'a' ≤ c ∧ c ≤ 'f' then some (c.toNat - 'a'.toNat + 10)
  else if 'A' ≤ c ∧ c ≤ 'F' then some (c.toNat - 'A'.toNat + 10)
  else none

/-- The value of four hexadecimal digits. -/
def hexUnit? (a b c d : Char) : Option Nat := do
  return (((← hexValue? a) * 16 + (← hexValue? b)) * 16 + (← hexValue? c)) * 16 + (← hexValue? d)

/-- The character for which a backslash and a single letter or mark stand. -/
def escaped? : Char → Option Char
  | '"' => some '"'
  | '\\' => some '\\'
  | '/' => some '/'
  | 'b' => some '\x08'
  | 'f' => some '\x0c'
  | 'n' => some '\n'
  | 'r' => some '\r'
  | 't' => some '\t'
  | _ => none

/-- Reads the pieces of a string up to its closing quote. Control characters must be escaped. -/
def pieces? : List Char → Option (List Piece × List Char)
  | '"' :: rest => some ([], rest)
  | '\\' :: 'u' :: a :: b :: c :: d :: rest => do
    let n ← hexUnit? a b c d
    let (pieces, rest) ← pieces? rest
    return (.unit n :: pieces, rest)
  | '\\' :: c :: rest => do
    let c ← escaped? c
    let (pieces, rest) ← pieces? rest
    return (.char c :: pieces, rest)
  | c :: rest =>
    if c.toNat < 0x20 then none
    else do
      let (pieces, rest) ← pieces? rest
      return (.char c :: pieces, rest)
  | [] => none

/-- The first half of a surrogate pair. -/
def isHigh (n : Nat) : Bool := 0xD800 ≤ n && n < 0xDC00

/-- The second half of a surrogate pair. -/
def isLow (n : Nat) : Bool := 0xDC00 ≤ n && n < 0xE000

/-- The text of pieces in which every surrogate is half of a pair. -/
def join? : List Piece → Option (List Char)
  | [] => some []
  | .char c :: rest => (join? rest).map (c :: ·)
  | .unit high :: .unit low :: rest =>
    if isHigh high && isLow low then
      (join? rest).map (Char.ofNat (0x10000 + (high - 0xD800) * 0x400 + (low - 0xDC00)) :: ·)
    else if isHigh high || isLow high then none
    else (join? (.unit low :: rest)).map (Char.ofNat high :: ·)
  | .unit n :: rest =>
    if isHigh n || isLow n then none else (join? rest).map (Char.ofNat n :: ·)

/-- The four characters that may stand between lexemes. -/
def isSpace (c : Char) : Bool := c == ' ' || c == '\t' || c == '\n' || c == '\r'

/-- Reads one lexeme from the front of a text that does not begin with a space. -/
def read? : List Char → Option (Lexeme × List Char)
  | '[' :: rest => some (.openArray, rest)
  | ']' :: rest => some (.closeArray, rest)
  | '{' :: rest => some (.openObject, rest)
  | '}' :: rest => some (.closeObject, rest)
  | ',' :: rest => some (.comma, rest)
  | ':' :: rest => some (.colon, rest)
  | 'n' :: 'u' :: 'l' :: 'l' :: rest => some (.null, rest)
  | 't' :: 'r' :: 'u' :: 'e' :: rest => some (.bool true, rest)
  | 'f' :: 'a' :: 'l' :: 's' :: 'e' :: rest => some (.bool false, rest)
  | '"' :: rest =>
    (pieces? rest).map fun (pieces, rest) => (.string ((join? pieces).map String.ofList), rest)
  | text => (Numeral.read? text).map fun (numeral, rest) => (.number numeral.number?, rest)

theorem length_pieces? {text rest : List Char} {pieces : List Piece}
    (h : pieces? text = some (pieces, rest)) : rest.length < text.length := by
  fun_induction pieces? text generalizing pieces with
  | case1 => simp_all
  | case2 a b c d text ih =>
    simp only [Option.bind_eq_bind, Option.bind_eq_some_iff, Option.pure_def, Option.some.injEq,
      Prod.mk.injEq, Prod.exists] at h
    obtain ⟨n, _, pieces', rest', h', _, rfl⟩ := h
    have := ih h'
    simp only [List.length_cons]; omega
  | case3 c text _ ih =>
    simp only [Option.bind_eq_bind, Option.bind_eq_some_iff, Option.pure_def, Option.some.injEq,
      Prod.mk.injEq, Prod.exists] at h
    obtain ⟨n, _, pieces', rest', h', _, rfl⟩ := h
    have := ih h'
    simp only [List.length_cons]; omega
  | case4 => simp at h
  | case5 c text _ _ _ _ ih =>
    simp only [Option.bind_eq_bind, Option.bind_eq_some_iff, Option.pure_def, Option.some.injEq,
      Prod.mk.injEq, Prod.exists] at h
    obtain ⟨pieces', rest', h', _, rfl⟩ := h
    have := ih h'
    simp only [List.length_cons]; omega
  | case6 => simp at h

theorem length_read? {text rest : List Char} {lexeme : Lexeme}
    (h : read? text = some (lexeme, rest)) : rest.length < text.length := by
  unfold read? at h
  split at h
  case h_10 =>
    obtain ⟨⟨pieces, rest'⟩, h', h⟩ := Option.map_eq_some_iff.1 h
    simp only [Prod.mk.injEq] at h
    obtain ⟨_, rfl⟩ := h
    have := length_pieces? h'
    simp only [List.length_cons]; omega
  case h_11 =>
    obtain ⟨⟨numeral, rest'⟩, h', h⟩ := Option.map_eq_some_iff.1 h
    simp only [Prod.mk.injEq] at h
    obtain ⟨_, rfl⟩ := h
    exact Numeral.length_read? h'
  all_goals
    simp only [Option.some.injEq, Prod.mk.injEq] at h
    obtain ⟨_, rfl⟩ := h
    simp only [List.length_cons]; omega

/-- Cuts a whole text into lexemes. -/
def readAll? (text : List Char) : Option (List Lexeme) :=
  match text with
  | [] => some []
  | c :: rest =>
    if isSpace c then readAll? rest
    else
      match _h : read? (c :: rest) with
      | none => none
      | some (lexeme, rest') => (readAll? rest').map (lexeme :: ·)
termination_by text.length
decreasing_by
  · simp
  · exact length_read? (by assumption)

end Lexeme

end DocumentStore.Json
