import DocumentStore.Json.Lexeme
import DocumentStore.Json.Writing
import DocumentStore.Proofs.Json.Numeral

/-!
# Lexemes that are written

Every part of a written text is cut into the lexemes that it was written for, whatever text follows:
strings by their pieces, one for each character, marks and words at once, and space is passed over.
-/

namespace DocumentStore.Json.Lexeme

theorem hexUnit?_hexDigit :
    ∀ n < 0x20, hexUnit? '0' '0' (hexDigit (n / 16)) (hexDigit (n % 16)) = some n := by
  decide

/-- The three ways in which a character is written: as a letter or mark after a backslash, as a
code unit, or as it is. -/
theorem writeChar_cases (c : Char) :
    (∃ mark, writeChar c = ['\\', mark] ∧ mark ≠ 'u' ∧ escaped? mark = some c) ∨
    (c.toNat < 0x20 ∧ writeChar c =
      ['\\', 'u', '0', '0', hexDigit (c.toNat / 16), hexDigit (c.toNat % 16)]) ∨
    (c ≠ '"' ∧ c ≠ '\\' ∧ ¬ c.toNat < 0x20 ∧ writeChar c = [c]) := by
  by_cases quote : c = '"'
  · exact .inl ⟨'"', by subst quote; exact ⟨rfl, by decide, rfl⟩⟩
  by_cases backslash : c = '\\'
  · exact .inl ⟨'\\', by subst backslash; exact ⟨rfl, by decide, rfl⟩⟩
  by_cases backspace : c = '\x08'
  · exact .inl ⟨'b', by subst backspace; exact ⟨rfl, by decide, rfl⟩⟩
  by_cases formFeed : c = '\x0c'
  · exact .inl ⟨'f', by subst formFeed; exact ⟨rfl, by decide, rfl⟩⟩
  by_cases lineFeed : c = '\n'
  · exact .inl ⟨'n', by subst lineFeed; exact ⟨rfl, by decide, rfl⟩⟩
  by_cases carriageReturn : c = '\r'
  · exact .inl ⟨'r', by subst carriageReturn; exact ⟨rfl, by decide, rfl⟩⟩
  by_cases tab : c = '\t'
  · exact .inl ⟨'t', by subst tab; exact ⟨rfl, by decide, rfl⟩⟩
  by_cases control : c.toNat < 0x20
  · exact .inr (.inl ⟨control, by simp [writeChar, *]⟩)
  · exact .inr (.inr ⟨quote, backslash, control, by simp [writeChar, *]⟩)

theorem pieces?_escaped {mark c : Char} (notUnit : mark ≠ 'u') (stands : escaped? mark = some c)
    (rest : List Char) :
    pieces? ('\\' :: mark :: rest) =
      (pieces? rest).map fun (pieces, rest) => (.char c :: pieces, rest) := by
  rw [pieces?]
  · cases pieces? rest <;> simp [stands]
  · intro a b c' d rest' same _
    exact notUnit same

theorem pieces?_unit {n : Nat} (small : n < 0x20) (rest : List Char) :
    pieces? ('\\' :: 'u' :: '0' :: '0' :: hexDigit (n / 16) :: hexDigit (n % 16) :: rest) =
      (pieces? rest).map fun (pieces, rest) => (.unit n :: pieces, rest) := by
  rw [pieces?, hexUnit?_hexDigit n small]
  cases pieces? rest <;> rfl

theorem pieces?_plain {c : Char} (notQuote : c ≠ '"') (notBackslash : c ≠ '\\')
    (notControl : ¬ c.toNat < 0x20) (rest : List Char) :
    pieces? (c :: rest) = (pieces? rest).map fun (pieces, rest) => (.char c :: pieces, rest) := by
  rw [pieces?]
  · rw [if_neg notControl]
    cases pieces? rest <;> rfl
  · exact fun same => notQuote same
  · exact fun _ _ _ _ _ same _ => notBackslash same
  · exact fun _ _ same _ => notBackslash same

/-- A code unit that belongs to no surrogate pair stands for a character of its own. -/
theorem join?_unit {n : Nat} (small : n < 0x20) (rest : List Piece) :
    join? (.unit n :: rest) = (join? rest).map (Char.ofNat n :: ·) := by
  have notHigh : isHigh n = false := by simp [isHigh]; omega
  have notLow : isLow n = false := by simp [isLow]; omega
  cases rest with
  | nil => simp [join?, notHigh, notLow]
  | cons piece rest => cases piece <;> simp [join?, notHigh, notLow]

/-- The pieces that are read from the characters of a string join to it again. -/
theorem pieces?_flatMap_writeChar (text next : List Char) :
    ∃ pieces, pieces? (text.flatMap writeChar ++ '"' :: next) = some (pieces, next) ∧
      join? pieces = some text := by
  induction text with
  | nil => exact ⟨[], rfl, rfl⟩
  | cons c text ih =>
    obtain ⟨pieces, read, joined⟩ := ih
    rw [List.flatMap_cons, List.append_assoc]
    obtain ⟨mark, written, notUnit, stands⟩ | ⟨control, written⟩ |
      ⟨notQuote, notBackslash, notControl, written⟩ := writeChar_cases c
    · refine ⟨.char c :: pieces, ?_, by rw [join?, joined]; rfl⟩
      rw [written, List.cons_append, List.cons_append, List.nil_append,
        pieces?_escaped notUnit stands, read]
      rfl
    · refine ⟨.unit c.toNat :: pieces, ?_, ?_⟩
      · rw [written]
        simp only [List.cons_append, List.nil_append]
        rw [pieces?_unit control, read]
        rfl
      · rw [join?_unit control, joined, Char.ofNat_toNat]
        rfl
    · refine ⟨.char c :: pieces, ?_, by rw [join?, joined]; rfl⟩
      rw [written, List.cons_append, List.nil_append,
        pieces?_plain notQuote notBackslash notControl, read]
      rfl

theorem readAll?_space {c : Char} (space : isSpace c = true) (next : List Char) :
    readAll? (c :: next) = readAll? next := by
  rw [readAll?, if_pos space]

theorem readAll?_lexeme {c : Char} {text rest : List Char} {lexeme : Lexeme}
    (notSpace : isSpace c = false) (read : read? (c :: text) = some (lexeme, rest)) :
    readAll? (c :: text) = (readAll? rest).map (lexeme :: ·) := by
  rw [readAll?, if_neg (by simp [notSpace])]
  split
  · rename_i missing
    rw [read] at missing
    cases missing
  · rename_i found
    rw [read] at found
    cases found
    rfl

theorem readAll?_newLine (level : Nat) (next : List Char) :
    readAll? (newLine level ++ next) = readAll? next := by
  rw [newLine, List.cons_append, readAll?_space rfl]
  induction 2 * level with
  | zero => rfl
  | succ n ih =>
    rw [List.replicate_succ, List.cons_append, readAll?_space rfl]
    exact ih

theorem readAll?_writeString (s : String) (next : List Char) :
    readAll? (writeString s ++ next) = (readAll? next).map (.string (some s) :: ·) := by
  obtain ⟨pieces, read, joined⟩ := pieces?_flatMap_writeChar s.toList next
  rw [writeString, List.cons_append, List.append_assoc]
  refine readAll?_lexeme rfl ?_
  rw [read?, List.singleton_append, read]
  simp [joined]

theorem readAll?_nullWord (next : List Char) :
    readAll? (nullWord ++ next) = (readAll? next).map (.null :: ·) :=
  readAll?_lexeme rfl rfl

theorem readAll?_boolWord (b : Bool) (next : List Char) :
    readAll? (boolWord b ++ next) = (readAll? next).map (.bool b :: ·) := by
  cases b <;> exact readAll?_lexeme rfl rfl

theorem isSpace_of_begins {c : Char} (begins : c = '-' ∨ c.isDigit = true) :
    isSpace c = false := by
  by_cases space : isSpace c = true
  · simp only [isSpace, Bool.or_eq_true, beq_iff_eq] at space
    rcases space with ((rfl | rfl) | rfl) | rfl <;> exact absurd begins (by decide)
  · simpa using space

theorem read?_of_begins {c : Char} (begins : c = '-' ∨ c.isDigit = true) (text : List Char) :
    read? (c :: text) = (Numeral.read? (c :: text)).map
      fun (numeral, rest) => (.number numeral.number?, rest) := by
  rw [read?]
  -- Nothing else that a lexeme can begin with is a minus sign or a digit.
  all_goals
    intro rest same
    cases same
    revert begins
    decide

theorem numeral_of_read? {text rest : List Char} {n? : Option Number}
    (read : read? text = some (.number n?, rest)) :
    ∃ numeral, Numeral.read? text = some (numeral, rest) ∧ n? = numeral.number? := by
  unfold read? at read
  split at read
  case h_10 =>
    obtain ⟨⟨pieces, rest'⟩, -, same⟩ := Option.map_eq_some_iff.1 read
    cases same
  case h_11 =>
    obtain ⟨⟨numeral, rest'⟩, found, same⟩ := Option.map_eq_some_iff.1 read
    cases same
    exact ⟨numeral, found, rfl⟩
  all_goals cases read

/-- A numeral is read alike before any text that could not belong to it. -/
theorem read?_number_append {text rest next : List Char} {n? : Option Number}
    (ends : Numeral.Ends next) (read : read? text = some (.number n?, rest)) :
    read? (text ++ next) = some (.number n?, rest ++ next) := by
  obtain ⟨numeral, found, rfl⟩ := numeral_of_read? read
  cases text with
  | nil => cases found
  | cons c text =>
    rw [List.cons_append, read?_of_begins (Numeral.begins_of_read? found), ← List.cons_append,
      Numeral.read?_append ends found]
    rfl

theorem readAll?_eq_some {c : Char} {text : List Char} {lexemes : List Lexeme}
    (notSpace : ¬ isSpace c = true) (cut : readAll? (c :: text) = some lexemes) :
    ∃ lexeme rest more, read? (c :: text) = some (lexeme, rest) ∧ readAll? rest = some more ∧
      lexemes = lexeme :: more := by
  rw [readAll?, if_neg notSpace] at cut
  split at cut
  · cases cut
  · rename_i lexeme rest found
    obtain ⟨more, others, same⟩ := Option.map_eq_some_iff.1 cut
    exact ⟨lexeme, rest, more, found, others, same.symm⟩

/-- A text that is nothing but space is passed over. -/
theorem readAll?_append_of_nil {text : List Char} (nothing : readAll? text = some [])
    (next : List Char) : readAll? (text ++ next) = readAll? next := by
  induction text with
  | nil => rfl
  | cons c text ih =>
    by_cases space : isSpace c = true
    · rw [readAll?_space space] at nothing
      rw [List.cons_append, readAll?_space space, ih nothing]
    · obtain ⟨lexeme, rest, more, -, -, same⟩ := readAll?_eq_some space nothing
      cases same

/-- A text that is cut into one lexeme is cut alike before any text that leaves the lexeme as it
is. -/
theorem readAll?_append_of_single {text next : List Char} {lexeme : Lexeme}
    (stays : ∀ text rest, read? text = some (lexeme, rest) →
      read? (text ++ next) = some (lexeme, rest ++ next))
    (cut : readAll? text = some [lexeme]) :
    readAll? (text ++ next) = (readAll? next).map (lexeme :: ·) := by
  induction text with
  | nil =>
    rw [readAll?] at cut
    cases cut
  | cons c text ih =>
    by_cases space : isSpace c = true
    · rw [readAll?_space space] at cut
      rw [List.cons_append, readAll?_space space, ih cut]
    · obtain ⟨first, rest, more, found, nothing, same⟩ := readAll?_eq_some space cut
      cases same
      have read := stays _ _ found
      rw [List.cons_append] at read ⊢
      rw [readAll?_lexeme (by simpa using space) read, readAll?_append_of_nil nothing]

/-- A text that is cut into one numeral is cut alike before any text that could not belong to it. -/
theorem readAll?_number_append {text next : List Char} {n? : Option Number}
    (ends : Numeral.Ends next) (cut : readAll? text = some [.number n?]) :
    readAll? (text ++ next) = (readAll? next).map (.number n? :: ·) :=
  readAll?_append_of_single (fun _ _ read => read?_number_append ends read) cut

theorem eq_nullWord_of_read? {text rest : List Char} (read : read? text = some (.null, rest)) :
    text = nullWord ++ rest := by
  unfold read? at read
  split at read
  case h_7 =>
    cases read
    rfl
  case h_10 | h_11 =>
    obtain ⟨_, -, same⟩ := Option.map_eq_some_iff.1 read
    cases same
  all_goals cases read

theorem readAll?_null_append {text : List Char} (cut : readAll? text = some [.null])
    (next : List Char) : readAll? (text ++ next) = (readAll? next).map (.null :: ·) := by
  refine readAll?_append_of_single (fun text rest read => ?_) cut
  rw [eq_nullWord_of_read? read, List.append_assoc]
  rfl

theorem readAll?_of_numeral {text : List Char} {numeral : Numeral}
    (found : Numeral.read? text = some (numeral, [])) :
    readAll? text = some [.number numeral.number?] := by
  cases text with
  | nil => cases found
  | cons c text =>
    have begins := Numeral.begins_of_read? found
    have read : read? (c :: text) = some (.number numeral.number?, []) := by
      rw [read?_of_begins begins, found]
      rfl
    rw [readAll?_lexeme (isSpace_of_begins begins) read, readAll?]
    rfl

theorem readAll?_integer {n : Int} (low : -0x8000000000000000 ≤ n)
    (high : n < 0x10000000000000000) :
    readAll? (writeNumber (.integer n)) = some [.number (some (.integer n))] := by
  obtain ⟨numeral, found, stands⟩ := Numeral.read?_writeNumber_integer low high
  rw [readAll?_of_numeral found, stands]

end DocumentStore.Json.Lexeme
