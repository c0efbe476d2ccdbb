import DocumentStore.Proofs.Json.Numeral

/-!
# Numbers in digits

Digits with an optional point among them are read as far as they go. Digits alone, and digits before
and after a point, are the plain texts of numbers: no reader of numbers refuses them.
-/

namespace DocumentStore.Decimal

variable {text whole fraction : List Char}

/-- Digits are told apart from what follows them. -/
theorem takeWhile_append_of_ends (all : ∀ c ∈ whole, c.isDigit = true)
    (ends : Numeral.EndsDigits text) :
    (whole ++ text).takeWhile Char.isDigit = whole ∧
      (whole ++ text).dropWhile Char.isDigit = text := by
  obtain ⟨taken, dropped⟩ := Numeral.takeWhile_isDigit_append ends whole
  rw [List.takeWhile_eq_self_iff.2 all] at taken
  rw [List.dropWhile_eq_nil_iff.2 all, List.nil_append] at dropped
  exact ⟨taken, dropped⟩

theorem takeWhile_of_digits (digits : Numeral.Digits text) :
    text.takeWhile Char.isDigit = text ∧ text.dropWhile Char.isDigit = [] :=
  ⟨List.takeWhile_eq_self_iff.2 digits.2, List.dropWhile_eq_nil_iff.2 digits.2⟩

theorem takeWhile_of_point (all : ∀ c ∈ whole, c.isDigit = true) (fraction : List Char) :
    (whole ++ '.' :: fraction).takeWhile Char.isDigit = whole ∧
      (whole ++ '.' :: fraction).dropWhile Char.isDigit = '.' :: fraction := by
  have ends : Numeral.EndsDigits ('.' :: fraction) := by
    rintro c ⟨⟩
    rfl
  exact takeWhile_append_of_ends all ends

/-- Digits are taken as far as they go. -/
theorem unsigned?_digits (isDigits : Numeral.Digits whole)
    (ends : ∀ c ∈ text.head?, c.isDigit = false ∧ c ≠ '.') :
    unsigned? (whole ++ text) = (exponent? text).map (ofParts whole []) := by
  obtain ⟨taken, dropped⟩ := takeWhile_append_of_ends isDigits.2 fun c first => (ends c first).1
  rw [unsigned?, taken, dropped]
  split
  · rename_i rest point
    exact absurd rfl (ends '.' rfl).2
  · simp [isDigits.1]

/-- Digits are taken up to the point and after it. -/
theorem unsigned?_point (allWhole : ∀ c ∈ whole, c.isDigit = true)
    (allFraction : ∀ c ∈ fraction, c.isDigit = true)
    (ends : ∀ c ∈ text.head?, c.isDigit = false) :
    unsigned? (whole ++ '.' :: (fraction ++ text)) =
      if whole = [] ∧ fraction = [] then none
      else (exponent? text).map (ofParts whole fraction) := by
  obtain ⟨taken, dropped⟩ := takeWhile_of_point allWhole (fraction ++ text)
  obtain ⟨takenAfter, droppedAfter⟩ := takeWhile_append_of_ends allFraction ends
  rw [unsigned?, taken, dropped]
  simp [takenAfter, droppedAfter]

/-- Digits, or digits before and after a point. -/
def IsPlain (text : List Char) : Prop :=
  Numeral.Digits text ∨ ∃ whole fraction, Numeral.Digits whole ∧ Numeral.Digits fraction ∧
    text = whole ++ '.' :: fraction

theorem exists_cons_of_digits (digits : Numeral.Digits text) :
    ∃ c rest, text = c :: rest ∧ c.isDigit = true := by
  cases text with
  | nil => exact absurd rfl digits.1
  | cons c rest => exact ⟨c, rest, rfl, digits.2 c List.mem_cons_self⟩

theorem IsPlain.exists_cons (plain : IsPlain text) :
    ∃ c rest, text = c :: rest ∧ c.isDigit = true := by
  rcases plain with digits | ⟨whole, fraction, wholeDigits, -, rfl⟩
  · exact exists_cons_of_digits digits
  · obtain ⟨c, rest, rfl, digit⟩ := exists_cons_of_digits wholeDigits
    exact ⟨c, rest ++ '.' :: fraction, rfl, digit⟩

theorem float?_of_isDigit {c : Char} (digit : c.isDigit = true) (rest : List Char) :
    float? (c :: rest) = (unsigned? (c :: rest)).map toFloat := by
  have notMinus : ∀ more, c :: rest = '-' :: more → False := by
    rintro more ⟨⟩
    exact absurd digit (by decide)
  have notPlus : ∀ more, c :: rest = '+' :: more → False := by
    rintro more ⟨⟩
    exact absurd digit (by decide)
  rw [float?.eq_3 _ notMinus notPlus]

theorem float?_digits (digits : Numeral.Digits text) :
    float? text = some (ofParts text [] 0).toFloat := by
  obtain ⟨c, rest, rfl, digit⟩ := exists_cons_of_digits digits
  have read := @unsigned?_digits [] (c :: rest) digits (by simp)
  rw [List.append_nil] at read
  rw [float?_of_isDigit digit, read]
  rfl

theorem float?_point (wholeDigits : Numeral.Digits whole)
    (fractionDigits : Numeral.Digits fraction) :
    float? (whole ++ '.' :: fraction) = some (ofParts whole fraction 0).toFloat := by
  obtain ⟨c, rest, rfl, digit⟩ := exists_cons_of_digits wholeDigits
  have read := @unsigned?_point [] (c :: rest) fraction wholeDigits.2 fractionDigits.2 (by simp)
  rw [List.append_nil, if_neg fun none => wholeDigits.1 none.1, List.cons_append] at read
  rw [List.cons_append, float?_of_isDigit digit, read]
  rfl

end DocumentStore.Decimal
