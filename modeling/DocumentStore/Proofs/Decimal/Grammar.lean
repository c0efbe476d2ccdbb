import DocumentStore.Proofs.Decimal.Digits
import DocumentStore.Proofs.Text.Words
import Mathlib.Computability.RegularExpressions

/-!
# The grammar of decimal numbers

The texts that are read as decimal numbers are the words of a regular expression: an optional sign,
digits with a point anywhere among them or none, and an optional exponent. A reader that goes from
left to right and takes as many digits as there are accepts exactly these words, for no digit, sign,
point or mark of an exponent can be taken for one of the others.
-/

namespace DocumentStore.Decimal

namespace Grammar

open RegularExpression (char star)

/-- One of several characters. -/
def oneOf (chars : List Char) : RegularExpression Char := (chars.map char).foldr (· + ·) 0

/-- What may be left out. -/
def optional (r : RegularExpression Char) : RegularExpression Char := 1 + r

/-- A digit. -/
def digit : RegularExpression Char := oneOf "0123456789".toList

/-- One digit or more. -/
def digits : RegularExpression Char := digit * star digit

/-- A sign that may be left out. -/
def sign : RegularExpression Char := optional (oneOf ['+', '-'])

/-- Digits and perhaps a point after or between them, or a point and digits. -/
def significand : RegularExpression Char :=
  digits * optional (char '.' * star digit) + char '.' * digits

/-- The power of ten, which may be left out. -/
def power : RegularExpression Char := optional (oneOf ['e', 'E'] * (sign * digits))

/-- A number without a sign. -/
def unsigned : RegularExpression Char := significand * power

/-- A number. -/
def number : RegularExpression Char := sign * unsigned

/-! ## Words -/

variable {r : RegularExpression Char} {text : List Char}

theorem mem_oneOf {chars : List Char} :
    text ∈ (oneOf chars).matches' ↔ ∃ c ∈ chars, text = [c] := by
  induction chars with
  | nil => simp [oneOf, Language.notMem_zero]
  | cons c rest ih =>
    have split : text ∈ (oneOf (c :: rest)).matches' ↔
        text = [c] ∨ text ∈ (oneOf rest).matches' := Language.mem_add ..
    rw [split, ih, List.exists_mem_cons_iff]

theorem mem_optional : text ∈ (optional r).matches' ↔ text = [] ∨ text ∈ r.matches' :=
  (Language.mem_add ..).trans (or_congr_left (Language.mem_one _))

theorem mem_char_mul {c : Char} : text ∈ (char c * r).matches' ↔
    ∃ rest ∈ r.matches', text = c :: rest := by
  rw [RegularExpression.matches'_mul, Language.mem_mul]
  constructor
  · rintro ⟨first, rfl, rest, inside, rfl⟩
    exact ⟨rest, inside, rfl⟩
  · rintro ⟨rest, inside, rfl⟩
    exact ⟨[c], rfl, rest, inside, rfl⟩

theorem isDigit_iff {c : Char} : c.isDigit = true ↔ c ∈ "0123456789".toList := by
  constructor
  · intro isDigit
    have bounds := Text.toNat_of_isDigit isDigit
    have all : ∀ n < 10, Char.ofNat (48 + n) ∈ "0123456789".toList := by decide
    have same : 48 + (c.toNat - 48) = c.toNat := by omega
    rw [← Char.ofNat_toNat c, ← same]
    exact all (c.toNat - 48) (by omega)
  · intro inside
    have all : "0123456789".toList.all Char.isDigit = true := by decide
    exact List.all_eq_true.1 all c inside

theorem mem_digit : text ∈ digit.matches' ↔ ∃ c, c.isDigit = true ∧ text = [c] := by
  simp only [digit, mem_oneOf, isDigit_iff]

theorem mem_star_digit : text ∈ (star digit).matches' ↔ ∀ c ∈ text, c.isDigit = true := by
  rw [RegularExpression.matches'_star, Language.mem_kstar]
  constructor
  · rintro ⟨parts, rfl, all⟩ c inside
    obtain ⟨part, among, inside⟩ := List.mem_flatten.1 inside
    obtain ⟨d, isDigit, rfl⟩ := mem_digit.1 (all part among)
    rwa [List.mem_singleton.1 inside]
  · intro all
    refine ⟨text.map fun c => [c], by simp [← List.flatMap_def], ?_⟩
    intro part among
    obtain ⟨c, inside, rfl⟩ := List.mem_map.1 among
    exact mem_digit.2 ⟨c, all c inside, rfl⟩

theorem mem_digits : text ∈ digits.matches' ↔ Numeral.Digits text := by
  rw [digits, RegularExpression.matches'_mul, Language.mem_mul]
  constructor
  · rintro ⟨first, inside, rest, more, rfl⟩
    obtain ⟨c, isDigit, rfl⟩ := mem_digit.1 inside
    exact ⟨nofun, List.forall_mem_cons.2 ⟨isDigit, mem_star_digit.1 more⟩⟩
  · intro isDigits
    obtain ⟨c, rest, rfl⟩ := List.exists_cons_of_ne_nil isDigits.1
    obtain ⟨first, others⟩ := List.forall_mem_cons.1 isDigits.2
    exact ⟨[c], mem_digit.2 ⟨c, first, rfl⟩, rest, mem_star_digit.2 others, rfl⟩

/-- The characters that occur in an expression. -/
def symbols : RegularExpression Char → List Char
  | .zero | .epsilon => []
  | .char c => [c]
  | .plus r s | .comp r s => symbols r ++ symbols s
  | .star r => symbols r

/-- A word has no other characters than its expression. -/
theorem mem_symbols (inside : text ∈ r.matches') : ∀ c ∈ text, c ∈ symbols r := by
  induction r generalizing text with
  | zero => cases inside
  | epsilon =>
    cases inside
    exact nofun
  | char c =>
    cases inside
    exact fun _ => id
  | plus r s ihLeft ihRight =>
    obtain inside | inside := inside
    · exact fun c among => List.mem_append_left _ (ihLeft inside c among)
    · exact fun c among => List.mem_append_right _ (ihRight inside c among)
  | comp r s ihLeft ihRight =>
    obtain ⟨front, first, back, more, rfl⟩ := Language.mem_mul.1 inside
    intro c among
    obtain among | among := List.mem_append.1 among
    · exact List.mem_append_left _ (ihLeft first c among)
    · exact List.mem_append_right _ (ihRight more c among)
  | star r ih =>
    obtain ⟨parts, rfl, all⟩ := Language.mem_kstar.1 inside
    intro c among
    obtain ⟨part, member, among⟩ := List.mem_flatten.1 among
    exact ih (all part member) c among

/-- A text without the sign in front of it. -/
def withoutSign : List Char → List Char
  | '-' :: rest => rest
  | '+' :: rest => rest
  | text => text

/-- A sign is a sign, as long as nothing else begins with one. -/
theorem mem_sign_mul (plain : ∀ c rest, c = '+' ∨ c = '-' → c :: rest ∉ r.matches') :
    text ∈ (sign * r).matches' ↔ withoutSign text ∈ r.matches' := by
  rw [RegularExpression.matches'_mul, Language.mem_mul]
  have signed : ∀ c, c = '+' ∨ c = '-' → [c] ∈ sign.matches' := fun c isSign =>
    mem_optional.2 (.inr (mem_oneOf.2 ⟨c, by simpa using isSign, rfl⟩))
  constructor
  · rintro ⟨first, inside, rest, more, rfl⟩
    obtain rfl | inside := mem_optional.1 inside
    · rw [List.nil_append]
      fun_cases withoutSign rest with
      | case1 rest => exact absurd more (plain _ _ (.inr rfl))
      | case2 rest => exact absurd more (plain _ _ (.inl rfl))
      | case3 rest => exact more
    · obtain ⟨c, among, rfl⟩ := mem_oneOf.1 inside
      obtain rfl | rfl : c = '+' ∨ c = '-' := by simpa using among
      · exact more
      · exact more
  · fun_cases withoutSign text with
    | case1 rest => exact fun inside => ⟨['-'], signed _ (.inr rfl), rest, inside, rfl⟩
    | case2 rest => exact fun inside => ⟨['+'], signed _ (.inl rfl), rest, inside, rfl⟩
    | case3 text => exact fun inside => ⟨[], mem_optional.2 (.inl rfl), text, inside, rfl⟩

/-- A power of ten begins with its mark. -/
theorem begins_of_mem_power (inside : text ∈ power.matches') :
    ∀ c ∈ text.head?, c.isDigit = false ∧ c ≠ '.' := by
  obtain rfl | inside := mem_optional.1 inside
  · exact nofun
  · rw [RegularExpression.matches'_mul, Language.mem_mul] at inside
    obtain ⟨first, marks, rest, -, rfl⟩ := inside
    obtain ⟨mark, among, rfl⟩ := mem_oneOf.1 marks
    rintro c ⟨⟩
    obtain rfl | rfl : mark = 'e' ∨ mark = 'E' := by simpa using among
    · decide
    · decide

/-- A significand is digits, perhaps with a point and digits after them, of which there is one at
least. -/
theorem mem_significand : text ∈ significand.matches' ↔
    Numeral.Digits text ∨ ∃ whole fraction, text = whole ++ '.' :: fraction ∧
      (∀ c ∈ whole, c.isDigit = true) ∧ (∀ c ∈ fraction, c.isDigit = true) ∧
      ¬(whole = [] ∧ fraction = []) := by
  have split : text ∈ significand.matches' ↔
      text ∈ (digits * optional (char '.' * star digit)).matches' ∨
        text ∈ (char '.' * digits).matches' := Language.mem_add ..
  rw [split, mem_char_mul, RegularExpression.matches'_mul, Language.mem_mul]
  constructor
  · rintro (⟨whole, isDigits, point, after, rfl⟩ | ⟨fraction, isDigits, rfl⟩)
    · rw [mem_digits] at isDigits
      obtain rfl | after := mem_optional.1 after
      · exact .inl (by rwa [List.append_nil])
      · obtain ⟨fraction, all, rfl⟩ := mem_char_mul.1 after
        exact .inr ⟨whole, fraction, rfl, isDigits.2, mem_star_digit.1 all,
          fun none => isDigits.1 none.1⟩
    · rw [mem_digits] at isDigits
      exact .inr ⟨[], fraction, rfl, nofun, isDigits.2, fun none => isDigits.1 none.2⟩
  · rintro (isDigits | ⟨whole, fraction, rfl, allWhole, allFraction, some⟩)
    · exact .inl ⟨text, mem_digits.2 isDigits, [], mem_optional.2 (.inl rfl), List.append_nil text⟩
    · by_cases none : whole = []
      · subst none
        have notNone : fraction ≠ [] := fun none => some ⟨rfl, none⟩
        exact .inr ⟨fraction, mem_digits.2 ⟨notNone, allFraction⟩, rfl⟩
      · exact .inl ⟨whole, mem_digits.2 ⟨none, allWhole⟩, '.' :: fraction,
          mem_optional.2 (.inr (mem_char_mul.2 ⟨fraction, mem_star_digit.2 allFraction, rfl⟩)), rfl⟩

/-- Every number has a digit. -/
theorem exists_isDigit_of_mem_number (inside : text ∈ number.matches') :
    ∃ c ∈ text, c.isDigit = true := by
  obtain ⟨front, -, back, more, rfl⟩ := Language.mem_mul.1 inside
  obtain ⟨middle, most, after, -, rfl⟩ := Language.mem_mul.1 more
  obtain ⟨c, among, isDigit⟩ : ∃ c ∈ middle, c.isDigit = true := by
    obtain ⟨some, all⟩ | ⟨whole, fraction, rfl, allWhole, allFraction, some⟩ :=
      mem_significand.1 most
    · obtain ⟨c, among⟩ := List.exists_mem_of_ne_nil middle some
      exact ⟨c, among, all c among⟩
    · by_cases none : whole = []
      · obtain ⟨c, among⟩ := List.exists_mem_of_ne_nil fraction fun empty => some ⟨none, empty⟩
        exact ⟨c, by simp [among], allFraction c among⟩
      · obtain ⟨c, among⟩ := List.exists_mem_of_ne_nil whole none
        exact ⟨c, by simp [among], allWhole c among⟩
  exact ⟨c, by simp [among], isDigit⟩

end Grammar

/-! ## What is read -/

open Grammar

variable {text : List Char}

theorem isSome_wholeNumber?_iff : (wholeNumber? text).isSome = true ↔
    text ∈ digits.matches' := by
  rw [mem_digits, wholeNumber?, Numeral.Digits]
  split
  · rename_i refused
    simp only [Bool.or_eq_true, List.isEmpty_iff, Bool.not_eq_true', List.all_eq_false] at refused
    obtain empty | ⟨c, inside, other⟩ := refused
    · simp [empty]
    · simp only [Option.isSome_none, Bool.false_eq_true, false_iff, not_and]
      exact fun _ all => other (all c inside)
  · rename_i accepted
    simpa using accepted

theorem not_mem_digits (c : Char) (rest : List Char) (isSign : c = '+' ∨ c = '-') :
    c :: rest ∉ digits.matches' := by
  rw [mem_digits]
  intro isDigits
  have isDigit := isDigits.2 c List.mem_cons_self
  obtain rfl | rfl := isSign <;> exact absurd isDigit (by decide)

theorem mem_power_cons {mark : Char} : mark :: text ∈ power.matches' ↔
    (mark = 'e' ∨ mark = 'E') ∧ withoutSign text ∈ digits.matches' := by
  rw [power, mem_optional, RegularExpression.matches'_mul, Language.mem_mul,
    ← mem_sign_mul not_mem_digits]
  constructor
  · rintro (empty | ⟨first, marks, after, inside, same⟩)
    · cases empty
    · obtain ⟨c, among, rfl⟩ := mem_oneOf.1 marks
      obtain ⟨rfl, rfl⟩ := List.cons.inj same
      exact ⟨by simpa using among, inside⟩
  · rintro ⟨among, inside⟩
    exact .inr ⟨[mark], mem_oneOf.2 ⟨mark, by simpa using among, rfl⟩, text, inside, rfl⟩

theorem isSome_exponent?_cons (mark : Char) (text : List Char) :
    (exponent? (mark :: text)).isSome =
      ((mark == 'e' || mark == 'E') && (wholeNumber? (withoutSign text)).isSome) := by
  fun_cases withoutSign text with
  | case1 rest =>
    rw [exponent?.eq_2]
    cases mark == 'e' || mark == 'E' <;> cases wholeNumber? rest <;> rfl
  | case2 rest =>
    rw [exponent?.eq_3]
    cases mark == 'e' || mark == 'E' <;> cases wholeNumber? rest <;> rfl
  | case3 text notMinus notPlus =>
    rw [exponent?.eq_4 mark text notMinus notPlus]
    cases mark == 'e' || mark == 'E' <;> cases wholeNumber? text <;> rfl

theorem isSome_exponent?_iff : (exponent? text).isSome = true ↔
    text ∈ power.matches' := by
  cases text with
  | nil => exact iff_of_true rfl (mem_optional.2 (.inl rfl))
  | cons mark rest =>
    rw [isSome_exponent?_cons, mem_power_cons, Bool.and_eq_true, isSome_wholeNumber?_iff]
    simp

theorem isSome_unsigned?_iff : (unsigned? text).isSome = true ↔ text ∈ unsigned.matches' := by
  rw [unsigned, RegularExpression.matches'_mul, Language.mem_mul]
  constructor
  · intro read
    have allTaken : ∀ text : List Char, ∀ c ∈ text.takeWhile Char.isDigit, c.isDigit = true :=
      fun _ => List.all_eq_true.1 List.all_takeWhile
    rw [unsigned?] at read
    split at read
    · rename_i rest point
      dsimp only at read
      split at read
      · cases read
      · rename_i notEmpty
        rw [Option.isSome_map, isSome_exponent?_iff] at read
        have some : ¬(text.takeWhile Char.isDigit = [] ∧ rest.takeWhile Char.isDigit = []) := by
          simpa using notEmpty
        refine ⟨text.takeWhile Char.isDigit ++ '.' :: rest.takeWhile Char.isDigit,
          mem_significand.2 (.inr ⟨_, _, rfl, allTaken text, allTaken rest, some⟩),
          rest.dropWhile Char.isDigit, read, ?_⟩
        rw [List.append_assoc, List.cons_append, List.takeWhile_append_dropWhile, ← point,
          List.takeWhile_append_dropWhile]
    · split at read
      · cases read
      · rename_i notEmpty
        rw [Option.isSome_map, isSome_exponent?_iff] at read
        have isDigits : Numeral.Digits (text.takeWhile Char.isDigit) :=
          ⟨by simpa using notEmpty, allTaken text⟩
        exact ⟨text.takeWhile Char.isDigit, mem_significand.2 (.inl isDigits),
          text.dropWhile Char.isDigit, read, List.takeWhile_append_dropWhile⟩
  · rintro ⟨front, inside, after, more, rfl⟩
    have ends := begins_of_mem_power more
    obtain isDigits | ⟨whole, fraction, rfl, allWhole, allFraction, some⟩ :=
      mem_significand.1 inside
    · rwa [unsigned?_digits isDigits ends, Option.isSome_map, isSome_exponent?_iff]
    · rw [List.append_assoc, List.cons_append,
        unsigned?_point allWhole allFraction fun c first => (ends c first).1, if_neg some,
        Option.isSome_map]
      exact isSome_exponent?_iff.2 more

theorem not_mem_unsigned (c : Char) (rest : List Char) (isSign : c = '+' ∨ c = '-') :
    c :: rest ∉ unsigned.matches' := by
  rw [← isSome_unsigned?_iff]
  obtain rfl | rfl := isSign
  · simp [unsigned?]
  · simp [unsigned?]

theorem isSome_float? (text : List Char) :
    (float? text).isSome = (unsigned? (withoutSign text)).isSome := by
  fun_cases withoutSign text with
  | case1 rest => exact Option.isSome_map
  | case2 rest => exact Option.isSome_map
  | case3 text notMinus notPlus => rw [float?.eq_3 text notMinus notPlus, Option.isSome_map]

/-- The texts that are read as numbers are the words of the grammar. -/
theorem isSome_float?_iff : (float? text).isSome = true ↔ text ∈ number.matches' := by
  rw [number, mem_sign_mul not_mem_unsigned, isSome_float?, isSome_unsigned?_iff]

end DocumentStore.Decimal
