import DocumentStore.Json.Numeral
import DocumentStore.Json.Writing
import Mathlib.Data.List.TakeWhile

/-!
# Numerals that are written

A numeral is read up to the first character that cannot belong to it, so what follows it does not
matter as long as it begins with another one. A whole number that fits 64 bits is written as a
numeral that stands for it.
-/

namespace DocumentStore

namespace Numeral

/-- A text goes on with nothing that could belong to a numeral before it. -/
def Ends (next : List Char) : Prop :=
  ∀ c ∈ next.head?, c.isDigit = false ∧ c ≠ '.' ∧ c ≠ 'e' ∧ c ≠ 'E'

/-- A text does not go on with a digit. -/
def EndsDigits (next : List Char) : Prop := ∀ c ∈ next.head?, c.isDigit = false

theorem Ends.endsDigits {next : List Char} (ends : Ends next) : EndsDigits next :=
  fun c begins => (ends c begins).1

theorem takeWhile_isDigit_append {next : List Char} (ends : EndsDigits next) (text : List Char) :
    (text ++ next).takeWhile Char.isDigit = text.takeWhile Char.isDigit ∧
      (text ++ next).dropWhile Char.isDigit = text.dropWhile Char.isDigit ++ next := by
  induction text with
  | nil =>
    cases next with
    | nil => exact ⟨rfl, rfl⟩
    | cons c rest => simp [ends c rfl]
  | cons c rest ih =>
    obtain ⟨taken, dropped⟩ := ih
    by_cases digit : c.isDigit
    · simp [digit, taken, dropped]
    · simp [digit]

theorem digits?_append {text digits rest next : List Char} (ends : EndsDigits next)
    (read : digits? text = some (digits, rest)) :
    digits? (text ++ next) = some (digits, rest ++ next) := by
  obtain ⟨taken, dropped⟩ := takeWhile_isDigit_append ends text
  simp only [digits?] at read ⊢
  rw [taken, dropped]
  split at read
  · cases read
  · rename_i notEmpty
    cases read
    rw [if_neg notEmpty]

theorem readWhole?_of_ne_zero {c : Char} (notZero : c ≠ '0') (rest : List Char) :
    readWhole? (c :: rest) = digits? (c :: rest) := by
  rw [readWhole?]
  intro d rest' begins
  exact absurd (List.cons.inj begins).1 notZero

theorem readWhole?_append {text digits rest next : List Char} (ends : EndsDigits next)
    (read : readWhole? text = some (digits, rest)) :
    readWhole? (text ++ next) = some (digits, rest ++ next) := by
  cases text with
  | nil => cases read
  | cons c text =>
    by_cases zero : c = '0'
    · subst zero
      cases text with
      | nil =>
        cases read
        cases next with
        | nil => rfl
        | cons c next => simp [readWhole?, ends c rfl]
      | cons c text =>
        simp only [List.cons_append, readWhole?] at read ⊢
        split at read
        · cases read
        · rename_i notDigit
          cases read
          rw [if_neg notDigit]
          rfl
    · rw [readWhole?_of_ne_zero zero] at read
      rw [List.cons_append, readWhole?_of_ne_zero zero]
      exact digits?_append ends read

theorem readFraction?_append {text rest next : List Char} {fraction : Option (List Char)}
    (ends : Ends next) (read : readFraction? text = some (fraction, rest)) :
    readFraction? (text ++ next) = some (fraction, rest ++ next) := by
  unfold readFraction? at read
  split at read
  · obtain ⟨⟨digits, rest'⟩, taken, same⟩ := Option.map_eq_some_iff.1 read
    cases same
    rw [List.cons_append, readFraction?, digits?_append ends.endsDigits taken]
    rfl
  · rename_i noPoint
    cases read
    cases text with
    | nil =>
      cases next with
      | nil => rfl
      | cons c next =>
        rw [List.nil_append, readFraction?]
        intro rest begins
        exact (ends c rfl).2.1 (List.cons.inj begins).1
    | cons c text =>
      rw [List.cons_append, readFraction?]
      intro rest begins
      exact noPoint text (congrArg (· :: text) (List.cons.inj begins).1)

theorem readExponent?_append {text rest next : List Char} {exponent : Option Int}
    (ends : Ends next) (read : readExponent? text = some (exponent, rest)) :
    readExponent? (text ++ next) = some (exponent, rest ++ next) := by
  cases text with
  | nil =>
    cases read
    cases next with
    | nil => rfl
    | cons c next =>
      obtain ⟨-, -, notLower, notUpper⟩ := ends c rfl
      simp [readExponent?, notLower, notUpper]
  | cons mark text =>
    unfold readExponent? at read ⊢
    dsimp only [List.cons_append] at read ⊢
    by_cases marked : (mark == 'e' || mark == 'E') = true
    · rw [if_pos marked] at read ⊢
      split at read
      all_goals obtain ⟨⟨digits, rest'⟩, taken, same⟩ := Option.map_eq_some_iff.1 read
      all_goals cases same
      · simp only [List.cons_append, digits?_append ends.endsDigits taken]
        rfl
      · simp only [List.cons_append, digits?_append ends.endsDigits taken]
        rfl
      · rename_i noMinus noPlus
        cases text with
        | nil => cases taken
        | cons c text =>
          split
          · rename_i begins
            exact absurd (congrArg (· :: text) (List.cons.inj begins).1) (noMinus text)
          · rename_i begins
            exact absurd (congrArg (· :: text) (List.cons.inj begins).1) (noPlus text)
          · rw [digits?_append ends.endsDigits taken]
            rfl
    · rw [if_neg marked] at read ⊢
      cases read
      rfl

theorem readUnsigned?_append {negative : Bool} {text rest next : List Char} {numeral : Numeral}
    (ends : Ends next) (read : readUnsigned? negative text = some (numeral, rest)) :
    readUnsigned? negative (text ++ next) = some (numeral, rest ++ next) := by
  simp only [readUnsigned?, Option.bind_eq_bind, Option.bind_eq_some_iff, Option.pure_def,
    Option.some.injEq, Prod.mk.injEq, Prod.exists] at read ⊢
  obtain ⟨whole, afterWhole, readWhole, fraction, afterFraction, readFraction, exponent,
    afterExponent, readExponent, made, rfl⟩ := read
  exact ⟨whole, _, readWhole?_append ends.endsDigits readWhole, fraction, _,
    readFraction?_append ends readFraction, exponent, _, readExponent?_append ends readExponent,
    made, rfl⟩

theorem read?_of_ne_minus {c : Char} (notMinus : c ≠ '-') (text : List Char) :
    read? (c :: text) = readUnsigned? false (c :: text) := by
  rw [read?]
  intro rest begins
  exact notMinus (List.cons.inj begins).1

/-- What follows a numeral and could not belong to it does not change how it is read. -/
theorem read?_append {text rest next : List Char} {numeral : Numeral} (ends : Ends next)
    (read : read? text = some (numeral, rest)) :
    read? (text ++ next) = some (numeral, rest ++ next) := by
  cases text with
  | nil => cases read
  | cons c text =>
    by_cases minus : c = '-'
    · subst minus
      exact readUnsigned?_append ends read
    · rw [read?_of_ne_minus minus] at read
      rw [List.cons_append, read?_of_ne_minus minus]
      exact readUnsigned?_append ends read

theorem begins_of_digits? {c : Char} {text digits rest : List Char}
    (read : digits? (c :: text) = some (digits, rest)) : c.isDigit = true := by
  by_cases digit : c.isDigit = true
  · exact digit
  · simp [digits?, digit] at read

theorem begins_of_readUnsigned? {negative : Bool} {c : Char} {text rest : List Char}
    {numeral : Numeral} (read : readUnsigned? negative (c :: text) = some (numeral, rest)) :
    c.isDigit = true := by
  simp only [readUnsigned?, Option.bind_eq_bind, Option.bind_eq_some_iff, Prod.exists] at read
  obtain ⟨whole, after, readWhole, -⟩ := read
  by_cases zero : c = '0'
  · rw [zero]
    rfl
  · rw [readWhole?_of_ne_zero zero] at readWhole
    exact begins_of_digits? readWhole

theorem begins_of_read? {c : Char} {text rest : List Char} {numeral : Numeral}
    (read : read? (c :: text) = some (numeral, rest)) : c = '-' ∨ c.isDigit = true := by
  by_cases minus : c = '-'
  · exact .inl minus
  · rw [read?_of_ne_minus minus] at read
    exact .inr (begins_of_readUnsigned? read)

/-! ## Whole numbers -/

theorem head?_toDigits {n : Nat} (positive : 0 < n) : (Nat.toDigits 10 n).head? ≠ some '0' := by
  induction n using Nat.base_induction 10 (by decide) with
  | single m small =>
    rw [Nat.toDigits_of_lt_base small, List.head?_cons]
    intro zero
    have : m = 0 := Nat.digitChar_eq_zero.1 (Option.some.inj zero)
    omega
  | digit m k small positive' ih =>
    have some : (Nat.toDigits 10 m).head?.isSome := by simp [Nat.toDigits_ne_nil]
    rw [← Nat.toDigits_append_toDigits (by decide) positive' small, List.head?_append,
      Option.or_of_isSome some]
    exact ih positive'

/-- A row of one digit or more. -/
def Digits (text : List Char) : Prop := text ≠ [] ∧ ∀ c ∈ text, c.isDigit = true

theorem digits_toDigits (n : Nat) : Digits (Nat.toDigits 10 n) :=
  ⟨Nat.toDigits_ne_nil, fun _ inside => Nat.isDigit_of_mem_toDigits (by decide) (by decide) inside⟩

theorem digits?_of_digits {text : List Char} (digits : Digits text) :
    digits? text = some (text, []) := by
  have taken : text.takeWhile Char.isDigit = text := List.takeWhile_eq_self_iff.2 digits.2
  have dropped : text.dropWhile Char.isDigit = [] := List.dropWhile_eq_nil_iff.2 digits.2
  simp [digits?, taken, dropped, digits.1]

theorem digits?_toDigits (n : Nat) :
    digits? (Nat.toDigits 10 n) = some (Nat.toDigits 10 n, []) :=
  digits?_of_digits (digits_toDigits n)

theorem readWhole?_of_digits {text : List Char} (digits : Digits text)
    (notZero : text.head? ≠ some '0') : readWhole? text = some (text, []) := by
  cases text with
  | nil => exact absurd rfl digits.1
  | cons c rest =>
    rw [readWhole?_of_ne_zero fun same => notZero (congrArg some same)]
    exact digits?_of_digits digits

theorem readWhole?_toDigits (n : Nat) :
    readWhole? (Nat.toDigits 10 n) = some (Nat.toDigits 10 n, []) := by
  by_cases zero : n = 0
  · subst zero
    rfl
  · exact readWhole?_of_digits (digits_toDigits n) (head?_toDigits (Nat.pos_of_ne_zero zero))

theorem readUnsigned?_toDigits (negative : Bool) (n : Nat) :
    readUnsigned? negative (Nat.toDigits 10 n) =
      some (⟨negative, Nat.toDigits 10 n, none, none⟩, []) := by
  simp [readUnsigned?, readWhole?_toDigits, readFraction?, readExponent?]

theorem read?_toDigits (n : Nat) :
    read? (Nat.toDigits 10 n) = some (⟨false, Nat.toDigits 10 n, none, none⟩, []) := by
  rw [read?, readUnsigned?_toDigits]
  intro rest begins
  have digit : Char.isDigit '-' = true :=
    Nat.isDigit_of_mem_toDigits (by decide) (by decide)
      (begins ▸ List.mem_cons_self : '-' ∈ Nat.toDigits 10 n)
  cases digit

theorem ofDigits_toDigits (n : Nat) : Decimal.ofDigits (Nat.toDigits 10 n) = n :=
  Nat.ofDigitChars_ten_toDigits

/-- A whole number that fits 64 bits, signed or unsigned, is written as a numeral that stands for
it. -/
theorem read?_writeNumber_integer {n : Int} (low : -0x8000000000000000 ≤ n)
    (high : n < 0x10000000000000000) :
    ∃ numeral, read? (Json.writeNumber (.integer n)) = some (numeral, []) ∧
      numeral.number? = some (.integer n) := by
  cases n with
  | ofNat n =>
    refine ⟨_, read?_toDigits n, ?_⟩
    have fits : n < limit := by
      simp only [limit]
      have : (n : Int) < 0x10000000000000000 := high
      omega
    simp only [number?, ofDigits_toDigits, Option.isNone_none, Bool.and_self, if_true,
      Bool.not_false, fits, decide_true]
    rfl
  | negSucc n =>
    refine ⟨_, readUnsigned?_toDigits true (n + 1), ?_⟩
    have fits : 2 * (n + 1) ≤ limit := by
      simp only [limit]
      have : -0x8000000000000000 ≤ Int.negSucc n := low
      omega
    simp only [number?, ofDigits_toDigits, Option.isNone_none, Bool.and_self, if_true,
      Bool.not_true, Bool.false_and, Bool.false_eq_true, if_false, Nat.succ_pos n, fits,
      decide_true]
    rfl

/-! ## Numerals with a point or an exponent -/

/-- The point and the digits after it, if there is a point. -/
def fractionText : Option (List Char) → List Char
  | none => []
  | some digits => '.' :: digits

/-- The power of ten with its mark and sign, if there is one. -/
def exponentText : Option Int → List Char
  | none => []
  | some e => 'e' :: (if e < 0 then '-' else '+') :: Nat.toDigits 10 e.natAbs

theorem endsDigits_exponentText (exponent : Option Int) : EndsDigits (exponentText exponent) := by
  cases exponent with
  | none => exact nofun
  | some e => rintro c ⟨⟩; rfl

theorem endsDigits_fractionText (fraction : Option (List Char)) {next : List Char}
    (ends : EndsDigits next) : EndsDigits (fractionText fraction ++ next) := by
  cases fraction with
  | none => exact ends
  | some digits => rintro c ⟨⟩; rfl

theorem readExponent?_exponentText (exponent : Option Int) :
    readExponent? (exponentText exponent) = some (exponent, []) := by
  cases exponent with
  | none => rfl
  | some e =>
    have marked : ('e' == 'e' || 'e' == 'E') = true := rfl
    rw [exponentText]
    split
    · rename_i negative
      have value : -(e.natAbs : Int) = e := by omega
      rw [readExponent?, if_pos marked, digits?_toDigits, Option.map_some]
      dsimp only
      rw [ofDigits_toDigits, value]
    · rename_i notNegative
      have value : (e.natAbs : Int) = e := by omega
      rw [readExponent?, if_pos marked, digits?_toDigits, Option.map_some]
      dsimp only
      rw [ofDigits_toDigits, value]

theorem readFraction?_fractionText {fraction : Option (List Char)}
    (digits : ∀ text ∈ fraction, Digits text) (exponent : Option Int) :
    readFraction? (fractionText fraction ++ exponentText exponent) =
      some (fraction, exponentText exponent) := by
  cases fraction with
  | none =>
    cases exponent with
    | none => rfl
    | some e => rfl
  | some text =>
    rw [fractionText, List.cons_append, readFraction?,
      digits?_append (endsDigits_exponentText exponent) (digits?_of_digits (digits text rfl))]
    rfl

/-- A numeral is read from its parts. -/
theorem readUnsigned?_parts {whole : List Char} {fraction : Option (List Char)}
    (begins : readWhole? whole = some (whole, [])) (digits : ∀ text ∈ fraction, Digits text)
    (negative : Bool) (exponent : Option Int) :
    readUnsigned? negative (whole ++ (fractionText fraction ++ exponentText exponent)) =
      some (⟨negative, whole, fraction, exponent⟩, []) := by
  have ends := endsDigits_fractionText fraction (endsDigits_exponentText exponent)
  simp [readUnsigned?, readWhole?_append ends begins, readFraction?_fractionText digits,
    readExponent?_exponentText]

end Numeral

end DocumentStore
