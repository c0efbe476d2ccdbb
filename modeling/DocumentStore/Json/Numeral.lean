import DocumentStore.Json.Basic

/-!
# Numerals

The grammar of numbers in JSON texts, and the numbers that they stand for. A numeral without point
and exponent that fits 64 bits, signed or unsigned, stands for itself. Any other numeral stands for
a double: its leading digits, as many as fit 64 bits, are rounded to a double and scaled once by a
power of ten, so that the result is not always the double nearest to the numeral.
-/

namespace DocumentStore

/-- A number as it is written in a JSON text. -/
structure Numeral where
  negative : Bool
  whole : List Char
  /-- The digits after the point, if there is a point. -/
  fraction : Option (List Char)
  /-- The power of ten, if there is one. -/
  exponent : Option Int
deriving DecidableEq, Repr

namespace Numeral

/-- One digit or more from the front of a text. -/
def digits? (text : List Char) : Option (List Char × List Char) :=
  let digits := text.takeWhile Char.isDigit
  if digits.isEmpty then none else some (digits, text.dropWhile Char.isDigit)

/-- The digits before the point: a single zero, or digits that do not begin with a zero. -/
def readWhole? : List Char → Option (List Char × List Char)
  | '0' :: c :: rest => if c.isDigit then none else some (['0'], c :: rest)
  | text => digits? text

/-- The point and its digits, where a point follows. -/
def readFraction? : List Char → Option (Option (List Char) × List Char)
  | '.' :: text => (digits? text).map fun (digits, rest) => (some digits, rest)
  | text => some (none, text)

/-- The exponent, where its mark follows. -/
def readExponent? : List Char → Option (Option Int × List Char)
  | mark :: text =>
    if mark == 'e' || mark == 'E' then
      match text with
      | '-' :: text =>
        (digits? text).map fun (digits, rest) => (some (-(Decimal.ofDigits digits : Int)), rest)
      | '+' :: text =>
        (digits? text).map fun (digits, rest) => (some (Decimal.ofDigits digits : Int), rest)
      | text =>
        (digits? text).map fun (digits, rest) => (some (Decimal.ofDigits digits : Int), rest)
    else some (none, mark :: text)
  | [] => some (none, [])

/-- The unsigned part of a numeral from the front of a text. -/
def readUnsigned? (negative : Bool) (text : List Char) : Option (Numeral × List Char) := do
  let (whole, text) ← readWhole? text
  let (fraction, text) ← readFraction? text
  let (exponent, text) ← readExponent? text
  return (⟨negative, whole, fraction, exponent⟩, text)

/-- A numeral from the front of a text, and what follows it. -/
def read? : List Char → Option (Numeral × List Char)
  | '-' :: text => readUnsigned? true text
  | text => readUnsigned? false text

theorem length_digits? {text digits rest : List Char} (h : digits? text = some (digits, rest)) :
    rest.length < text.length := by
  simp only [digits?] at h
  split at h
  · simp at h
  · rename_i notEmpty
    simp only [Option.some.injEq, Prod.mk.injEq] at h
    have whole := congrArg List.length
      (List.takeWhile_append_dropWhile (p := Char.isDigit) (l := text))
    rw [List.length_append] at whole
    have positive : 0 < (text.takeWhile Char.isDigit).length :=
      List.length_pos_iff.2 (by simpa using notEmpty)
    rw [← h.2]; omega

theorem length_readWhole? {text digits rest : List Char}
    (h : readWhole? text = some (digits, rest)) : rest.length < text.length := by
  unfold readWhole? at h
  split at h
  · split at h
    · simp at h
    · simp only [Option.some.injEq, Prod.mk.injEq] at h
      rw [← h.2]; simp
  · exact length_digits? h

theorem length_readFraction? {text rest : List Char} {fraction : Option (List Char)}
    (h : readFraction? text = some (fraction, rest)) : rest.length ≤ text.length := by
  unfold readFraction? at h
  split at h
  · obtain ⟨⟨digits, rest'⟩, h', h⟩ := Option.map_eq_some_iff.1 h
    simp only [Prod.mk.injEq] at h
    have := length_digits? h'
    rw [← h.2]; simp only [List.length_cons]; omega
  · simp only [Option.some.injEq, Prod.mk.injEq] at h
    exact h.2 ▸ Nat.le_refl _

theorem length_readExponent? {text rest : List Char} {exponent : Option Int}
    (h : readExponent? text = some (exponent, rest)) : rest.length ≤ text.length := by
  unfold readExponent? at h
  split at h
  · split at h
    · split at h
      all_goals
        obtain ⟨⟨digits, rest'⟩, h', h⟩ := Option.map_eq_some_iff.1 h
        simp only [Prod.mk.injEq] at h
        have := length_digits? h'
        rw [← h.2]; simp only [List.length_cons]; omega
    · simp only [Option.some.injEq, Prod.mk.injEq] at h
      exact h.2 ▸ Nat.le_refl _
  · simp only [Option.some.injEq, Prod.mk.injEq] at h
    exact h.2 ▸ Nat.le_refl _

theorem length_readUnsigned? {negative : Bool} {text rest : List Char} {n : Numeral}
    (h : readUnsigned? negative text = some (n, rest)) : rest.length < text.length := by
  simp only [readUnsigned?, Option.bind_eq_bind, Option.bind_eq_some_iff, Option.pure_def,
    Option.some.injEq, Prod.mk.injEq, Prod.exists] at h
  obtain ⟨whole, afterWhole, h₁, fraction, afterFraction, h₂, exponent, afterExponent, h₃, _,
    rfl⟩ := h
  have := length_readWhole? h₁
  have := length_readFraction? h₂
  have := length_readExponent? h₃
  omega

theorem length_read? {text rest : List Char} {n : Numeral} (h : read? text = some (n, rest)) :
    rest.length < text.length := by
  unfold read? at h
  split at h
  · have := length_readUnsigned? h
    simp only [List.length_cons]; omega
  · exact length_readUnsigned? h

/-- The first number that does not fit 64 bits. -/
def limit : Nat := 0x10000000000000000

/-- Appends digits to a significand for as long as it fits 64 bits; the digits left over. -/
def extend (significand : Nat) : List Char → Nat × List Char
  | [] => (significand, [])
  | c :: rest =>
    let longer := 10 * significand + Decimal.digitValue c
    if longer < limit then extend longer rest else (significand, c :: rest)

/-- A power of ten as a double. -/
def powerOfTen (n : Nat) : Float := (Decimal.mk 1 n).toFloat

/-- Scales a double by a power of ten: by one product, which must not be infinite, or by quotients
of which all but the last divide by the largest power that a double holds. -/
def scale? (x : Float) (exponent : Int) : Option Float :=
  if 308 < exponent then if x == 0 then some x else none
  else if 0 ≤ exponent then
    let product := x * powerOfTen exponent.toNat
    if product.isInf then none else some product
  else if -308 ≤ exponent then some (x / powerOfTen (-exponent).toNat)
  else if x == 0 then some x
  else scale? (x / powerOfTen 308) (exponent + 308)
termination_by (-exponent).toNat
decreasing_by omega

/-- The magnitude of a numeral as a double, unless it is too large. -/
def magnitude? (n : Numeral) : Option Float :=
  let (significand, dropped) := extend 0 n.whole
  let fraction := n.fraction.getD []
  let (significand, ignored) := extend significand fraction
  let exponent : Int := dropped.length - (fraction.length - ignored.length) + n.exponent.getD 0
  scale? (Decimal.mk significand 0).toFloat exponent

/-- The double that a numeral stands for, unless it is too large. -/
def float? (n : Numeral) : Option Float :=
  n.magnitude?.map fun x => if n.negative then -x else x

/-- The number that a numeral stands for, unless it is too large. Negative zero is a double. -/
def number? (n : Numeral) : Option Number :=
  let value := Decimal.ofDigits n.whole
  if n.fraction.isNone && n.exponent.isNone then
    if !n.negative && value < limit then some (.integer value)
    else if n.negative && 0 < value && 2 * value ≤ limit then some (.integer (-value))
    else n.float?.map .float
  else n.float?.map .float

end Numeral

end DocumentStore
