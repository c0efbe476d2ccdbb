import DocumentStore.Proofs.Json.Magnitude
import DocumentStore.Proofs.Json.RoundTrip

/-!
# Doubles that are written

The shortest digits of a double are laid out as a numeral that is not too large, with or without an
exponent. So the text of every number that fits can be read, though a double may be read as another
one.
-/

namespace DocumentStore

namespace Numeral

/-- A text is the unsigned part of a numeral that stands for a double. -/
def StandsForDouble (text : List Char) : Prop :=
  ∀ negative, ∃ n : Numeral, readUnsigned? negative text = some (n, []) ∧ n.magnitude?.isSome

theorem standsForDouble_parts {whole : List Char} {fraction : Option (List Char)}
    {exponent : Option Int} (begins : readWhole? whole = some (whole, []))
    (digits : ∀ text ∈ fraction, Digits text) (fits : Decimal.ofDigits whole < limit)
    (within : (Decimal.ofParts whole (fraction.getD []) (exponent.getD 0)).WithinBound) :
    StandsForDouble (whole ++ (fractionText fraction ++ exponentText exponent)) :=
  fun negative => ⟨_, readUnsigned?_parts begins digits negative exponent,
    magnitude?_isSome fits within⟩

theorem standsForDouble_point {whole fraction : List Char}
    (begins : readWhole? whole = some (whole, [])) (digits : Digits fraction)
    (fits : Decimal.ofDigits whole < limit)
    (within : (Decimal.ofParts whole fraction 0).WithinBound) :
    StandsForDouble (whole ++ '.' :: fraction) := by
  have all : ∀ text ∈ some fraction, Digits text := by
    rintro text ⟨⟩
    exact digits
  have parts := standsForDouble_parts begins all fits
    (show (Decimal.ofParts whole _ ((none : Option Int).getD 0)).WithinBound from within)
  rwa [exponentText, List.append_nil] at parts

/-- With or without a minus sign before it, the text is cut into one number. -/
theorem readAll?_of_standsForDouble {text sign : List Char} (stands : StandsForDouble text)
    (signed : sign = [] ∨ sign = ['-']) :
    ∃ m, Json.Lexeme.readAll? (sign ++ text) = some [.number (some m)] := by
  have found : ∃ n, read? (sign ++ text) = some (n, []) ∧ n.magnitude?.isSome := by
    rcases signed with rfl | rfl
    · obtain ⟨n, read, magnitude⟩ := stands false
      refine ⟨n, ?_, magnitude⟩
      cases text with
      | nil => cases read
      | cons c rest =>
        have notMinus : c ≠ '-' := by
          rintro rfl
          cases begins_of_readUnsigned? read
        rw [List.nil_append, read?_of_ne_minus notMinus, read]
    · exact stands true
  obtain ⟨n, read, magnitude⟩ := found
  obtain ⟨m, number⟩ := Option.isSome_iff_exists.1 (number?_isSome magnitude)
  exact ⟨m, by rw [Json.Lexeme.readAll?_of_numeral read, number]⟩

theorem toDigits_append_zeros {n : Nat} (positive : 0 < n) (zeros : Nat) :
    Nat.toDigits 10 n ++ List.replicate zeros '0' = Nat.toDigits 10 (n * 10 ^ zeros) := by
  induction zeros with
  | zero => simp
  | succ zeros ih =>
    have zero : Nat.toDigits 10 0 = ['0'] := rfl
    rw [List.replicate_succ', ← List.append_assoc, ih, ← zero,
      Nat.toDigits_append_toDigits (by decide)
        (Nat.mul_pos positive (Nat.pow_pos (by decide))) (by decide)]
    congr 1
    ring

/-- The first digits of a number are read as a whole part. -/
theorem readWhole?_take {n count : Nat} (positive : 0 < n) (some : 0 < count) :
    readWhole? ((Nat.toDigits 10 n).take count) =
      .some ((Nat.toDigits 10 n).take count, []) := by
  obtain ⟨notEmpty, digits⟩ := digits_toDigits n
  refine readWhole?_of_digits ⟨?_, fun c inside => digits c (List.mem_of_mem_take inside)⟩ ?_
  · simpa [List.take_eq_nil_iff, notEmpty] using Nat.ne_of_gt some
  · rw [List.head?_take, if_neg (Nat.ne_of_gt some)]
    exact head?_toDigits positive

theorem digits_drop {n count : Nat} (more : count < (Nat.toDigits 10 n).length) :
    Digits ((Nat.toDigits 10 n).drop count) := by
  refine ⟨?_, fun c inside => (digits_toDigits n).2 c (List.mem_of_mem_drop inside)⟩
  simpa [List.drop_eq_nil_iff] using more

theorem ofDigits_take_lt {n count : Nat} (short : count ≤ 16) :
    Decimal.ofDigits ((Nat.toDigits 10 n).take count) < limit := by
  have all : ∀ c ∈ (Nat.toDigits 10 n).take count, c.isDigit = true :=
    fun c inside => (digits_toDigits n).2 c (List.mem_of_mem_take inside)
  calc Decimal.ofDigits ((Nat.toDigits 10 n).take count)
      < 10 ^ ((Nat.toDigits 10 n).take count).length := Decimal.ofDigits_lt all
    _ ≤ 10 ^ 16 := Nat.pow_le_pow_right (by decide) (by rw [List.length_take]; omega)
    _ ≤ limit := by decide

end Numeral

/-! ## Layouts -/

namespace Layout

open Numeral

variable {n : Nat}

theorem standsForDouble_whole {exponent : Nat} (positive : 0 < n)
    (short : (Nat.toDigits 10 n).length + exponent ≤ 16)
    (within : Decimal.WithinBound ⟨n, exponent⟩) :
    StandsForDouble (Nat.toDigits 10 n ++ List.replicate exponent '0' ++ ['.', '0']) := by
  rw [toDigits_append_zeros positive]
  refine standsForDouble_point (readWhole?_toDigits _) (digits_toDigits 0) ?_ ?_
  · have small : n < 10 ^ (Nat.toDigits 10 n).length :=
      (Nat.length_toDigits_le_iff (by decide) Nat.length_toDigits_pos).1 (Nat.le_refl _)
    rw [ofDigits_toDigits]
    calc n * 10 ^ exponent ≤ 10 ^ (Nat.toDigits 10 n).length * 10 ^ exponent :=
          Nat.mul_le_mul_right _ (Nat.le_of_lt small)
      _ = 10 ^ ((Nat.toDigits 10 n).length + exponent) := (Nat.pow_add ..).symm
      _ ≤ 10 ^ 16 := Nat.pow_le_pow_right (by decide) short
      _ < limit := by decide
  · have value : Decimal.ofParts (Nat.toDigits 10 (n * 10 ^ exponent)) ['0'] 0 =
        ⟨n * 10 ^ (exponent + 1), -1⟩ := by
      rw [Decimal.ofParts, Decimal.ofDigits_append, ofDigits_toDigits]
      congr 1
      change 10 ^ 1 * (n * 10 ^ exponent) + 0 = n * 10 ^ (exponent + 1)
      ring
    have same : (exponent : Int) = -1 + (exponent + 1 : Nat) := by omega
    rw [value]
    rw [same] at within
    exact within.mul

theorem standsForDouble_take {point : Nat} (positive : 0 < n) (some : 0 < point)
    (more : point < (Nat.toDigits 10 n).length) (short : point ≤ 16)
    (within : Decimal.WithinBound ⟨n, point - (Nat.toDigits 10 n).length⟩) :
    StandsForDouble ((Nat.toDigits 10 n).take point ++ '.' :: (Nat.toDigits 10 n).drop point) := by
  refine standsForDouble_point (readWhole?_take positive some) (digits_drop more)
    (ofDigits_take_lt short) ?_
  have exponent : 0 - ((Nat.toDigits 10 n).length - point : Nat) =
      (point : Int) - (Nat.toDigits 10 n).length := by omega
  rw [Decimal.ofParts, List.take_append_drop, ofDigits_toDigits, List.length_drop, exponent]
  exact within

theorem standsForDouble_zeros {zeros : Nat}
    (within : Decimal.WithinBound ⟨n, -(zeros + (Nat.toDigits 10 n).length : Nat)⟩) :
    StandsForDouble ('0' :: '.' :: (List.replicate zeros '0' ++ Nat.toDigits 10 n)) := by
  have digits : Digits (List.replicate zeros '0' ++ Nat.toDigits 10 n) := by
    obtain ⟨notEmpty, digits⟩ := digits_toDigits n
    refine ⟨List.append_ne_nil_of_right_ne_nil _ notEmpty, ?_⟩
    rintro c inside
    rcases List.mem_append.1 inside with zero | inside
    · rw [List.eq_of_mem_replicate zero]
      rfl
    · exact digits c inside
  refine standsForDouble_point (show readWhole? ['0'] = some (['0'], []) from rfl) digits
    (by decide) ?_
  have value : Decimal.ofDigits ('0' :: (List.replicate zeros '0' ++ Nat.toDigits 10 n)) = n := by
    rw [← List.cons_append, ← List.replicate_succ, Decimal.ofDigits_append, ofDigits_toDigits]
    have zero : Decimal.ofDigits (List.replicate (zeros + 1) '0') = 0 :=
      Nat.ofDigitChars_replicate_zero
    rw [zero, Nat.mul_zero, Nat.zero_add]
  rw [Decimal.ofParts, List.singleton_append, value, List.length_append, List.length_replicate,
    Int.zero_sub]
  exact within

/-- The digits after the first one stand after a point, unless there are none. -/
theorem exists_fraction (n : Nat) : ∃ fraction : Option (List Char),
    (if ((Nat.toDigits 10 n).drop 1).isEmpty then [] else '.' :: (Nat.toDigits 10 n).drop 1) =
      fractionText fraction ∧
    fraction.getD [] = (Nat.toDigits 10 n).drop 1 ∧ ∀ text ∈ fraction, Digits text := by
  by_cases more : 1 < (Nat.toDigits 10 n).length
  · have digits := digits_drop more
    refine ⟨some ((Nat.toDigits 10 n).drop 1), ?_, rfl, ?_⟩
    · rw [if_neg (by simpa using digits.1)]
      rfl
    · rintro text ⟨⟩
      exact digits
  · have none : (Nat.toDigits 10 n).drop 1 = [] := List.drop_eq_nil_iff.2 (Nat.le_of_not_lt more)
    exact ⟨.none, by rw [none]; rfl, none.symm, nofun⟩

theorem standsForDouble_scientific {e : Int} (positive : 0 < n)
    (within : Decimal.WithinBound ⟨n, e - ((Nat.toDigits 10 n).length - 1 : Nat)⟩) :
    StandsForDouble (writeScientific (Nat.toDigits 10 n) e) := by
  have mark : (if e < 0 then ['e', '-'] else ['e', '+']) ++ Nat.toDigits 10 e.natAbs =
      exponentText (some e) := by
    rw [exponentText]
    split <;> rfl
  obtain ⟨fraction, text, value, digits⟩ := exists_fraction n
  rw [writeScientific, List.append_assoc, List.append_assoc, mark, text]
  refine standsForDouble_parts (readWhole?_take positive Nat.one_pos) digits
    (ofDigits_take_lt (by decide)) ?_
  rw [value, Decimal.ofParts, List.take_append_drop, ofDigits_toDigits, List.length_drop]
  exact within

theorem standsForDouble_positional {exponent : Int} (positive : 0 < n)
    (short : (Nat.toDigits 10 n).length + exponent ≤ 16)
    (within : Decimal.WithinBound ⟨n, exponent⟩) :
    StandsForDouble (document.writePositional (Nat.toDigits 10 n) exponent) := by
  rw [writePositional]
  split
  · rename_i notNegative
    obtain ⟨power, rfl⟩ := Int.eq_ofNat_of_zero_le notNegative
    exact standsForDouble_whole positive (by omega) within
  · rename_i negative
    dsimp only
    split
    · rename_i inside
      obtain ⟨point, same⟩ := Int.eq_ofNat_of_zero_le (Int.le_of_lt inside)
      have exponent : exponent = point - (Nat.toDigits 10 n).length := by omega
      rw [exponent] at within
      rw [same]
      exact standsForDouble_take positive (by omega) (by omega) (by omega) within
    · rename_i before
      have exponent : exponent = -((-((Nat.toDigits 10 n).length + exponent)).toNat +
          (Nat.toDigits 10 n).length : Nat) := by omega
      rw [exponent] at within
      exact standsForDouble_zeros within

/-- A number of at most the bound that is not zero is laid out as a numeral that is not too
large. -/
theorem standsForDouble_writeDecimal {d : Decimal} (positive : 0 < d.significand)
    (within : d.WithinBound) : StandsForDouble (document.writeDecimal d) := by
  have notZero : 0 < (stripZeros d.significand d.exponent).significand := stripZeros_pos positive
  replace within := withinBound_stripZeros within
  rw [writeDecimal]
  revert notZero within
  generalize stripZeros d.significand d.exponent = stripped
  obtain ⟨n, exponent⟩ := stripped
  intro notZero within
  dsimp only at notZero ⊢
  split
  · rename_i positional
    simp only [document, Bool.and_eq_true, decide_eq_true_eq] at positional
    exact standsForDouble_positional notZero (by omega) within
  · have long : 0 < (Nat.toDigits 10 n).length := Nat.length_toDigits_pos
    have same : exponent = exponent + (Nat.toDigits 10 n).length - 1 -
        ((Nat.toDigits 10 n).length - 1 : Nat) := by omega
    rw [same] at within
    exact standsForDouble_scientific notZero within

/-- The numbers of 17 digits as which the greatest doubles are written are more than the bound, but
they are not too large either. -/
theorem standsForDouble_greatest (low : 17976931348623150 < n) (high : n < 17976931348623158) :
    StandsForDouble (document.writeDecimal ⟨n, 292⟩) := by
  have all : ∀ i < 7, ∀ negative,
      (((readUnsigned? negative (document.writeDecimal ⟨17976931348623151 + i, 292⟩)).filter
        (·.2.isEmpty)).bind (·.1.magnitude?)).isSome := by decide +kernel
  obtain ⟨i, few, rfl⟩ : ∃ i < 7, n = 17976931348623151 + i :=
    ⟨n - 17976931348623151, by omega, by omega⟩
  intro negative
  obtain ⟨x, found⟩ := Option.isSome_iff_exists.1 (all i few negative)
  obtain ⟨⟨numeral, rest⟩, read, magnitude⟩ := Option.bind_eq_some_iff.1 found
  obtain ⟨read, empty⟩ := Option.filter_eq_some_iff.1 read
  obtain rfl := List.isEmpty_iff.1 empty
  exact ⟨numeral, read, Option.isSome_of_eq_some magnitude⟩

/-! ## Doubles -/

theorem of_isFinite {x : Float} (finite : x.isFinite = true) :
    x.isNaN = false ∧ x.isInf = false := by
  change x.toModel.unpack.isFinite = true at finite
  change x.toModel.unpack.isNaN = false ∧ x.toModel.unpack.isInf = false
  cases unpacked : x.toModel.unpack with
  | notANumber | infinity =>
    rw [unpacked] at finite
    cases finite
  | zero | finite => exact ⟨rfl, rfl⟩

theorem standsForDouble_shortest {x : Float} (finite : x.isFinite = true)
    (notZero : (x == 0) = false) :
    StandsForDouble (document.writeDecimal ((Binary.ofBits x.toBits).shortest .even)) := by
  have positive := Binary.pos_shortest .even (Binary.mantissa_pos notZero)
  obtain within | ⟨n, low, high, same⟩ :=
    Binary.shortest_cases .even (Binary.finiteBits_of_isFinite finite)
  · exact standsForDouble_writeDecimal positive within
  · rw [same]
    exact standsForDouble_greatest low high

theorem standsForDouble_zero : StandsForDouble ['0', '.', '0'] := by
  refine standsForDouble_point (show readWhole? ['0'] = some (['0'], []) from rfl)
    (digits_toDigits 0) (by decide) ?_
  intro scale n _
  exact (Nat.zero_mul _).trans_le (Nat.zero_le _)

/-- A finite double is written as a numeral that is not too large, perhaps with a minus sign. -/
theorem exists_write {x : Float} (finite : x.isFinite = true) :
    ∃ sign text, document.write x = sign ++ text ∧ (sign = [] ∨ sign = ['-']) ∧
      StandsForDouble text := by
  obtain ⟨number, notInfinite⟩ := of_isFinite finite
  let sign : List Char := if x.toBits < 0x8000000000000000 then [] else ['-']
  have signed : sign = [] ∨ sign = ['-'] := by
    dsimp only [sign]
    split
    · exact .inl rfl
    · exact .inr rfl
  have written : document.write x = if x == 0 then sign ++ ['0', '.', '0']
      else sign ++ document.writeDecimal ((Binary.ofBits x.toBits).shortest .even) := by
    rw [write, number, notInfinite]
    rfl
  rw [written]
  by_cases zero : (x == 0) = true
  · rw [if_pos zero]
    exact ⟨sign, _, rfl, signed, standsForDouble_zero⟩
  · rw [if_neg zero]
    exact ⟨sign, _, rfl, signed, standsForDouble_shortest finite (by simpa using zero)⟩

end Layout

namespace Number

/-- The text of a finite double is one number. -/
theorem exists_readAll? {x : Float} (finite : x.isFinite = true) :
    ∃ m, Json.Lexeme.readAll? (Json.writeNumber (.float x)) = some [.number (some m)] := by
  obtain ⟨sign, text, written, signed, stands⟩ := Layout.exists_write finite
  obtain ⟨m, cut⟩ := Numeral.readAll?_of_standsForDouble stands signed
  exact ⟨m, by rw [Json.writeNumber, if_pos finite, written, cut]⟩

/-- A double that is not finite is written as null. -/
theorem readAll?_of_not_isFinite {x : Float} (notFinite : x.isFinite ≠ true) :
    Json.Lexeme.readAll? (Json.writeNumber (.float x)) = some [.null] := by
  have cut := Json.Lexeme.readAll?_nullWord []
  rw [List.append_nil, Json.Lexeme.readAll?] at cut
  rw [Json.writeNumber, if_neg notFinite, cut]
  rfl

/-- The text of a number that is a double or fits 64 bits can be read. -/
theorem readable_of_fits {n : Number} (fits : n.Fits) : n.Readable := by
  cases n with
  | integer n => exact (readable_of_number (Json.Lexeme.readAll?_integer fits.1 fits.2)).1
  | float x =>
    by_cases finite : x.isFinite = true
    · obtain ⟨m, cut⟩ := exists_readAll? finite
      exact (readable_of_number cut).1
    · exact readable_of_null (readAll?_of_not_isFinite finite)

end Number

end DocumentStore
