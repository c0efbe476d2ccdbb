import DocumentStore.Scalar
import DocumentStore.Proofs.Condition.Spelling
import DocumentStore.Proofs.Decimal.Grammar
import DocumentStore.Proofs.Decimal.NotANumber

/-!
# Texts as numbers

A text spells a number if it is blank, one of three words, or a word of the grammar of decimal
numbers. A general reader of doubles knows more words than that, in any letter case; it may be used
all the same, if only texts made of the characters of decimal numbers are handed to it. The numbers
of conditions may be left to it as well: it never refuses what they take from the text.
-/

namespace DocumentStore

namespace Decimal

/-- The words for what is infinite or not a number, in any letter case. -/
def word? (text : List Char) : Option Float :=
  if Text.spells "inf" text || Text.spells "infinity" text then some infinity
  else if Text.spells "nan" text then some nan
  else none

/-- Reads a whole text as an unsigned double: a decimal number or a word. -/
def magnitude? (text : List Char) : Option Float :=
  ((unsigned? text).map toFloat).or (word? text)

/-- Reads a whole text as a double with an optional sign. -/
def double? : List Char → Option Float
  | '-' :: text => (magnitude? text).map fun x => -x
  | '+' :: text => magnitude? text
  | text => magnitude? text

/-- A character of decimal numbers. -/
def isNumberChar (c : Char) : Bool :=
  c.isDigit || c == '+' || c == '-' || c == '.' || c == 'e' || c == 'E'

/-- Whether a text is made of the characters of decimal numbers, one digit at least among them. -/
def hasNumberChars (text : List Char) : Bool := text.any Char.isDigit && text.all isNumberChar

variable {text : List Char}

theorem isNumberChar_iff {c : Char} : isNumberChar c = true ↔ c ∈ "0123456789+-.eE".toList := by
  simp only [isNumberChar, Bool.or_eq_true, Grammar.isDigit_iff, beq_iff_eq]
  simp [or_assoc]

theorem toLower_ne_of_isNumberChar {c : Char} (numeric : isNumberChar c = true) :
    c.toLower ≠ 'n' := by
  have none : "0123456789+-.eE".toList.all (fun c => c.toLower != 'n') = true := by decide +kernel
  exact bne_iff_ne.1 (List.all_eq_true.1 none c (isNumberChar_iff.1 numeric))

/-- All words have a letter that no decimal number has. -/
theorem word?_eq_none (numeric : ∀ c ∈ text, isNumberChar c = true) : word? text = none := by
  have other : ∀ word : String, 'n' ∈ word.toList → Text.spells word text = false := by
    intro word letter
    rw [Bool.eq_false_iff]
    intro spelled
    have same : text.map Char.toLower = word.toList := by simpa [Text.spells] using spelled
    rw [← same] at letter
    obtain ⟨c, inside, lower⟩ := List.mem_map.1 letter
    exact toLower_ne_of_isNumberChar (numeric c inside) lower
  rw [word?, other "inf" (by decide), other "infinity" (by decide), other "nan" (by decide)]
  rfl

/-- On texts made of the characters of decimal numbers the general reader knows no words. -/
theorem double?_eq_float? (numeric : ∀ c ∈ text, isNumberChar c = true) :
    double? text = float? text := by
  have magnitude : ∀ rest, (∀ c ∈ rest, c ∈ text) →
      magnitude? rest = (unsigned? rest).map toFloat := by
    intro rest within
    rw [magnitude?, word?_eq_none fun c inside => numeric c (within c inside), Option.or_none]
  fun_cases double? text with
  | case1 rest =>
    rw [magnitude rest fun c => List.mem_cons_of_mem _, float?, Option.map_map]
    rfl
  | case2 rest => rw [magnitude rest fun c => List.mem_cons_of_mem _, float?]
  | case3 text notMinus notPlus =>
    rw [magnitude text fun c inside => inside, float?.eq_3 text notMinus notPlus]

/-- The words of the grammar are made of the characters of decimal numbers. -/
theorem hasNumberChars_of_mem_number (inside : text ∈ Grammar.number.matches') :
    hasNumberChars text = true := by
  have numeric : (Grammar.symbols Grammar.number).all isNumberChar = true := by decide +kernel
  obtain ⟨c, among, isDigit⟩ := Grammar.exists_isDigit_of_mem_number inside
  exact Bool.and_eq_true_iff.2 ⟨List.any_eq_true.2 ⟨c, among, isDigit⟩,
    List.all_eq_true.2 fun c among =>
      List.all_eq_true.1 numeric c (Grammar.mem_symbols inside c among)⟩

theorem float?_eq_none (other : hasNumberChars text = false) : float? text = none := by
  rw [← Option.not_isSome_iff_eq_none, isSome_float?_iff]
  intro inside
  rw [hasNumberChars_of_mem_number inside] at other
  cases other

/-- Plain numbers are made of digits and a point. -/
theorem isNumberChar_of_isPlain (plain : IsPlain text) : ∀ c ∈ text, isNumberChar c = true := by
  have digit : ∀ {digits : List Char}, Numeral.Digits digits →
      ∀ c ∈ digits, isNumberChar c = true := by
    intro digits isDigits c inside
    simp [isNumberChar, isDigits.2 c inside]
  obtain digits | ⟨whole, fraction, wholeDigits, fractionDigits, rfl⟩ := plain
  · exact digit digits
  · intro c inside
    rcases List.mem_append.1 inside with before | later
    · exact digit wholeDigits c before
    · rcases List.mem_cons.1 later with rfl | after
      · rfl
      · exact digit fractionDigits c after

theorem isNaN_of_float? {x : Float} (read : float? text = some x) : x.isNaN = false := by
  rw [float?.eq_def] at read
  split at read
  · obtain ⟨d, -, rfl⟩ := Option.map_eq_some_iff.1 read
    rw [Rounding.isNaN_neg, Rounding.isNaN_toFloat]
  · obtain ⟨d, -, rfl⟩ := Option.map_eq_some_iff.1 read
    exact Rounding.isNaN_toFloat d
  · obtain ⟨d, -, rfl⟩ := Option.map_eq_some_iff.1 read
    exact Rounding.isNaN_toFloat d

end Decimal

namespace Token

/-- Reads a number from the front of a text by the general reader, to which the characters that it
takes are handed; there is none if the general reader refuses them. -/
def checkedReadNumber? (text : List Char) : Option (Token × List Char) :=
  (Decimal.double? (text.take (numeralLength text))).map fun x =>
    (.literal (.number x), text.drop (numeralLength text))

/-- The general reader accepts what a number of a condition takes from the text, and reads the same
number. -/
theorem readNumber_eq_checked {c : Char} (digit : c.isDigit = true) (text : List Char) :
    some (readNumber (c :: text)) = checkedReadNumber? (c :: text) := by
  obtain ⟨numeral, rest, x, split, length, plain, spelled, read⟩ := readNumber_cons digit text
  have accepted : Decimal.double? numeral = some x := by
    rw [Decimal.double?_eq_float? (Decimal.isNumberChar_of_isPlain plain), spelled]
  rw [checkedReadNumber?, length, read, split, List.take_left, List.drop_left, accepted]
  rfl

end Token

namespace Scalar

open Decimal (hasNumberChars)

/-- The number that a text spells, found by the general reader: it is asked only if the text is made
of the characters of decimal numbers. -/
def checkedNumberOfText (s : String) : Float :=
  let spelled := Text.trim s.toList
  if spelled = [] then 0
  else if spelled = "Infinity".toList ∨ spelled = "+Infinity".toList then Decimal.infinity
  else if spelled = "-Infinity".toList then -Decimal.infinity
  else if hasNumberChars spelled then (Decimal.double? spelled).getD Decimal.nan
  else Decimal.nan

/-- The words for what is infinite. -/
def infinities : List (List Char) :=
  ["Infinity".toList, "+Infinity".toList, "-Infinity".toList]

theorem numberOfText_eq_checked (s : String) : numberOfText s = checkedNumberOfText s := by
  simp only [numberOfText, checkedNumberOfText]
  generalize Text.trim s.toList = spelled
  by_cases numeric : hasNumberChars spelled = true
  · have allNumeric : ∀ c ∈ spelled, Decimal.isNumberChar c = true := by
      have both := Bool.and_eq_true_iff.1 numeric
      exact List.all_eq_true.1 both.2
    rw [if_pos numeric, Decimal.double?_eq_float? allNumeric]
  · rw [if_neg numeric, Decimal.float?_eq_none (by simpa using numeric)]
    rfl

theorem isNaN_numberOfText_iff (s : String) : (numberOfText s).isNaN = false ↔
    Text.trim s.toList = [] ∨ Text.trim s.toList ∈ infinities ∨
      Text.trim s.toList ∈ Decimal.Grammar.number.matches' := by
  rw [← Decimal.isSome_float?_iff]
  simp only [numberOfText, infinities]
  generalize Text.trim s.toList = spelled
  by_cases blank : spelled = []
  · rw [if_pos blank]
    exact iff_of_true (by decide +kernel) (.inl blank)
  · rw [if_neg blank]
    by_cases positive : spelled = "Infinity".toList ∨ spelled = "+Infinity".toList
    · rw [if_pos positive]
      refine iff_of_true (by decide +kernel) (.inr (.inl ?_))
      obtain rfl | rfl := positive
      · exact .head _
      · exact .tail _ (.head _)
    · rw [if_neg positive]
      by_cases negative : spelled = "-Infinity".toList
      · rw [if_pos negative, negative]
        exact iff_of_true (by decide +kernel) (.inr (.inl (.tail _ (.tail _ (.head _)))))
      · have notWord : spelled ∉ ["Infinity".toList, "+Infinity".toList, "-Infinity".toList] := by
          intro word
          simp only [List.mem_cons, List.not_mem_nil, or_false] at word
          obtain same | same | same := word
          · exact positive (.inl same)
          · exact positive (.inr same)
          · exact negative same
        rw [if_neg negative, or_iff_right blank, or_iff_right notWord]
        cases read : Decimal.float? spelled with
        | none => exact iff_of_false (by decide +kernel) nofun
        | some x => exact iff_of_true (Decimal.isNaN_of_float? read) rfl

/-- A text spells a number, blanks at its ends apart, if it is blank, one of the words for what is
infinite, or a word of the grammar of decimal numbers. This is what the general reader comes to
behind its check. So nothing else with a character that no decimal number has spells a number, such
as the words of the general reader in their other spellings. -/
theorem isNaN_numberOfText (s : String) :
    numberOfText s = checkedNumberOfText s ∧
    ((numberOfText s).isNaN = false ↔
      Text.trim s.toList = [] ∨ Text.trim s.toList ∈ infinities ∨
        Text.trim s.toList ∈ Decimal.Grammar.number.matches') ∧
    ∀ c ∈ Text.trim s.toList, Decimal.isNumberChar c = false →
      Text.trim s.toList ∉ infinities → (numberOfText s).isNaN = true := by
  refine ⟨numberOfText_eq_checked s, isNaN_numberOfText_iff s, ?_⟩
  intro c inside other notInfinite
  rw [← Bool.not_eq_false, isNaN_numberOfText_iff]
  rintro (blank | infinite | number)
  · rw [blank] at inside
    cases inside
  · exact notInfinite infinite
  · have both := Bool.and_eq_true_iff.1 (Decimal.hasNumberChars_of_mem_number number)
    rw [List.all_eq_true.1 both.2 c inside] at other
    cases other

/-- A number with blanks and all its parts, a word in another spelling, and a sign that is out of
place. -/
theorem isNaN_numberOfText_of_spellings :
    (numberOfText " +.5e-3\n").isNaN = false ∧ (numberOfText "-iNfinity").isNaN = true ∧
      (numberOfText "1-2").isNaN = true := by
  have numbers := isNaN_numberOfText " +.5e-3\n"
  have words := isNaN_numberOfText "-iNfinity"
  have signs := isNaN_numberOfText "1-2"
  refine ⟨numbers.2.1.2 (.inr (.inr ?_)), words.2.2 'i' ?_ ?_ ?_, ?_⟩
  · exact (RegularExpression.rmatch_iff_matches' _ _).1 (by decide +kernel)
  · decide
  · decide
  · decide
  · rw [← Bool.not_eq_false, signs.2.1, ← RegularExpression.rmatch_iff_matches']
    decide +kernel

end Scalar

end DocumentStore
