import DocumentStore.Text.Ascii
import DocumentStore.Text.Blank
import Mathlib.Data.List.TakeWhile

/-!
# Words and blanks

Words are made of ASCII letters, digits and underscores, so no blank is part of a word. Trimming
takes blanks from the two ends of a text and leaves what stands between them as it is.
-/

namespace DocumentStore.Text

/-- A word of at least one letter, digit or underscore. -/
def IsWord (text : List Char) : Prop := text ≠ [] ∧ ∀ c ∈ text, isWordPart c = true

/-- A word that does not begin with a digit. -/
def IsIdentifier : List Char → Prop
  | [] => False
  | c :: rest => isWordStart c = true ∧ ∀ d ∈ rest, isWordPart d = true

/-- A text without blanks. -/
def IsSolid (text : List Char) : Prop := ∀ c ∈ text, isBlank c = false

-- The quantifier runs over the text; an instance for all characters must not be found in its place.
instance (text : List Char) : Decidable (IsWord text) :=
  have := List.decidableBAll (fun c => isWordPart c = true) text
  inferInstanceAs (Decidable (text ≠ [] ∧ ∀ c ∈ text, isWordPart c = true))

instance : (text : List Char) → Decidable (IsIdentifier text)
  | [] => inferInstanceAs (Decidable False)
  | c :: rest =>
    have := List.decidableBAll (fun d => isWordPart d = true) rest
    inferInstanceAs (Decidable (isWordStart c = true ∧ ∀ d ∈ rest, isWordPart d = true))

instance (text : List Char) : Decidable (IsSolid text) :=
  List.decidableBAll (fun c => isBlank c = false) text

theorem IsIdentifier.isWord {text : List Char} (identifier : IsIdentifier text) : IsWord text := by
  cases text with
  | nil => exact identifier.elim
  | cons c rest =>
    obtain ⟨start, parts⟩ := identifier
    constructor
    · simp
    · intro d inside
      rcases List.mem_cons.1 inside with rfl | inside
      · exact isWordPart_of_isWordStart start
      · exact parts d inside

theorem toNat_of_isAlpha {c : Char} (alpha : c.isAlpha = true) :
    65 ≤ c.toNat ∧ c.toNat ≤ 90 ∨ 97 ≤ c.toNat ∧ c.toNat ≤ 122 := by
  change (decide (65 ≤ c.val ∧ c.val ≤ 90) || (decide (97 ≤ c.val) && decide (c.val ≤ 122))) = true
    at alpha
  simpa [UInt32.le_iff_toNat_le] using alpha

theorem toNat_of_isDigit {c : Char} (digit : c.isDigit = true) :
    48 ≤ c.toNat ∧ c.toNat ≤ 57 := by
  simp only [Char.isDigit, Bool.and_eq_true, decide_eq_true_eq, ge_iff_le,
    UInt32.le_iff_toNat_le] at digit
  simpa using digit

theorem toNat_of_isWordPart {c : Char} (part : isWordPart c = true) :
    48 ≤ c.toNat ∧ c.toNat ≤ 122 := by
  simp only [isWordPart, Char.isAlphanum, Bool.or_eq_true, beq_iff_eq] at part
  rcases part with (alpha | digit) | rfl
  · have := toNat_of_isAlpha alpha
    omega
  · have := toNat_of_isDigit digit
    omega
  · decide

/-- No identifier begins with a digit. -/
theorem isWordStart_of_isDigit {c : Char} (digit : c.isDigit = true) : isWordStart c = false := by
  have bounds := toNat_of_isDigit digit
  rw [Bool.eq_false_iff]
  intro start
  simp only [isWordStart, Bool.or_eq_true, beq_iff_eq] at start
  rcases start with alpha | rfl
  · have := toNat_of_isAlpha alpha
    omega
  · exact absurd digit (by decide)

theorem isWordPart_of_isDigit {c : Char} (digit : c.isDigit = true) : isWordPart c = true := by
  simp [isWordPart, Char.isAlphanum, digit]

theorem isBlank_of_isWordPart {c : Char} (part : isWordPart c = true) : isBlank c = false := by
  have := toNat_of_isWordPart part
  simp only [isBlank, Bool.or_eq_false_iff, Bool.and_eq_false_iff, decide_eq_false_iff_not,
    beq_eq_false_iff_ne]
  omega

theorem IsWord.isSolid {text : List Char} (isWord : IsWord text) : IsSolid text :=
  fun c inside => isBlank_of_isWordPart (isWord.2 c inside)

theorem isWordPart_of_isBlank {c : Char} (blank : isBlank c = true) : isWordPart c = false := by
  rw [Bool.eq_false_iff]
  intro part
  rw [isBlank_of_isWordPart part] at blank
  cases blank

/-- Letter case is a matter of letters alone. -/
theorem toLower_of_not_isWordPart {c : Char} (other : isWordPart c = false) : c.toLower = c := by
  apply dif_neg
  intro bounds
  have upper : c.isUpper = true := decide_eq_true bounds
  have alpha : c.isAlpha = true := Bool.or_eq_true_iff.2 (.inl upper)
  simp [isWordPart, Char.isAlphanum, alpha] at other

variable {text blanks : List Char}

/-- What is taken from the front of a text is as long as it can be. -/
theorem takeWhile_eq_iff {p : Char → Bool} {front : List Char} :
    text.takeWhile p = front ↔ ∃ rest, text = front ++ rest ∧ (∀ c ∈ front, p c = true) ∧
      ∀ c ∈ rest.head?, p c = false := by
  constructor
  · rintro rfl
    refine ⟨text.dropWhile p, List.takeWhile_append_dropWhile.symm,
      List.all_eq_true.1 List.all_takeWhile, fun c first => ?_⟩
    have stops := List.head?_dropWhile_not p text
    rw [Option.mem_def.1 first] at stops
    exact stops
  · rintro ⟨rest, rfl, all, stops⟩
    rw [List.takeWhile_append_of_pos all]
    cases rest with
    | nil => exact List.append_nil front
    | cons c rest => simp [stops c rfl]

theorem trimStart_cons {c : Char} (blank : isBlank c = true) (text : List Char) :
    trimStart (c :: text) = trimStart text := by
  simp [trimStart, blank]

theorem trimStart_of_head (solid : ∀ c ∈ text.head?, isBlank c = false) :
    trimStart text = text := by
  cases text with
  | nil => rfl
  | cons c rest => simp [trimStart, solid c rfl]

theorem head_trimStart (text : List Char) : ∀ c ∈ (trimStart text).head?, isBlank c = false := by
  intro c first
  have stops := List.head?_dropWhile_not isBlank text
  rw [← trimStart, Option.mem_def.1 first] at stops
  exact stops

theorem trimStart_of_blanks (all : ∀ c ∈ blanks, isBlank c = true) : trimStart blanks = [] :=
  List.dropWhile_eq_nil_iff.2 all

theorem trimEnd_append (all : ∀ c ∈ blanks, isBlank c = true) (text : List Char) :
    trimEnd (text ++ blanks) = trimEnd text := by
  have reversed : ∀ c ∈ blanks.reverse, isBlank c = true := by simpa using all
  rw [trimEnd, List.reverse_append, List.dropWhile_append_of_pos reversed, trimEnd]

/-- Nothing but blanks is taken from the front of a text. -/
theorem exists_trimStart (text : List Char) :
    ∃ blanks, text = blanks ++ trimStart text ∧ ∀ c ∈ blanks, isBlank c = true :=
  ⟨text.takeWhile isBlank, List.takeWhile_append_dropWhile.symm,
    List.all_eq_true.1 List.all_takeWhile⟩

/-- Nothing but blanks is taken from the back of a text. -/
theorem exists_trimEnd (text : List Char) :
    ∃ blanks, text = trimEnd text ++ blanks ∧ ∀ c ∈ blanks, isBlank c = true := by
  obtain ⟨taken, whole, all⟩ := exists_trimStart text.reverse
  refine ⟨taken.reverse, ?_, by simpa using all⟩
  rw [trimEnd, ← trimStart, ← List.reverse_append, ← whole, List.reverse_reverse]

theorem trimEnd_trimEnd (text : List Char) : trimEnd (trimEnd text) = trimEnd text := by
  obtain ⟨blanks, whole, all⟩ := exists_trimEnd text
  rw [← trimEnd_append all, ← whole]

/-- A text is what is left of it by trimming, between blanks. -/
theorem exists_trim (text : List Char) :
    ∃ before after, text = before ++ (trim text ++ after) ∧
      (∀ c ∈ before, isBlank c = true) ∧ ∀ c ∈ after, isBlank c = true := by
  obtain ⟨before, whole, allBefore⟩ := exists_trimStart text
  obtain ⟨after, rest, allAfter⟩ := exists_trimEnd (trimStart text)
  refine ⟨before, after, ?_, allBefore, allAfter⟩
  rw [trim, ← rest, ← whole]

theorem mem_of_mem_trim {c : Char} (inside : c ∈ trim text) : c ∈ text := by
  obtain ⟨before, after, whole, -, -⟩ := exists_trim text
  rw [whole]
  simp [inside]

theorem last_trimEnd (text : List Char) : ∀ c ∈ (trimEnd text).getLast?, isBlank c = false := by
  rw [trimEnd, List.getLast?_reverse]
  exact head_trimStart text.reverse

/-- A trimmed text has no blank at its ends. -/
theorem ends_trim (text : List Char) :
    (∀ c ∈ (trim text).head?, isBlank c = false) ∧
      ∀ c ∈ (trim text).getLast?, isBlank c = false := by
  refine ⟨fun c first => ?_, last_trimEnd (trimStart text)⟩
  obtain ⟨after, whole, -⟩ := exists_trimEnd (trimStart text)
  apply head_trimStart text c
  rw [whole, List.head?_append, ← trim, Option.mem_def.1 first]
  rfl

end DocumentStore.Text
