import DocumentStore.Condition.Basic
import DocumentStore.Proofs.Except

/-!
# Scanning texts that are put together

A text that is scanned to its end gives the same tokens in both modes. What a scan makes of the
front of a text does not depend on the rest, as long as the rest does not make its last token
longer: a text can be cut off at any character at which no token begins, and what stands before a
closing parenthesis is scanned as if nothing followed.
-/

namespace DocumentStore

namespace Token

theorem scanStrict_eq_ok_iff {text : List Char} {tokens : List Token} :
    scanStrict text = .ok tokens ↔ scan text = (tokens, []) := by
  unfold scanStrict
  rcases scan text with ⟨scanned, rest⟩
  cases rest <;> simp

theorem scanAll_of_scan {text : List Char} {tokens : List Token}
    (scanned : scan text = (tokens, [])) : scanAll text = tokens := by
  rw [scanAll]
  split
  · rename_i ended
    rw [scanned] at ended
    exact (Prod.mk.inj ended).1.symm
  · rename_i stopped
    rw [scanned] at stopped
    exact absurd (Prod.mk.inj stopped).2 (List.cons_ne_nil _ _).symm

theorem ofText_of_scan {text : String} {tokens : List Token}
    (scanned : scan text.toList = (tokens, [])) (strict : Bool) :
    ofText strict text = .ok tokens := by
  cases strict with
  | true => exact scanStrict_eq_ok_iff.2 scanned
  | false => exact congrArg Except.ok (scanAll_of_scan scanned)

/-- What strict scanning accepts, permissive scanning reads alike. -/
theorem ofText_permissive {strict : Bool} {text : String} {tokens : List Token}
    (scanned : ofText strict text = .ok tokens) : ofText false text = .ok tokens := by
  cases strict with
  | true => exact ofText_of_scan (scanStrict_eq_ok_iff.1 scanned) false
  | false => exact scanned

/-- Whether a character makes no token longer, whatever was read before it. -/
def endsTokens (c : Char) : Bool := !Text.isWordPart c && c != '=' && c != '.'

/-- The second text is like the first one, up to its end or up to a character that makes no token
longer. -/
inductive Alike : List Char → List Char → Prop
  | apart {rest next : List Char} : (∀ c ∈ next.head?, endsTokens c = true) → Alike rest next
  | cons {rest next : List Char} (c : Char) : Alike rest next → Alike (c :: rest) (c :: next)

namespace Alike

variable {rest next : List Char}

theorem append {next : List Char} (ends : ∀ c ∈ next.head?, endsTokens c = true)
    (kept stop : List Char) : Alike (kept ++ stop) (kept ++ next) := by
  induction kept with
  | nil => exact apart ends
  | cons c kept ih => exact cons c ih

/-- A property of the characters that do make a token longer fails at the head of both texts. -/
theorem head (alike : Alike rest next) {p : Char → Bool}
    (longer : ∀ c, endsTokens c = true → p c = false) (stops : ∀ c ∈ rest.head?, p c = false) :
    ∀ c ∈ next.head?, p c = false := by
  cases alike with
  | apart ends => exact fun c first => longer c (ends c first)
  | cons c alike => exact stops

/-- An operator that nothing made longer is not made longer by a text that goes on alike. -/
theorem ne_equals (alike : Alike rest next) (last : ∀ more, rest ≠ '=' :: more)
    (more : List Char) : next ≠ '=' :: more := by
  rintro rfl
  cases alike with
  | apart ends => exact absurd (ends '=' rfl) (by decide)
  | cons c alike => exact last _ rfl

end Alike

theorem isWordPart_of_endsTokens {c : Char} (ends : endsTokens c = true) :
    Text.isWordPart c = false := by
  simp only [endsTokens, Bool.and_eq_true, Bool.not_eq_true'] at ends
  exact ends.1.1

theorem isDigit_of_endsTokens {c : Char} (ends : endsTokens c = true) : c.isDigit = false := by
  have notPart := isWordPart_of_endsTokens ends
  simp only [Text.isWordPart, Char.isAlphanum, Bool.or_eq_false_iff] at notPart
  exact notPart.1.2

/-! ## Single tokens -/

/-- The characters that were taken from the front of a text are taken again, if what follows them
does not go on with another one. -/
theorem takeWhile_append_of_stop {p : Char → Bool} (text : List Char) {next : List Char}
    (stops : ∀ c ∈ next.head?, p c = false) :
    (text.takeWhile p ++ next).takeWhile p = text.takeWhile p ∧
      (text.takeWhile p ++ next).dropWhile p = next := by
  have all : ∀ c ∈ text.takeWhile p, p c = true := List.all_eq_true.1 List.all_takeWhile
  rw [List.takeWhile_append_of_pos all, List.dropWhile_append_of_pos all]
  cases next with
  | nil => exact ⟨List.append_nil _, rfl⟩
  | cons c next =>
    have stop := stops c rfl
    simp [stop]

theorem head_dropWhile {p : Char → Bool} (text : List Char) :
    ∀ c ∈ (text.dropWhile p).head?, p c = false := by
  intro c first
  have fails := List.head?_dropWhile_not p text
  rw [Option.mem_def.1 first] at fails
  exact fails

theorem readQuoted?_local {text rest : List Char} {token : Token}
    (read : readQuoted? text = some (token, rest)) :
    ∃ used, text = used ++ rest ∧ ∀ next, readQuoted? (used ++ next) = some (token, next) := by
  unfold readQuoted? at read
  split at read
  · rename_i rest' ends
    cases read
    have split := List.takeWhile_append_dropWhile (p := fun c => !endsQuoted c) (l := text)
    refine ⟨text.takeWhile (fun c => !endsQuoted c) ++ ['"'], ?_, fun next => ?_⟩
    · rw [List.append_assoc, List.singleton_append, ← ends, split]
    · have stops : ∀ c ∈ ('"' :: next).head?, (!endsQuoted c) = false := by
        rintro c ⟨⟩
        rfl
      obtain ⟨taken, dropped⟩ := takeWhile_append_of_stop text stops
      rw [readQuoted?, List.append_assoc, List.singleton_append, taken, dropped]
      rfl
  · cases read

theorem readWord_local {text rest : List Char} {token : Token}
    (read : readWord text = (token, rest)) :
    ∃ used, text = used ++ rest ∧
      ∀ next, Alike rest next → readWord (used ++ next) = (token, next) := by
  cases read
  refine ⟨text.takeWhile Text.isWordPart, List.takeWhile_append_dropWhile.symm,
    fun next alike => ?_⟩
  obtain ⟨taken, dropped⟩ := takeWhile_append_of_stop text
    (alike.head (fun _ => isWordPart_of_endsTokens) (head_dropWhile text))
  rw [readWord, taken, dropped]

theorem takeWhile_eq_nil_iff {p : Char → Bool} {text : List Char} :
    text.takeWhile p = [] ↔ ∀ c ∈ text.head?, p c = false := by
  cases text with
  | nil => simp
  | cons c text => simp [List.takeWhile_cons]

/-- A point that no digit follows is no part of a number, nor is it one if the text goes on
alike. -/
theorem no_fraction_of_alike {rest next : List Char} (alike : Alike rest next)
    (whole : ¬ (rest.head? = some '.' ∧ (rest.drop 1).takeWhile Char.isDigit ≠ [])) :
    ¬ (next.head? = some '.' ∧ (next.drop 1).takeWhile Char.isDigit ≠ []) := by
  rintro ⟨point, fraction⟩
  cases alike with
  | apart ends => exact absurd (ends '.' point) (by decide)
  | @cons rest next c alike =>
    -- Both texts have the point, and a digit after it in one is a digit after it in the other.
    refine whole ⟨point, fun none => fraction ?_⟩
    rw [List.drop_one, List.tail_cons, takeWhile_eq_nil_iff] at none ⊢
    exact alike.head (fun _ => isDigit_of_endsTokens) none

theorem readNumber_local {text rest : List Char} {token : Token}
    (read : readNumber text = (token, rest)) :
    ∃ used, text = used ++ rest ∧
      ∀ next, Alike rest next → readNumber (used ++ next) = (token, next) := by
  have whole := List.takeWhile_append_dropWhile (p := Char.isDigit) (l := text)
  simp only [readNumber] at read
  split at read
  · rename_i pointed
    cases read
    obtain ⟨tail, after⟩ := List.head?_eq_some_iff.1 pointed.1
    rw [after] at pointed whole ⊢
    rw [List.drop_one, List.tail_cons] at pointed ⊢
    refine ⟨text.takeWhile Char.isDigit ++ '.' :: tail.takeWhile Char.isDigit, ?_,
      fun next alike => ?_⟩
    · rw [List.append_assoc, List.cons_append, List.takeWhile_append_dropWhile, whole]
    · obtain ⟨taken, dropped⟩ := takeWhile_append_of_stop text
        (show ∀ c ∈ ('.' :: (tail.takeWhile Char.isDigit ++ next)).head?, Char.isDigit c = false by
          rintro c ⟨⟩
          decide)
      obtain ⟨takenAfter, droppedAfter⟩ := takeWhile_append_of_stop tail
        (alike.head (fun _ => isDigit_of_endsTokens) (head_dropWhile tail))
      rw [List.append_assoc, List.cons_append]
      simp only [readNumber, taken, dropped, List.head?_cons, List.drop_one, List.tail_cons,
        takenAfter, droppedAfter]
      rw [if_pos ⟨trivial, pointed.2⟩]
  · rename_i unpointed
    cases read
    refine ⟨text.takeWhile Char.isDigit, whole.symm, fun next alike => ?_⟩
    obtain ⟨taken, dropped⟩ := takeWhile_append_of_stop text
      (alike.head (fun _ => isDigit_of_endsTokens) (head_dropWhile text))
    simp only [readNumber, taken, dropped]
    rw [if_neg (no_fraction_of_alike alike unpointed)]

theorem ne_mark {c mark : Char} (plain : Text.isWordStart c = true ∨ c.isDigit = true)
    (other : ¬ (Text.isWordStart mark = true ∨ mark.isDigit = true)) : c ≠ mark :=
  fun same => other (same ▸ plain)

/-- A character that is no mark begins a word or a number. -/
theorem read?_of_plain {c : Char} (plain : Text.isWordStart c = true ∨ c.isDigit = true)
    (text : List Char) :
    read? (c :: text) =
      some (if Text.isWordStart c then readWord (c :: text) else readNumber (c :: text)) := by
  rw [read?]
  case x_1 | x_2 | x_3 => exact fun _ same _ => ne_mark plain (by decide) same
  case x_4 | x_5 | x_6 | x_7 | x_8 | x_9 => exact fun same => ne_mark plain (by decide) same
  rcases plain with start | digit
  · simp [start]
  · by_cases start : Text.isWordStart c <;> simp [start, digit]

/-- What is read of a text that is not empty begins with its first character. -/
theorem eq_cons_of_shorter {c : Char} {text used rest : List Char}
    (whole : c :: text = used ++ rest) (shorter : rest.length < (c :: text).length) :
    ∃ more, used = c :: more := by
  cases used with
  | nil =>
    rw [whole, List.nil_append] at shorter
    exact absurd shorter (Nat.lt_irrefl _)
  | cons d more => exact ⟨more, congrArg (· :: more) (List.cons.inj whole).1.symm⟩

/-- Reading a token takes characters from the front of a text, and it takes the same ones of every
text that goes on alike. -/
theorem read?_local {text rest : List Char} {token : Token}
    (read : read? text = some (token, rest)) :
    ∃ used, text = used ++ rest ∧
      ∀ next, Alike rest next → read? (used ++ next) = some (token, next) := by
  have shorter := length_read? read
  unfold read? at read
  split at read
  case h_1 | h_2 | h_3 =>
    cases read
    exact ⟨[_, _], rfl, fun next _ => rfl⟩
  -- A sign that stands alone reads ahead: a text that goes on alike does not begin with `=` either.
  case h_5 rest' last =>
    cases read
    refine ⟨['>'], rfl, fun next alike => ?_⟩
    rw [List.singleton_append, read?]
    exact alike.ne_equals last
  case h_6 rest' last =>
    cases read
    refine ⟨['<'], rfl, fun next alike => ?_⟩
    rw [List.singleton_append, read?]
    exact alike.ne_equals last
  case h_9 rest' =>
    obtain ⟨used, rfl, again⟩ := readQuoted?_local read
    exact ⟨'"' :: used, rfl, fun next _ => again next⟩
  case h_10 c text _ _ _ _ _ _ _ _ _ =>
    -- What the reader of a word or a number took begins with `c`: it has left less than it got.
    split at read
    · rename_i start
      obtain ⟨used, whole, again⟩ := readWord_local (Option.some.inj read)
      obtain ⟨more, rfl⟩ := eq_cons_of_shorter whole shorter
      refine ⟨_, whole, fun next alike => ?_⟩
      rw [List.cons_append, read?_of_plain (.inl start), if_pos start, ← List.cons_append,
        again next alike]
    · rename_i notStart
      split at read
      · rename_i digit
        obtain ⟨used, whole, again⟩ := readNumber_local (Option.some.inj read)
        obtain ⟨more, rfl⟩ := eq_cons_of_shorter whole shorter
        refine ⟨_, whole, fun next alike => ?_⟩
        rw [List.cons_append, read?_of_plain (.inr digit), if_neg notStart, ← List.cons_append,
          again next alike]
      · cases read
  case h_11 => cases read
  all_goals
    cases read
    exact ⟨[_], rfl, fun next _ => rfl⟩

/-! ## Whole texts -/

theorem scan_nil : scan [] = ([], []) := by
  rw [scan.eq_def]

theorem scan_blank {c : Char} (blank : Text.isBlank c = true) (text : List Char) :
    scan (c :: text) = scan text := by
  rw [scan.eq_def]
  dsimp only
  rw [if_pos blank]

theorem scan_token {c : Char} {text rest : List Char} {token : Token}
    (notBlank : ¬ Text.isBlank c = true) (read : read? (c :: text) = some (token, rest)) :
    scan (c :: text) = (token :: (scan rest).1, (scan rest).2) := by
  rw [scan.eq_def]
  dsimp only
  rw [if_neg notBlank]
  split
  · rename_i missing
    rw [read] at missing
    cases missing
  · rename_i found
    rw [read] at found
    cases found
    rfl

/-- What a scan has passed when it stops gives the same tokens before any text that makes no token
longer. -/
theorem scan_local {text stop : List Char} {tokens : List Token}
    (scanned : scan text = (tokens, stop)) :
    ∃ before, text = before ++ stop ∧
      ∀ next : List Char, (∀ c ∈ next.head?, endsTokens c = true) →
        scan (before ++ next) = (tokens ++ (scan next).1, (scan next).2) := by
  fun_induction scan text generalizing tokens with
  | case1 =>
    cases scanned
    exact ⟨[], rfl, fun next _ => rfl⟩
  | case2 c rest blank ih =>
    obtain ⟨before, rfl, again⟩ := ih scanned
    refine ⟨c :: before, rfl, fun next ends => ?_⟩
    rw [List.cons_append, scan_blank blank, again next ends]
  | case3 =>
    cases scanned
    exact ⟨[], rfl, fun next _ => rfl⟩
  | case4 c rest notBlank token rest' read more stop others ih =>
    cases scanned
    obtain ⟨before, rfl, again⟩ := ih others
    obtain ⟨used, whole, readAgain⟩ := read?_local read
    obtain ⟨used, rfl⟩ := eq_cons_of_shorter whole (length_read? read)
    refine ⟨c :: used ++ before, ?_, fun next ends => ?_⟩
    · rw [whole, List.append_assoc]
    · -- The token is followed by what the later scan passes, so only at the end by the other text.
      have taken : read? (c :: (used ++ (before ++ next))) = some (token, before ++ next) :=
        readAgain _ (Alike.append ends before stop)
      rw [List.append_assoc, List.cons_append, scan_token notBlank taken, again next ends]
      rfl

/-- A text that is scanned to its end is scanned alike before any text that makes no token longer. -/
theorem scan_append_of_ends {text next : List Char} {tokens : List Token}
    (scanned : scan text = (tokens, [])) (ends : ∀ c ∈ next.head?, endsTokens c = true) :
    scan (text ++ next) = (tokens ++ (scan next).1, (scan next).2) := by
  obtain ⟨before, whole, again⟩ := scan_local scanned
  rw [List.append_nil] at whole
  rw [whole, again next ends]

theorem scan_append {text : List Char} {tokens : List Token} (scanned : scan text = (tokens, []))
    (next : List Char) :
    scan (text ++ ')' :: next) = (tokens ++ .closeParen :: (scan next).1, (scan next).2) := by
  have closed : scan (')' :: next) = (.closeParen :: (scan next).1, (scan next).2) :=
    scan_token (by decide) rfl
  have ends : ∀ c ∈ (')' :: next).head?, endsTokens c = true := by
    rintro c ⟨⟩
    decide
  rw [scan_append_of_ends scanned ends, closed]

theorem scan_openParen (text : List Char) :
    scan ('(' :: text) = (.openParen :: (scan text).1, (scan text).2) :=
  scan_token (by decide) rfl

end Token

/-- A condition that compiles under any mode of scanning compiles alike under the permissive one. -/
theorem Condition.ofText_permissive {strict : Bool} {text : String} {condition : Condition}
    (compiled : ofText strict text = .ok condition) : ofText false text = .ok condition := by
  obtain ⟨tokens, scanned, assembled⟩ := bind_eq_ok_iff.1 compiled
  exact bind_eq_ok_iff.2 ⟨tokens, Token.ofText_permissive scanned, assembled⟩

end DocumentStore
