import DocumentStore.Proofs.Condition.Modes
import DocumentStore.Proofs.Text.Words

/-!
# Blanks around a condition

The blanks before and after a condition are no part of it: under both modes of scanning a text has
the tokens of what is left of it by trimming. A character at which no token begins stays one when
blanks follow the text, for no token can end in a blank.
-/

namespace DocumentStore.Token

open Text

variable {blanks : List Char} (all : ∀ c ∈ blanks, isBlank c = true)

theorem endsTokens_of_isBlank {c : Char} (blank : isBlank c = true) : endsTokens c = true := by
  have notEquals : c ≠ '=' := by
    rintro rfl
    exact absurd blank (by decide)
  have notPoint : c ≠ '.' := by
    rintro rfl
    exact absurd blank (by decide)
  simp [endsTokens, isWordPart_of_isBlank blank, notEquals, notPoint]

theorem readQuoted?_eq_none_iff {text : List Char} :
    readQuoted? text = none ↔
      ∀ rest, text.dropWhile (fun c => !endsQuoted c) ≠ '"' :: rest := by
  unfold readQuoted?
  split
  · rename_i rest ends
    simp [ends]
  · rename_i other
    simpa using other

include all

theorem alike_append_blanks (text : List Char) : Alike text (text ++ blanks) := by
  have ends : ∀ c ∈ blanks.head?, endsTokens c = true := fun c first =>
    endsTokens_of_isBlank (all c (List.mem_of_mem_head? first))
  have alike := Alike.append ends text []
  rwa [List.append_nil] at alike

theorem readQuoted?_append_of_none {text : List Char} (missing : readQuoted? text = none) :
    readQuoted? (text ++ blanks) = none := by
  rw [readQuoted?_eq_none_iff] at missing ⊢
  intro rest ends
  rw [List.dropWhile_append] at ends
  split at ends
  · -- The text has no end of a quoted text, and among the blanks there is no quote.
    have member : '"' ∈ blanks :=
      (List.dropWhile_sublist _).subset (ends ▸ List.mem_cons_self)
    exact absurd (all '"' member) (by decide)
  · rename_i notEmpty
    cases stop : text.dropWhile fun c => !endsQuoted c with
    | nil => exact absurd (by simp [stop]) notEmpty
    | cons c more =>
      rw [stop, List.cons_append] at ends
      obtain ⟨rfl, -⟩ := List.cons.inj ends
      exact missing more stop

theorem read?_append_of_none {c : Char} {text : List Char} (missing : read? (c :: text) = none) :
    read? (c :: (text ++ blanks)) = none := by
  unfold read? at missing
  split at missing
  case h_9 same =>
    cases same
    exact readQuoted?_append_of_none all missing
  case h_10 notNe notGe notLe notEq notGt notLt notOpen notClose notQuote same =>
    cases same
    have notNe' : ∀ rest, c = '!' → text ++ blanks = '=' :: rest → False := by
      intro rest mark goesOn
      cases text with
      | nil =>
        have member : '=' ∈ blanks := by
          rw [List.nil_append] at goesOn
          simp [goesOn]
        exact absurd (all '=' member) (by decide)
      | cons d more => exact notNe more mark (congrArg (· :: more) (List.cons.inj goesOn).1)
    rw [read?]
    case x_1 => exact notNe'
    case x_2 => exact fun _ mark _ => notGt mark
    case x_3 => exact fun _ mark _ => notLt mark
    case x_4 => exact notEq
    case x_5 => exact notGt
    case x_6 => exact notLt
    case x_7 => exact notOpen
    case x_8 => exact notClose
    case x_9 => exact notQuote
    split at missing
    · cases missing
    · rename_i notStart
      split at missing
      · cases missing
      · rename_i notDigit
        simp [notStart, notDigit]
  case h_11 same => cases same
  all_goals cases missing

/-- A token is read alike if blanks follow the text, and so is a character that begins none. -/
theorem read?_append_blanks (c : Char) (text : List Char) :
    read? (c :: (text ++ blanks)) =
      (read? (c :: text)).map fun found => (found.1, found.2 ++ blanks) := by
  cases read : read? (c :: text) with
  | none => exact read?_append_of_none all read
  | some found =>
    obtain ⟨token, rest⟩ := found
    obtain ⟨used, whole, again⟩ := read?_local read
    rw [← List.cons_append, whole, List.append_assoc, again _ (alike_append_blanks all rest)]
    rfl

theorem scan_blanks_append (text : List Char) : scan (blanks ++ text) = scan text := by
  induction blanks with
  | nil => rfl
  | cons c rest ih =>
    rw [List.cons_append, scan_blank (all c List.mem_cons_self)]
    exact ih fun d inside => all d (List.mem_cons_of_mem c inside)

/-- A scan goes on to the end through blanks, unless it has stopped before them. -/
theorem scan_append_blanks (text : List Char) :
    scan (text ++ blanks) =
      ((scan text).1, if (scan text).2.isEmpty then [] else (scan text).2 ++ blanks) := by
  fun_induction scan text with
  | case1 =>
    have passed := scan_blanks_append all []
    rw [List.append_nil, scan_nil] at passed
    exact passed
  | case2 c rest blank ih =>
    rw [List.cons_append, scan_blank blank]
    exact ih
  | case3 c rest notBlank missing =>
    have stays : read? (c :: (rest ++ blanks)) = none := read?_append_of_none all missing
    rw [List.cons_append, scan_stop notBlank stays]
    rfl
  | case4 c rest notBlank token rest' read tokens stop others ih =>
    have again : read? (c :: (rest ++ blanks)) = some (token, rest' ++ blanks) := by
      rw [read?_append_blanks all, read]
      rfl
    rw [List.cons_append, scan_token notBlank again, ih, others]

theorem scanAll_append_blanks (text : List Char) : scanAll (text ++ blanks) = scanAll text := by
  -- By induction on the length: after the character at which a scan stops less is left.
  induction length : text.length using Nat.strongRecOn generalizing text with
  | ind n ih =>
    have followed := scan_append_blanks all text
    have shorter := length_scan_le text
    rw [scanAll_eq, scanAll_eq text]
    rcases scanned : scan text with ⟨tokens, _ | ⟨c, stop⟩⟩
    · rw [scanned] at followed
      rw [followed]
      rfl
    · rw [scanned] at followed shorter
      rw [followed]
      have tail := ih stop.length (by simp only [List.length_cons] at shorter; omega) stop rfl
      exact congrArg (tokens ++ ·) tail

omit all

/-- A text is scanned to the same tokens whether or not it is trimmed before, or refused in both
cases. -/
theorem ofText_trim {strict : Bool} {text : String} {tokens : List Token} :
    ofText strict (String.ofList (trim text.toList)) = .ok tokens ↔
      ofText strict text = .ok tokens := by
  obtain ⟨before, after, whole, allBefore, allAfter⟩ := exists_trim text.toList
  have followed := scan_append_blanks allAfter (trim text.toList)
  have scanned : scan text.toList = scan (trim text.toList ++ after) := by
    conv => lhs; rw [whole]
    exact scan_blanks_append allBefore _
  cases strict with
  | true =>
    change scanStrict _ = _ ↔ scanStrict _ = _
    rw [String.toList_ofList, scanStrict_eq_ok_iff, scanStrict_eq_ok_iff, scanned, followed]
    rcases scan (trim text.toList) with ⟨found, _ | ⟨c, stop⟩⟩
    · simp
    · simp
  | false =>
    have same : scanAll text.toList = scanAll (trim text.toList) := by
      rw [scanAll_eq, scanned, ← scanAll_eq]
      exact scanAll_append_blanks allAfter _
    change Except.ok (scanAll _) = _ ↔ Except.ok (scanAll _) = _
    rw [String.toList_ofList, same]

end DocumentStore.Token
