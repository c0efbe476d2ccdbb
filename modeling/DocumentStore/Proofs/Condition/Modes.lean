import DocumentStore.Proofs.Condition.Scanning

/-!
# Strict and permissive scanning

Permissive scanning goes through the whole text and passes over each character at which no token
begins. Strict scanning does the same up to the first of these characters, and refuses it. So a text
that strict scanning refuses can be cut at this character: what stands before it is accepted, and
its tokens come first among those that permissive scanning finds in the whole text.
-/

namespace DocumentStore

namespace Token

/-- The tokens of a text that is gone through to its end: each character is a blank, belongs to a
token or is passed over because no token begins at it. -/
inductive Passed : List Char → List Token → Prop
  | done : Passed [] []
  | blank {c : Char} {rest : List Char} {tokens : List Token} :
    Text.isBlank c = true → Passed rest tokens → Passed (c :: rest) tokens
  | token {c : Char} {text rest : List Char} {token : Token} {tokens : List Token} :
    ¬ Text.isBlank c = true → read? (c :: text) = some (token, rest) → Passed rest tokens →
    Passed (c :: text) (token :: tokens)
  | skipped {c : Char} {rest : List Char} {tokens : List Token} :
    ¬ Text.isBlank c = true → read? (c :: rest) = none → Passed rest tokens →
    Passed (c :: rest) tokens

theorem scan_stop {c : Char} {rest : List Char} (notBlank : ¬ Text.isBlank c = true)
    (missing : read? (c :: rest) = none) : scan (c :: rest) = ([], c :: rest) := by
  rw [scan.eq_def]
  dsimp only
  rw [if_neg notBlank]
  split
  · rfl
  · rename_i found
    rw [missing] at found
    cases found

/-- Permissive scanning goes on after the character at which a scan stops. -/
theorem scanAll_eq (text : List Char) :
    scanAll text = (scan text).1 ++
      match (scan text).2 with
      | [] => []
      | _ :: rest => scanAll rest := by
  rw [scanAll]
  split
  · rename_i scanned
    rw [scanned, List.append_nil]
  · rename_i scanned
    rw [scanned]

theorem passed_scanAll (text : List Char) : Passed text (scanAll text) := by
  -- By induction on the length: each case goes on with what is left, which is shorter.
  induction length : text.length using Nat.strongRecOn generalizing text with
  | ind n ih =>
    cases text with
    | nil =>
      rw [scanAll_of_scan scan_nil]
      exact .done
    | cons c rest =>
      rw [scanAll_eq]
      by_cases blank : Text.isBlank c = true
      · rw [scan_blank blank, ← scanAll_eq]
        exact .blank blank (ih _ (by simp [← length]) rest rfl)
      · cases read : read? (c :: rest) with
        | none =>
          rw [scan_stop blank read]
          exact .skipped blank read (ih _ (by simp [← length]) rest rfl)
        | some found =>
          obtain ⟨token, rest'⟩ := found
          rw [scan_token blank read]
          dsimp only
          rw [List.cons_append, ← scanAll_eq]
          exact .token blank read (ih _ (length ▸ length_read? read) rest' rfl)

/-- A scan that stops has passed a text that strict scanning accepts. -/
theorem scanStrict_of_stop {text stop : List Char} {tokens : List Token}
    (scanned : scan text = (tokens, stop)) :
    ∃ before, text = before ++ stop ∧ scanStrict before = .ok tokens := by
  obtain ⟨before, whole, again⟩ := scan_local scanned
  have passed := again [] nofun
  rw [scan_nil, List.append_nil, List.append_nil] at passed
  exact ⟨before, whole, scanStrict_eq_ok_iff.2 passed⟩

/-- A text that strict scanning refuses, cut at the character that it refuses. -/
theorem scan_of_refused {text stop : List Char} {c : Char} {tokens : List Token}
    (scanned : scan text = (tokens, c :: stop)) :
    ∃ before, text = before ++ c :: stop ∧ scanStrict before = .ok tokens ∧
      scanStrict text = .error (.unexpectedCharacter c (Text.byteLength before)) ∧
      scanAll text = tokens ++ scanAll stop := by
  obtain ⟨before, rfl, accepted⟩ := scanStrict_of_stop scanned
  refine ⟨before, rfl, accepted, ?_, ?_⟩
  · rw [scanStrict, scanned]
    dsimp only
    rw [Text.byteLength_append, Nat.add_sub_cancel]
  · rw [scanAll_eq, scanned]

/-- A text that strict scanning accepts has the same tokens under permissive scanning. Any other
text has a first character `c` at which no token begins, with the bytes of the text before it as its
position: strict scanning refuses `c`, and accepts the text before it; permissive scanning finds the
tokens of that text and then those of the text after `c`. In any case permissive scanning goes
through to the end. -/
theorem ofText_strict_permissive (text : String) :
    ((∃ tokens, ofText true text = .ok tokens ∧ ofText false text = .ok tokens) ∨
      ∃ before c after tokens others, text = before ++ String.singleton c ++ after ∧
        ofText true text = .error (.unexpectedCharacter c before.utf8ByteSize) ∧
        ofText true before = .ok tokens ∧ ofText false after = .ok others ∧
        ofText false text = .ok (tokens ++ others)) ∧
    ∃ tokens, ofText false text = .ok tokens ∧ Passed text.toList tokens := by
  refine ⟨?_, _, rfl, passed_scanAll text.toList⟩
  rcases scanned : scan text.toList with ⟨tokens, _ | ⟨c, after⟩⟩
  · exact .inl ⟨tokens, ofText_of_scan scanned true, ofText_of_scan scanned false⟩
  · obtain ⟨before, whole, accepted, refused, permissive⟩ := scan_of_refused scanned
    refine .inr ⟨String.ofList before, c, String.ofList after, tokens, scanAll after, ?_, ?_, ?_, ?_,
      congrArg Except.ok permissive⟩
    · rw [String.singleton_eq_ofList, ← String.ofList_append, ← String.ofList_append,
        List.append_assoc, List.singleton_append, ← whole, String.ofList_toList]
    · rw [← Text.byteLength_eq]
      exact refused
    · change scanStrict _ = _
      rw [String.toList_ofList, accepted]
    · change Except.ok (scanAll _) = _
      rw [String.toList_ofList]

end Token

end DocumentStore
