import DocumentStore.Json.Reading

/-!
# Reading the lexemes of a value

The lexemes of a value are read as the value again, as long as it is not nested too deeply, and are
refused otherwise. Only a numeral is read as a number.
-/

namespace DocumentStore.Json

mutual

/-- The lexemes of a value. -/
def lexemes : Json → List Lexeme
  | .null => [.null]
  | .bool b => [.bool b]
  | .number n => [.number (some n)]
  | .string s => [.string (some s)]
  | .array [] => [.openArray, .closeArray]
  | .array (item :: rest) => .openArray :: (lexemes item ++ furtherItems rest)
  | .object [] => [.openObject, .closeObject]
  | .object ((name, value) :: rest) =>
    .openObject :: .string (some name) :: .colon :: (lexemes value ++ furtherFields rest)

/-- The lexemes of the further items of an array and of its end. -/
def furtherItems : List Json → List Lexeme
  | [] => [.closeArray]
  | item :: rest => .comma :: (lexemes item ++ furtherItems rest)

/-- The lexemes of the further fields of an object and of its end. -/
def furtherFields : List (String × Json) → List Lexeme
  | [] => [.closeObject]
  | (name, value) :: rest =>
    .comma :: .string (some name) :: .colon :: (lexemes value ++ furtherFields rest)

end

variable {ignored : String → Bool}

theorem mayOpen_of_lt {around : List Frame} (room : around.length < maxDepth) :
    Reading.mayOpen ignored around = true := by
  simp [Reading.mayOpen, room]

/-- The first lexeme of a value does not end the array that the value begins. -/
theorem foldlM_atFirstItem (item : Json) (rest : List Lexeme) (around : List Frame) :
    (item.lexemes ++ rest).foldlM (Reading.step ignored) (.atFirstItem around) =
      (item.lexemes ++ rest).foldlM (Reading.step ignored) (.atValue (.array [] :: around)) := by
  cases item with
  | null | bool | number | string => rfl
  | array items => cases items <;> rfl
  | object fields => cases fields <;> rfl

theorem foldlM_cons {state next : Reading} {lexeme : Lexeme}
    (stepped : Reading.step ignored state lexeme = some next) (rest : List Lexeme) :
    (lexeme :: rest).foldlM (Reading.step ignored) state =
      rest.foldlM (Reading.step ignored) next := by
  rw [List.foldlM_cons, stepped]
  rfl

theorem step_openArray {around : List Frame} (room : around.length < maxDepth) :
    Reading.step ignored (.atValue around) .openArray = some (.atFirstItem around) := by
  simp [Reading.step, Reading.startValue, mayOpen_of_lt room]

theorem step_openObject {around : List Frame} (room : around.length < maxDepth) :
    Reading.step ignored (.atValue around) .openObject = some (.atName [] true around) := by
  simp [Reading.step, Reading.startValue, mayOpen_of_lt room]

theorem foldlM_member (fields : List (String × Json)) (isFirst : Bool) (name : String)
    (rest : List Lexeme) (around : List Frame) :
    (.string (some name) :: .colon :: rest).foldlM (Reading.step ignored)
        (.atName fields isFirst around) =
      rest.foldlM (Reading.step ignored) (.atValue (.object fields name :: around)) := by
  cases isFirst <;> rfl

mutual

theorem foldlM_lexemes : ∀ (value : Json) (around : List Frame) (rest : List Lexeme),
    around.length + value.depth ≤ maxDepth →
    (value.lexemes ++ rest).foldlM (Reading.step ignored) (.atValue around) =
      rest.foldlM (Reading.step ignored) (Reading.complete value around)
  | .null, around, rest, _ => rfl
  | .bool b, around, rest, _ => rfl
  | .number n, around, rest, _ => rfl
  | .string s, around, rest, _ => rfl
  | .array [], around, rest, fits => by
    have room : around.length < maxDepth := by simp [depth] at fits; omega
    exact foldlM_cons (step_openArray room) _
  | .array (item :: items), around, rest, fits => by
    simp only [depth, depthOfItems] at fits
    have room : around.length < maxDepth := by omega
    rw [lexemes, List.cons_append, List.append_assoc, foldlM_cons (step_openArray room),
      foldlM_atFirstItem, foldlM_lexemes item _ _ (by simp only [List.length_cons]; omega)]
    exact foldlM_furtherItems items [item] around rest (by omega)
  | .object [], around, rest, fits => by
    have room : around.length < maxDepth := by simp [depth] at fits; omega
    exact foldlM_cons (step_openObject room) _
  | .object ((name, value) :: fields), around, rest, fits => by
    simp only [depth, depthOfFields] at fits
    have room : around.length < maxDepth := by omega
    simp only [lexemes, List.cons_append, List.append_assoc]
    rw [foldlM_cons (step_openObject room), foldlM_member,
      foldlM_lexemes value _ _ (by simp only [List.length_cons]; omega)]
    exact foldlM_furtherFields fields [(name, value)] around rest (by omega)

theorem foldlM_furtherItems : ∀ (items before : List Json) (around : List Frame)
    (rest : List Lexeme), around.length + 1 + depthOfItems items ≤ maxDepth →
    (furtherItems items ++ rest).foldlM (Reading.step ignored) (.afterItem before around) =
      rest.foldlM (Reading.step ignored)
        (Reading.complete (.array (before.reverse ++ items)) around)
  | [], before, around, rest, _ => by
    rw [List.append_nil]
    rfl
  | item :: items, before, around, rest, fits => by
    simp only [depthOfItems] at fits
    have comma : Reading.step ignored (.afterItem before around) .comma =
      some (.atValue (.array before :: around)) := rfl
    rw [furtherItems, List.cons_append, List.append_assoc, foldlM_cons comma,
      foldlM_lexemes item _ _ (by simp only [List.length_cons]; omega)]
    have further := foldlM_furtherItems items (item :: before) around rest (by omega)
    rw [List.reverse_cons, List.append_assoc] at further
    exact further

theorem foldlM_furtherFields : ∀ (fields before : List (String × Json)) (around : List Frame)
    (rest : List Lexeme), around.length + 1 + depthOfFields fields ≤ maxDepth →
    (furtherFields fields ++ rest).foldlM (Reading.step ignored) (.afterMember before around) =
      rest.foldlM (Reading.step ignored)
        (Reading.complete (.object (before.reverse ++ fields)) around)
  | [], before, around, rest, _ => by
    rw [List.append_nil]
    rfl
  | (name, value) :: fields, before, around, rest, fits => by
    simp only [depthOfFields] at fits
    have comma : Reading.step ignored (.afterMember before around) .comma =
      some (.atName before false around) := rfl
    simp only [furtherFields, List.cons_append, List.append_assoc]
    rw [foldlM_cons comma, foldlM_member,
      foldlM_lexemes value _ _ (by simp only [List.length_cons]; omega)]
    have further := foldlM_furtherFields fields ((name, value) :: before) around rest (by omega)
    rw [List.reverse_cons, List.append_assoc] at further
    exact further

end

/-- The lexemes of a value that is not nested too deeply are read as the value. -/
theorem ofLexemes?_lexemes {value : Json} (fits : value.depth ≤ maxDepth) :
    ofLexemes? ignored value.lexemes = some value := by
  have read := @foldlM_lexemes ignored value [] [] (by simpa using fits)
  rw [List.append_nil] at read
  rw [ofLexemes?, read]
  rfl

theorem read?_of_lexemes {text : List Char} {value : Json}
    (cut : Lexeme.readAll? text = some value.lexemes) (fits : value.depth ≤ maxDepth) :
    read? text = some value := by
  rw [read?, readIgnoring?, cut]
  exact ofLexemes?_lexemes fits

/-! ## Values that are nested too deeply -/

theorem foldlM_cons_of_none {state : Reading} {lexeme : Lexeme}
    (refused : Reading.step ignored state lexeme = none) (rest : List Lexeme) :
    (lexeme :: rest).foldlM (Reading.step ignored) state = none := by
  rw [List.foldlM_cons, refused]
  rfl

theorem step_open_of_full {around : List Frame} (full : ¬ around.length < maxDepth)
    {lexeme : Lexeme} (opens : lexeme = .openArray ∨ lexeme = .openObject) :
    Reading.step (fun _ => false) (.atValue around) lexeme = none := by
  have closed : Reading.mayOpen (fun _ => false) around = false := by
    simp only [Reading.mayOpen, Reading.isIgnored, full, decide_false, Bool.false_or]
    split <;> rfl
  rcases opens with rfl | rfl <;> simp [Reading.step, Reading.startValue, closed]

mutual

/-- No value is read in which more arrays and objects are open at once than may be. -/
theorem foldlM_lexemes_of_deep : ∀ (value : Json) (around : List Frame) (rest : List Lexeme),
    around.length ≤ maxDepth → maxDepth < around.length + value.depth →
    (value.lexemes ++ rest).foldlM (Reading.step fun _ => false) (.atValue around) = none
  | .null, _, _, room, deep | .bool _, _, _, room, deep | .number _, _, _, room, deep
  | .string _, _, _, room, deep => absurd room (Nat.not_le.2 deep)
  | .array [], around, rest, _, deep => by
    have full : ¬ around.length < maxDepth := by simp [depth, depthOfItems] at deep; omega
    exact foldlM_cons_of_none (step_open_of_full full (.inl rfl)) _
  | .array (item :: items), around, rest, _, deep => by
    simp only [depth, depthOfItems] at deep
    by_cases full : ¬ around.length < maxDepth
    · exact foldlM_cons_of_none (step_open_of_full full (.inl rfl)) _
    have room : around.length < maxDepth := Classical.not_not.1 full
    rw [lexemes, List.cons_append, List.append_assoc, foldlM_cons (step_openArray room),
      foldlM_atFirstItem]
    by_cases here : maxDepth < around.length + 1 + item.depth
    · exact foldlM_lexemes_of_deep item _ _ room here
    · rw [foldlM_lexemes item _ _ (by simp only [List.length_cons]; omega)]
      exact foldlM_furtherItems_of_deep items [item] around rest room (by omega)
  | .object [], around, rest, _, deep => by
    have full : ¬ around.length < maxDepth := by simp [depth, depthOfFields] at deep; omega
    exact foldlM_cons_of_none (step_open_of_full full (.inr rfl)) _
  | .object ((name, value) :: fields), around, rest, _, deep => by
    simp only [depth, depthOfFields] at deep
    by_cases full : ¬ around.length < maxDepth
    · exact foldlM_cons_of_none (step_open_of_full full (.inr rfl)) _
    have room : around.length < maxDepth := Classical.not_not.1 full
    simp only [lexemes, List.cons_append, List.append_assoc]
    rw [foldlM_cons (step_openObject room), foldlM_member]
    by_cases here : maxDepth < around.length + 1 + value.depth
    · exact foldlM_lexemes_of_deep value _ _ room here
    · rw [foldlM_lexemes value _ _ (by simp only [List.length_cons]; omega)]
      exact foldlM_furtherFields_of_deep fields [(name, value)] around rest room (by omega)

theorem foldlM_furtherItems_of_deep : ∀ (items before : List Json) (around : List Frame)
    (rest : List Lexeme), around.length < maxDepth →
    maxDepth < around.length + 1 + depthOfItems items →
    (furtherItems items ++ rest).foldlM (Reading.step fun _ => false)
      (.afterItem before around) = none
  | [], _, _, _, room, deep => absurd room (Nat.not_lt.2 (Nat.le_of_lt_succ deep))
  | item :: items, before, around, rest, room, deep => by
    simp only [depthOfItems] at deep
    have comma : Reading.step (fun _ => false) (.afterItem before around) .comma =
      some (.atValue (.array before :: around)) := rfl
    rw [furtherItems, List.cons_append, List.append_assoc, foldlM_cons comma]
    by_cases here : maxDepth < around.length + 1 + item.depth
    · exact foldlM_lexemes_of_deep item _ _ room here
    · rw [foldlM_lexemes item _ _ (by simp only [List.length_cons]; omega)]
      exact foldlM_furtherItems_of_deep items (item :: before) around rest room (by omega)

theorem foldlM_furtherFields_of_deep : ∀ (fields before : List (String × Json))
    (around : List Frame) (rest : List Lexeme), around.length < maxDepth →
    maxDepth < around.length + 1 + depthOfFields fields →
    (furtherFields fields ++ rest).foldlM (Reading.step fun _ => false)
      (.afterMember before around) = none
  | [], _, _, _, room, deep => absurd room (Nat.not_lt.2 (Nat.le_of_lt_succ deep))
  | (name, value) :: fields, before, around, rest, room, deep => by
    simp only [depthOfFields] at deep
    have comma : Reading.step (fun _ => false) (.afterMember before around) .comma =
      some (.atName before false around) := rfl
    simp only [furtherFields, List.cons_append, List.append_assoc]
    rw [foldlM_cons comma, foldlM_member]
    by_cases here : maxDepth < around.length + 1 + value.depth
    · exact foldlM_lexemes_of_deep value _ _ room here
    · rw [foldlM_lexemes value _ _ (by simp only [List.length_cons]; omega)]
      exact foldlM_furtherFields_of_deep fields ((name, value) :: before) around rest room
        (by omega)

end

/-- The lexemes of a value that is nested too deeply are refused. -/
theorem ofLexemes?_of_deep {value : Json} (deep : maxDepth < value.depth) :
    ofLexemes? (fun _ => false) value.lexemes = none := by
  have refused := foldlM_lexemes_of_deep value [] [] (Nat.zero_le _) (by simpa using deep)
  rw [List.append_nil] at refused
  rw [ofLexemes?, refused]
  rfl

/-! ## Reading a number -/

/-- What is read is an array or object, or belongs to one. -/
def Reading.Nested : Reading → Prop
  | .atValue around => around ≠ []
  | .done value => ∀ n, value ≠ .number n
  | _ => True

theorem nested_complete {value : Json} {around : List Frame}
    (nested : around ≠ [] ∨ ∀ n, value ≠ .number n) : (Reading.complete value around).Nested := by
  cases around with
  | nil => exact nested.resolve_left fun notNil => notNil rfl
  | cons frame around => cases frame <;> trivial

theorem nested_startValue {around : List Frame} {lexeme : Lexeme} {next : Reading}
    (nested : around ≠ []) (started : Reading.startValue ignored around lexeme = some next) :
    next.Nested := by
  cases lexeme with
  | null | bool b =>
    cases started
    exact nested_complete (.inl nested)
  | number x? | string x? =>
    cases x? with
    | some x =>
      cases started
      exact nested_complete (.inl nested)
    | none =>
      obtain ⟨-, same⟩ := Option.ite_none_right_eq_some.1 started
      cases same
      exact nested_complete (.inl nested)
  | openArray | openObject =>
    obtain ⟨-, same⟩ := Option.ite_none_right_eq_some.1 started
    cases same
    trivial
  | closeArray | closeObject | comma | colon => cases started

theorem nested_step {state next : Reading} {lexeme : Lexeme} (nested : state.Nested)
    (stepped : Reading.step ignored state lexeme = some next) : next.Nested := by
  unfold Reading.step at stepped
  split at stepped
  case h_1 => exact nested_startValue nested stepped
  case h_3 => exact nested_startValue (List.cons_ne_nil _ _) stepped
  case h_2 | h_4 | h_9 | h_11 =>
    cases stepped
    exact nested_complete (.inr nofun)
  case h_5 | h_10 =>
    cases stepped
    trivial
  case h_6 =>
    obtain ⟨-, same⟩ := Option.ite_none_right_eq_some.1 stepped
    cases same
    trivial
  case h_7 | h_8 =>
    cases stepped
    exact List.cons_ne_nil _ _
  case h_12 => cases stepped

theorem nested_foldlM {state last : Reading} {lexemes : List Lexeme} (nested : state.Nested)
    (read : lexemes.foldlM (Reading.step ignored) state = some last) : last.Nested := by
  induction lexemes generalizing state with
  | nil =>
    cases read
    exact nested
  | cons lexeme rest ih =>
    rw [List.foldlM_cons] at read
    obtain ⟨next, stepped, read⟩ := Option.bind_eq_some_iff.1 read
    exact ih (nested_step nested stepped) read

/-- Nothing may follow a complete value. -/
theorem foldlM_done {value : Json} {last : Reading} {lexemes : List Lexeme}
    (read : lexemes.foldlM (Reading.step ignored) (.done value) = some last) :
    lexemes = [] ∧ last = .done value := by
  cases lexemes with
  | nil =>
    cases read
    exact ⟨rfl, rfl⟩
  | cons lexeme rest =>
    rw [List.foldlM_cons] at read
    obtain ⟨next, stepped, -⟩ := Option.bind_eq_some_iff.1 read
    cases stepped

/-- Only a numeral is read as a number. -/
theorem eq_numeral_of_ofLexemes? {lexemes : List Lexeme} {n : Number}
    (read : ofLexemes? ignored lexemes = some (.number n)) : lexemes = [.number (some n)] := by
  obtain ⟨last, read, complete⟩ := Option.bind_eq_some_iff.1 read
  obtain rfl : last = .done (.number n) := by
    unfold Reading.result? at complete
    split at complete
    · cases complete
      rfl
    · cases complete
  cases lexemes with
  | nil => cases read
  | cons first rest =>
    rw [List.foldlM_cons] at read
    obtain ⟨next, started, read⟩ := Option.bind_eq_some_iff.1 read
    have notNested : ¬ next.Nested := fun nested => nested_foldlM nested read n rfl
    cases first with
    | null | bool b =>
      cases started
      exact absurd nofun notNested
    | number n? =>
      cases n? with
      | some m =>
        cases started
        obtain ⟨rfl, same⟩ := foldlM_done read
        cases same
        rfl
      | none => cases started
    | string s? =>
      cases s? with
      | some s =>
        cases started
        exact absurd nofun notNested
      | none => cases started
    | openArray | openObject =>
      cases started
      exact absurd trivial notNested
    | closeArray | closeObject | comma | colon => cases started

end DocumentStore.Json
