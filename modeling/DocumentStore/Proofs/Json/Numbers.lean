import DocumentStore.Document
import DocumentStore.Proofs.Catalog
import DocumentStore.Proofs.Json.Lexing

/-!
# Numbers in values

A whole number that is read from a text fits 64 bits, signed or unsigned. So does every whole number
in a document, whatever was arranged, stamped and merged to make it: nothing of that adds a number.
-/

namespace DocumentStore

/-- A number is a double, or it is whole and fits 64 bits, signed or unsigned. -/
def Number.Fits : Number → Prop
  | .integer n => -0x8000000000000000 ≤ n ∧ n < 0x10000000000000000
  | .float _ => True

namespace Json

mutual

/-- The numbers in a value. -/
def numbers : Json → List Number
  | .number n => [n]
  | .array items => numbersOfItems items
  | .object fields => numbersOfFields fields
  | _ => []

/-- The numbers in the items of an array. -/
def numbersOfItems : List Json → List Number
  | [] => []
  | item :: rest => numbers item ++ numbersOfItems rest

/-- The numbers in the values of an object. -/
def numbersOfFields : List (String × Json) → List Number
  | [] => []
  | (_, value) :: rest => numbers value ++ numbersOfFields rest

end

theorem mem_numbersOfItems {n : Number} {items : List Json} :
    n ∈ numbersOfItems items ↔ ∃ item ∈ items, n ∈ item.numbers := by
  induction items with
  | nil => simp [numbersOfItems]
  | cons item rest ih => simp [numbersOfItems, ih]

theorem mem_numbersOfFields {n : Number} {fields : List (String × Json)} :
    n ∈ numbersOfFields fields ↔ ∃ field ∈ fields, n ∈ field.2.numbers := by
  induction fields with
  | nil => simp [numbersOfFields]
  | cons field rest ih => simp [numbersOfFields, ih]

theorem numbersOfFields_put {n : Number} {name : String} {value : Json}
    {fields : List (String × Json)} (inside : n ∈ numbersOfFields (Entries.put name value fields)) :
    n ∈ value.numbers ∨ n ∈ numbersOfFields fields := by
  obtain ⟨field, put, inside⟩ := mem_numbersOfFields.1 inside
  rcases Entries.mem_put put with rfl | stood
  · exact .inl inside
  · exact .inr (mem_numbersOfFields.2 ⟨field, stood, inside⟩)

theorem numbersOfFields_foldl_put {n : Number} {fields gathered : List (String × Json)}
    (inside : n ∈ numbersOfFields
      (fields.foldl (fun gathered field => Entries.put field.1 field.2 gathered) gathered)) :
    n ∈ numbersOfFields fields ∨ n ∈ numbersOfFields gathered := by
  induction fields generalizing gathered with
  | nil => exact .inr inside
  | cons field rest ih =>
    rw [numbersOfFields, List.mem_append]
    rcases ih inside with later | earlier
    · exact .inl (.inr later)
    · rcases numbersOfFields_put earlier with here | before
      · exact .inl (.inl here)
      · exact .inr before

mutual

theorem numbers_arrange {n : Number} :
    ∀ {value : Json}, n ∈ value.arrange.numbers → n ∈ value.numbers
  | .array _, inside => numbersOfItems_arrangeItems inside
  | .object fields, inside => by
    rcases numbersOfFields_foldl_put inside with inside | nothing
    · exact numbersOfFields_arrangeValues inside
    · cases nothing
  | .null, inside | .bool _, inside | .number _, inside | .string _, inside => inside

theorem numbersOfItems_arrangeItems {n : Number} :
    ∀ {items : List Json}, n ∈ numbersOfItems (arrangeItems items) → n ∈ numbersOfItems items
  | [], inside => inside
  | item :: rest, inside => by
    rw [arrangeItems, numbersOfItems, List.mem_append] at inside
    rw [numbersOfItems, List.mem_append]
    exact inside.imp numbers_arrange numbersOfItems_arrangeItems

theorem numbersOfFields_arrangeValues {n : Number} : ∀ {fields : List (String × Json)},
    n ∈ numbersOfFields (arrangeValues fields) → n ∈ numbersOfFields fields
  | [], inside => inside
  | (_, value) :: rest, inside => by
    rw [arrangeValues, numbersOfFields, List.mem_append] at inside
    rw [numbersOfFields, List.mem_append]
    exact inside.imp numbers_arrange numbersOfFields_arrangeValues

end

end Json

namespace Document

/-- The numbers in a document. -/
def numbers (document : Document) : List Number := document.toJson.numbers

theorem numbers_ofFields {n : Number} {fields : List (String × Json)}
    (inside : n ∈ (ofFields fields).numbers) : n ∈ Json.numbersOfFields fields := by
  rcases Json.numbersOfFields_foldl_put inside with inside | nothing
  · exact Json.numbersOfFields_arrangeValues inside
  · cases nothing

theorem numbers_set {n : Number} {document : Document} {name value : String}
    (inside : n ∈ (document.set name value).numbers) : n ∈ document.numbers := by
  rcases Json.numbersOfFields_put inside with nothing | inside
  · cases nothing
  · exact inside

theorem numbers_stamped {n : Number} {document : Document} {stamp : Stamp}
    (inside : n ∈ (document.stamped stamp).numbers) : n ∈ document.numbers :=
  numbers_set (numbers_set (numbers_set inside))

theorem numbers_updated {n : Number} {stored changes : Document} {time : String}
    (inside : n ∈ (stored.updated changes time).numbers) :
    n ∈ changes.numbers ∨ n ∈ stored.numbers :=
  Json.numbersOfFields_foldl_put (numbers_set inside)

end Document

theorem Numeral.fits_of_number? {numeral : Numeral} {n : Number}
    (stands : numeral.number? = some n) : n.Fits := by
  unfold number? at stands
  dsimp only at stands
  have double : ∀ {n : Number}, numeral.float?.map Number.float = some n → n.Fits := by
    intro n stands
    obtain ⟨x, -, rfl⟩ := Option.map_eq_some_iff.1 stands
    trivial
  split at stands
  · split at stands
    · rename_i small
      have fits : Decimal.ofDigits numeral.whole < limit := by
        simpa using (Bool.and_eq_true_iff.1 small).2
      rw [limit] at fits
      cases stands
      exact ⟨by omega, by omega⟩
    · split at stands
      · rename_i small
        have fits : 2 * Decimal.ofDigits numeral.whole ≤ limit := by
          simpa using (Bool.and_eq_true_iff.1 small).2
        rw [limit] at fits
        cases stands
        exact ⟨by omega, by omega⟩
      · exact double stands
  · exact double stands

namespace Json

theorem Lexeme.fits_of_readAll? {n : Number} {text : List Char} {lexemes : List Lexeme}
    (cut : readAll? text = some lexemes) (inside : .number (some n) ∈ lexemes) : n.Fits := by
  induction size : text.length using Nat.strong_induction_on generalizing text lexemes with
  | _ size ih =>
    cases text with
    | nil =>
      rw [readAll?] at cut
      cases cut
      cases inside
    | cons c text =>
      by_cases space : isSpace c = true
      · rw [readAll?_space space] at cut
        exact ih text.length (by simp [← size]) cut inside rfl
      · obtain ⟨lexeme, rest, more, found, others, rfl⟩ := readAll?_eq_some space cut
        rcases List.mem_cons.1 inside with rfl | later
        · obtain ⟨numeral, -, stands⟩ := numeral_of_read? found
          exact Numeral.fits_of_number? stands.symm
        · exact ih rest.length (size ▸ length_read? found) others later rfl

/-- The numbers in the contents of an open array or object. -/
def Frame.numbers : Frame → List Number
  | .array items => numbersOfItems items
  | .object fields _ => numbersOfFields fields

namespace Reading

variable {ignored : String → Bool} {n : Number}

/-- The numbers that were read. -/
def numbers : Reading → List Number
  | .atValue around | .atFirstItem around => around.flatMap Frame.numbers
  | .atName fields _ around | .atColon fields _ around | .afterMember fields around =>
    numbersOfFields fields ++ around.flatMap Frame.numbers
  | .afterItem items around => numbersOfItems items ++ around.flatMap Frame.numbers
  | .done value => value.numbers

theorem mem_numbers_complete {value : Json} {around : List Frame} :
    n ∈ (complete value around).numbers ↔
      n ∈ value.numbers ∨ n ∈ around.flatMap Frame.numbers := by
  cases around with
  | nil => simp [complete, numbers]
  | cons frame around =>
    cases frame <;>
      simp [complete, numbers, Frame.numbers, numbersOfItems, numbersOfFields]

theorem numbers_startValue {around : List Frame} {lexeme : Lexeme} {next : Reading}
    (started : startValue ignored around lexeme = some next) (inside : n ∈ next.numbers) :
    n ∈ around.flatMap Frame.numbers ∨ lexeme = .number (some n) := by
  -- Everything but a number is without numbers when it is complete, and so is what is only opened.
  have other : ∀ {value : Json}, value.numbers = [] → next = complete value around →
      n ∈ around.flatMap Frame.numbers := by
    rintro value none rfl
    rw [mem_numbers_complete, none] at inside
    exact inside.resolve_left List.not_mem_nil
  cases lexeme with
  | null | bool b =>
    cases started
    exact .inl (other rfl rfl)
  | number m? =>
    cases m? with
    | some m =>
      cases started
      rcases mem_numbers_complete.1 inside with here | before
      · exact .inr (by rw [List.mem_singleton.1 here])
      · exact .inl before
    | none =>
      obtain ⟨-, same⟩ := Option.ite_none_right_eq_some.1 started
      exact .inl (other rfl (Option.some.inj same.symm))
  | string s? =>
    cases s? with
    | some s =>
      cases started
      exact .inl (other rfl rfl)
    | none =>
      obtain ⟨-, same⟩ := Option.ite_none_right_eq_some.1 started
      exact .inl (other rfl (Option.some.inj same.symm))
  | openArray | openObject =>
    obtain ⟨-, same⟩ := Option.ite_none_right_eq_some.1 started
    cases same
    exact .inl inside
  | closeArray | closeObject | comma | colon => cases started

/-- A lexeme adds no number but the one that it stands for. -/
theorem numbers_step {state next : Reading} {lexeme : Lexeme}
    (stepped : step ignored state lexeme = some next) (inside : n ∈ next.numbers) :
    n ∈ state.numbers ∨ lexeme = .number (some n) := by
  unfold step at stepped
  split at stepped
  case h_1 => exact numbers_startValue stepped inside
  case h_3 => exact @numbers_startValue ignored n (.array [] :: _) _ _ stepped inside
  case h_2 =>
    cases stepped
    exact .inl ((mem_numbers_complete.1 inside).resolve_left List.not_mem_nil)
  case h_4 =>
    cases stepped
    exact .inl (List.mem_append_right _
      ((mem_numbers_complete.1 inside).resolve_left List.not_mem_nil))
  case h_5 | h_7 | h_8 | h_10 =>
    cases stepped
    exact .inl inside
  case h_6 =>
    obtain ⟨-, same⟩ := Option.ite_none_right_eq_some.1 stepped
    cases same
    exact .inl inside
  case h_9 =>
    cases stepped
    refine .inl (List.mem_append.2 ((mem_numbers_complete.1 inside).imp_left fun here => ?_))
    obtain ⟨item, member, here⟩ := mem_numbersOfItems.1 here
    exact mem_numbersOfItems.2 ⟨item, List.mem_reverse.1 member, here⟩
  case h_11 =>
    cases stepped
    refine .inl (List.mem_append.2 ((mem_numbers_complete.1 inside).imp_left fun here => ?_))
    obtain ⟨field, member, here⟩ := mem_numbersOfFields.1 here
    exact mem_numbersOfFields.2 ⟨field, List.mem_reverse.1 member, here⟩
  case h_12 => cases stepped

theorem numbers_foldlM {state last : Reading} {lexemes : List Lexeme}
    (read : lexemes.foldlM (step ignored) state = some last) (inside : n ∈ last.numbers) :
    n ∈ state.numbers ∨ .number (some n) ∈ lexemes := by
  induction lexemes generalizing state with
  | nil =>
    cases read
    exact .inl inside
  | cons lexeme rest ih =>
    rw [List.foldlM_cons] at read
    obtain ⟨next, stepped, read⟩ := Option.bind_eq_some_iff.1 read
    rcases ih read with before | later
    · rcases numbers_step stepped before with before | here
      · exact .inl before
      · exact .inr (here ▸ List.mem_cons_self)
    · exact .inr (List.mem_cons_of_mem _ later)

end Reading

/-- Every number in a value that was read is a double or fits 64 bits. -/
theorem fits_of_read? {text : List Char} {value : Json} (read : read? text = some value)
    {n : Number} (inside : n ∈ value.numbers) : n.Fits := by
  obtain ⟨lexemes, cut, read⟩ := Option.bind_eq_some_iff.1 read
  obtain ⟨last, read, complete⟩ := Option.bind_eq_some_iff.1 read
  cases last with
  | done value' =>
    cases complete
    rcases Reading.numbers_foldlM read inside with nothing | lexeme
    · cases nothing
    · exact Lexeme.fits_of_readAll? cut lexeme
  | atValue | atFirstItem | atName | atColon | afterItem | afterMember => cases complete

end Json

end DocumentStore
