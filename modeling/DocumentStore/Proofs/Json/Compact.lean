import DocumentStore.Proofs.Json.RoundTrip

/-!
# Reading what was written compactly

The compact text of a value is cut into the same lexemes as its text in lines. So it is read as long
as the value is not nested too deeply, each number as what its own text is read as.
-/

namespace DocumentStore.Json

theorem ends_compactItems (items : List Json) (next : List Char) :
    Numeral.Ends (compactItems false items next) := by
  cases items with
  | nil => exact ends_of_mark (by decide) _
  | cons item rest => exact ends_of_mark (by decide) _

theorem ends_compactFields (fields : List (String × Json)) (next : List Char) :
    Numeral.Ends (compactFields false fields next) := by
  cases fields with
  | nil => exact ends_of_mark (by decide) _
  | cons field rest => exact ends_of_mark (by decide) _

/-- The name of a field and its colon. -/
theorem readAll?_compactName (name : String) (next : List Char) :
    Lexeme.readAll? (writeString name ++ ':' :: next) =
      (Lexeme.readAll? next).map fun more => .string (some name) :: .colon :: more := by
  rw [Lexeme.readAll?_writeString, Lexeme.readAll?_lexeme rfl rfl, Option.map_map]
  rfl

mutual

theorem readAll?_compact : ∀ (value : Json) (next : List Char),
    (∀ n ∈ value.numbers, n.Readable) → Numeral.Ends next →
    Lexeme.readAll? (compact value next) =
      (Lexeme.readAll? next).map (value.reread.lexemes ++ ·)
  | .null, next, _, _ => Lexeme.readAll?_nullWord next
  | .bool b, next, _, _ => Lexeme.readAll?_boolWord b next
  | .number n, next, readable, ends =>
    Number.readAll?_append (readable n (List.mem_singleton_self n)) ends
  | .string s, next, _, _ => Lexeme.readAll?_writeString s next
  | .array [], next, _, _ => by
    rw [compact, compactItems, Lexeme.readAll?_lexeme rfl rfl, Lexeme.readAll?_lexeme rfl rfl,
      Option.map_map]
    rfl
  | .array (item :: rest), next, readable, _ => by
    obtain ⟨first, others⟩ := List.forall_mem_append.1 readable
    rw [compact, compactItems, if_pos rfl, List.nil_append, Lexeme.readAll?_lexeme rfl rfl,
      readAll?_compact item _ first (ends_compactItems rest next),
      readAll?_compactItems rest next others]
    cases Lexeme.readAll? next <;> simp [reread, rereadItems, lexemes]
  | .object [], next, _, _ => by
    rw [compact, compactFields, Lexeme.readAll?_lexeme rfl rfl, Lexeme.readAll?_lexeme rfl rfl,
      Option.map_map]
    rfl
  | .object ((name, value) :: rest), next, readable, _ => by
    obtain ⟨first, others⟩ := List.forall_mem_append.1 readable
    rw [compact, compactFields, if_pos rfl, List.nil_append, Lexeme.readAll?_lexeme rfl rfl,
      readAll?_compactName, readAll?_compact value _ first (ends_compactFields rest next),
      readAll?_compactFields rest next others]
    cases Lexeme.readAll? next <;> simp [reread, rereadFields, lexemes]

theorem readAll?_compactItems : ∀ (items : List Json) (next : List Char),
    (∀ n ∈ numbersOfItems items, n.Readable) →
    Lexeme.readAll? (compactItems false items next) =
      (Lexeme.readAll? next).map (furtherItems (rereadItems items) ++ ·)
  | [], next, _ => Lexeme.readAll?_lexeme rfl rfl
  | item :: rest, next, readable => by
    obtain ⟨first, others⟩ := List.forall_mem_append.1 readable
    rw [compactItems, if_neg Bool.false_ne_true, List.singleton_append,
      Lexeme.readAll?_lexeme rfl rfl, readAll?_compact item _ first (ends_compactItems rest next),
      readAll?_compactItems rest next others]
    cases Lexeme.readAll? next <;> simp [rereadItems, furtherItems]

theorem readAll?_compactFields : ∀ (fields : List (String × Json)) (next : List Char),
    (∀ n ∈ numbersOfFields fields, n.Readable) →
    Lexeme.readAll? (compactFields false fields next) =
      (Lexeme.readAll? next).map (furtherFields (rereadFields fields) ++ ·)
  | [], next, _ => Lexeme.readAll?_lexeme rfl rfl
  | (name, value) :: rest, next, readable => by
    obtain ⟨first, others⟩ := List.forall_mem_append.1 readable
    rw [compactFields, if_neg Bool.false_ne_true, List.singleton_append, List.cons_append,
      Lexeme.readAll?_lexeme rfl rfl, readAll?_compactName,
      readAll?_compact value _ first (ends_compactFields rest next),
      readAll?_compactFields rest next others]
    cases Lexeme.readAll? next <;> simp [rereadFields, furtherFields]

end

/-- Whether the compact text of a value is read depends on its depth alone, if its numbers can be
read. -/
theorem read?_compact {value : Json} (readable : ∀ n ∈ value.numbers, n.Readable) :
    read? (value.compact []) = if value.depth ≤ maxDepth then some value.reread else none := by
  have cut := readAll?_compact value [] readable nofun
  rw [Lexeme.readAll?, Option.map_some, List.append_nil] at cut
  exact read?_of_reread cut

end DocumentStore.Json
