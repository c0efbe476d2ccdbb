import DocumentStore.Proofs.Catalog
import DocumentStore.Proofs.Json.Numbers
import DocumentStore.Proofs.Json.Reading

/-!
# Reading what was written

The text of a value in lines is cut into the lexemes of the value, each number replaced by what its
text is read as. It is read as long as it is not nested too deeply, and it is read as the value itself
if its numbers survive in a text.
-/

namespace DocumentStore

/-- A number is kept by JSON texts: it is whole and fits 64 bits, signed or unsigned, or it is a
double that is read back from its text. -/
def Number.Kept : Number → Prop
  | .integer n => -0x8000000000000000 ≤ n ∧ n < 0x10000000000000000
  | .float x => Json.read? (Json.writeNumber (.float x)) = some (.number (.float x))

namespace Json

mutual

/-- Every number in a value is kept by JSON texts. -/
def NumbersKept : Json → Prop
  | .number n => n.Kept
  | .array items => ItemNumbersKept items
  | .object fields => FieldNumbersKept fields
  | _ => True

/-- Every number in the items of an array is kept. -/
def ItemNumbersKept : List Json → Prop
  | [] => True
  | item :: rest => NumbersKept item ∧ ItemNumbersKept rest

/-- Every number in the fields of an object is kept. -/
def FieldNumbersKept : List (String × Json) → Prop
  | [] => True
  | (_, value) :: rest => NumbersKept value ∧ FieldNumbersKept rest

end

mutual

/-- Arranging leaves a value that is in order as it is. -/
theorem arrange_of_ordered : ∀ {value : Json}, value.Ordered → value.arrange = value
  | .array items, ordered => by rw [arrange, arrangeItems_of_ordered ordered]
  | .object fields, ordered => by
    rw [arrange, arrangeValues_of_ordered ordered.2, Entries.gather_of_ordered ordered.1]
  | .null, _ | .bool _, _ | .number _, _ | .string _, _ => rfl

theorem arrangeItems_of_ordered :
    ∀ {items : List Json}, ItemsOrdered items → arrangeItems items = items
  | [], _ => rfl
  | item :: rest, ordered => by
    rw [arrangeItems, arrange_of_ordered ordered.1, arrangeItems_of_ordered ordered.2]

theorem arrangeValues_of_ordered :
    ∀ {fields : List (String × Json)}, ValuesOrdered fields → arrangeValues fields = fields
  | [], _ => rfl
  | (name, value) :: rest, ordered => by
    rw [arrangeValues, arrange_of_ordered ordered.1, arrangeValues_of_ordered ordered.2]

end

end Json

/-! ## Numbers that can be read -/

namespace Number

/-- The value as which the text of a number is read; a double that is not finite becomes null. -/
def reread (n : Number) : Json :=
  match Json.Lexeme.readAll? (Json.writeNumber n) with
  | some [.number (some m)] => .number m
  | _ => .null

/-- The text of a number can be read. -/
def Readable (n : Number) : Prop :=
  Json.Lexeme.readAll? (Json.writeNumber n) = some n.reread.lexemes

theorem readable_of_number {n m : Number}
    (cut : Json.Lexeme.readAll? (Json.writeNumber n) = some [.number (some m)]) :
    n.Readable ∧ n.reread = .number m := by
  have same : n.reread = .number m := by rw [reread, cut]
  exact ⟨by rw [Readable, cut, same, Json.lexemes], same⟩

theorem readable_of_null {n : Number}
    (cut : Json.Lexeme.readAll? (Json.writeNumber n) = some [.null]) : n.Readable := by
  have same : n.reread = .null := by rw [reread, cut]
  rw [Readable, cut, same, Json.lexemes]

theorem read?_of_cut {n m : Number}
    (cut : Json.Lexeme.readAll? (Json.writeNumber n) = some [.number (some m)]) :
    Json.read? (Json.writeNumber n) = some (.number m) :=
  @Json.read?_of_lexemes _ (.number m) cut (Nat.zero_le _)

theorem readable_of_read? {n m : Number}
    (read : Json.read? (Json.writeNumber n) = some (.number m)) :
    n.Readable ∧ n.reread = .number m := by
  obtain ⟨lexemes, cut, read⟩ := Option.bind_eq_some_iff.1 read
  rw [Json.eq_numeral_of_ofLexemes? read] at cut
  exact readable_of_number cut

theorem readable_of_kept {n : Number} (kept : n.Kept) : n.Readable ∧ n.reread = .number n := by
  cases n with
  | integer n => exact readable_of_number (Json.Lexeme.readAll?_integer kept.1 kept.2)
  | float x => exact readable_of_read? kept

/-- A number is read as a number or null. -/
theorem reread_cases (n : Number) : n.reread = .null ∨ ∃ m, n.reread = .number m := by
  unfold reread
  split
  · exact .inr ⟨_, rfl⟩
  · exact .inl rfl

theorem depth_reread (n : Number) : n.reread.depth = 0 := by
  obtain null | ⟨m, number⟩ := n.reread_cases
  · rw [null]
    rfl
  · rw [number]
    rfl

theorem readAll?_append {n : Number} (readable : n.Readable) {next : List Char}
    (ends : Numeral.Ends next) : Json.Lexeme.readAll? (Json.writeNumber n ++ next) =
      (Json.Lexeme.readAll? next).map (n.reread.lexemes ++ ·) := by
  obtain null | ⟨m, number⟩ := n.reread_cases
  · rw [Readable, null] at readable
    rw [null]
    exact Json.Lexeme.readAll?_null_append readable next
  · rw [Readable, number] at readable
    rw [number]
    exact Json.Lexeme.readAll?_number_append ends readable

end Number

namespace Json

mutual

/-- A value with each number replaced by what its text is read as. -/
def reread : Json → Json
  | .number n => n.reread
  | .array items => .array (rereadItems items)
  | .object fields => .object (rereadFields fields)
  | .null => .null
  | .bool b => .bool b
  | .string s => .string s

/-- The items of an array with each number replaced. -/
def rereadItems : List Json → List Json
  | [] => []
  | item :: rest => reread item :: rereadItems rest

/-- The fields of an object with each number replaced. -/
def rereadFields : List (String × Json) → List (String × Json)
  | [] => []
  | (name, value) :: rest => (name, reread value) :: rereadFields rest

end

mutual

theorem depth_reread : ∀ value : Json, value.reread.depth = value.depth
  | .number n => n.depth_reread
  | .array items => congrArg (· + 1) (depthOfItems_reread items)
  | .object fields => congrArg (· + 1) (depthOfFields_reread fields)
  | .null | .bool _ | .string _ => rfl

theorem depthOfItems_reread : ∀ items : List Json,
    depthOfItems (rereadItems items) = depthOfItems items
  | [] => rfl
  | item :: rest => congrArg₂ max (depth_reread item) (depthOfItems_reread rest)

theorem depthOfFields_reread : ∀ fields : List (String × Json),
    depthOfFields (rereadFields fields) = depthOfFields fields
  | [] => rfl
  | (_, value) :: rest => congrArg₂ max (depth_reread value) (depthOfFields_reread rest)

end

mutual

/-- A value whose numbers are kept is not changed, and its numbers can be read. -/
theorem reread_of_kept : ∀ {value : Json}, value.NumbersKept →
    value.reread = value ∧ ∀ n ∈ value.numbers, n.Readable
  | .number n, kept => by
    obtain ⟨readable, same⟩ := Number.readable_of_kept kept
    exact ⟨same, List.forall_mem_singleton.2 readable⟩
  | .array items, kept => by
    obtain ⟨same, readable⟩ := rereadItems_of_kept kept
    exact ⟨congrArg Json.array same, readable⟩
  | .object fields, kept => by
    obtain ⟨same, readable⟩ := rereadFields_of_kept kept
    exact ⟨congrArg Json.object same, readable⟩
  | .null, _ | .bool _, _ | .string _, _ => ⟨rfl, nofun⟩

theorem rereadItems_of_kept : ∀ {items : List Json}, ItemNumbersKept items →
    rereadItems items = items ∧ ∀ n ∈ numbersOfItems items, n.Readable
  | [], _ => ⟨rfl, nofun⟩
  | item :: rest, kept => by
    obtain ⟨same, readable⟩ := reread_of_kept kept.1
    obtain ⟨sameRest, readableRest⟩ := rereadItems_of_kept kept.2
    exact ⟨congrArg₂ List.cons same sameRest, List.forall_mem_append.2 ⟨readable, readableRest⟩⟩

theorem rereadFields_of_kept : ∀ {fields : List (String × Json)}, FieldNumbersKept fields →
    rereadFields fields = fields ∧ ∀ n ∈ numbersOfFields fields, n.Readable
  | [], _ => ⟨rfl, nofun⟩
  | (name, value) :: rest, kept => by
    obtain ⟨same, readable⟩ := reread_of_kept kept.1
    obtain ⟨sameRest, readableRest⟩ := rereadFields_of_kept kept.2
    exact ⟨congrArg₂ List.cons (congrArg (name, ·) same) sameRest,
      List.forall_mem_append.2 ⟨readable, readableRest⟩⟩

end

/-! ## Cutting the text of a value -/

theorem ends_of_mark {mark : Char} (other : mark ∈ ['\n', ',', ']', '}']) (next : List Char) :
    Numeral.Ends (mark :: next) := by
  intro c first
  cases first
  simp only [List.mem_cons, List.not_mem_nil, or_false] at other
  rcases other with rfl | rfl | rfl | rfl <;> decide

theorem ends_prettyItems (level : Nat) (items : List Json) (next : List Char) :
    Numeral.Ends (prettyItems level items next) := by
  cases items with
  | nil => exact ends_of_mark (by decide) _
  | cons item rest => exact ends_of_mark (by decide) _

theorem ends_prettyFields (level : Nat) (fields : List (String × Json)) (next : List Char) :
    Numeral.Ends (prettyFields level fields next) := by
  cases fields with
  | nil => exact ends_of_mark (by decide) _
  | cons field rest => exact ends_of_mark (by decide) _

/-- The name of a field, its colon and the space after it. -/
theorem readAll?_name (name : String) (next : List Char) :
    Lexeme.readAll? (writeString name ++ ':' :: ' ' :: next) =
      (Lexeme.readAll? next).map fun more => .string (some name) :: .colon :: more := by
  have colon : Lexeme.readAll? (':' :: ' ' :: next) =
      (Lexeme.readAll? next).map (.colon :: ·) := by
    rw [Lexeme.readAll?_lexeme rfl rfl, Lexeme.readAll?_space rfl]
  rw [Lexeme.readAll?_writeString, colon, Option.map_map]
  rfl

mutual

theorem readAll?_pretty : ∀ (level : Nat) (value : Json) (next : List Char),
    (∀ n ∈ value.numbers, n.Readable) → Numeral.Ends next →
    Lexeme.readAll? (pretty level value next) =
      (Lexeme.readAll? next).map (value.reread.lexemes ++ ·)
  | _, .null, next, _, _ => Lexeme.readAll?_nullWord next
  | _, .bool b, next, _, _ => Lexeme.readAll?_boolWord b next
  | _, .number n, next, readable, ends =>
    Number.readAll?_append (readable n (List.mem_singleton_self n)) ends
  | _, .string s, next, _, _ => Lexeme.readAll?_writeString s next
  | _, .array [], next, _, _ => by
    rw [pretty, Lexeme.readAll?_lexeme rfl rfl, Lexeme.readAll?_lexeme rfl rfl, Option.map_map]
    rfl
  | level, .array (item :: rest), next, readable, _ => by
    obtain ⟨first, others⟩ := List.forall_mem_append.1 readable
    rw [pretty, List.cons_append, Lexeme.readAll?_lexeme rfl rfl, Lexeme.readAll?_newLine,
      readAll?_pretty _ item _ first (ends_prettyItems level rest next),
      readAll?_prettyItems level rest next others]
    cases Lexeme.readAll? next <;> simp [reread, rereadItems, lexemes]
  | _, .object [], next, _, _ => by
    rw [pretty, Lexeme.readAll?_lexeme rfl rfl, Lexeme.readAll?_lexeme rfl rfl, Option.map_map]
    rfl
  | level, .object ((name, value) :: rest), next, readable, _ => by
    obtain ⟨first, others⟩ := List.forall_mem_append.1 readable
    rw [pretty, List.cons_append, List.cons_append, List.append_assoc,
      Lexeme.readAll?_lexeme rfl rfl, Lexeme.readAll?_newLine, readAll?_name,
      readAll?_pretty _ value _ first (ends_prettyFields level rest next),
      readAll?_prettyFields level rest next others]
    cases Lexeme.readAll? next <;> simp [reread, rereadFields, lexemes]

theorem readAll?_prettyItems : ∀ (level : Nat) (items : List Json) (next : List Char),
    (∀ n ∈ numbersOfItems items, n.Readable) → Lexeme.readAll? (prettyItems level items next) =
      (Lexeme.readAll? next).map (furtherItems (rereadItems items) ++ ·)
  | level, [], next, _ => by
    rw [prettyItems, Lexeme.readAll?_newLine, Lexeme.readAll?_lexeme rfl rfl]
    rfl
  | level, item :: rest, next, readable => by
    obtain ⟨first, others⟩ := List.forall_mem_append.1 readable
    rw [prettyItems, List.cons_append, Lexeme.readAll?_lexeme rfl rfl, Lexeme.readAll?_newLine,
      readAll?_pretty _ item _ first (ends_prettyItems level rest next),
      readAll?_prettyItems level rest next others]
    cases Lexeme.readAll? next <;> simp [rereadItems, furtherItems]

theorem readAll?_prettyFields : ∀ (level : Nat) (fields : List (String × Json))
    (next : List Char), (∀ n ∈ numbersOfFields fields, n.Readable) →
    Lexeme.readAll? (prettyFields level fields next) =
      (Lexeme.readAll? next).map (furtherFields (rereadFields fields) ++ ·)
  | level, [], next, _ => by
    rw [prettyFields, Lexeme.readAll?_newLine, Lexeme.readAll?_lexeme rfl rfl]
    rfl
  | level, (name, value) :: rest, next, readable => by
    obtain ⟨first, others⟩ := List.forall_mem_append.1 readable
    rw [prettyFields, List.cons_append, List.cons_append, List.append_assoc,
      Lexeme.readAll?_lexeme rfl rfl, Lexeme.readAll?_newLine, readAll?_name,
      readAll?_pretty _ value _ first (ends_prettyFields level rest next),
      readAll?_prettyFields level rest next others]
    cases Lexeme.readAll? next <;> simp [rereadFields, furtherFields]

end

/-- Whether a text with the lexemes of a value is read depends on the depth of the value alone. -/
theorem read?_of_reread {text : List Char} {value : Json}
    (cut : Lexeme.readAll? text = some value.reread.lexemes) :
    read? text = if value.depth ≤ maxDepth then some value.reread else none := by
  by_cases fits : value.depth ≤ maxDepth
  · rw [if_pos fits]
    exact read?_of_lexemes cut (value.depth_reread.trans_le fits)
  · rw [if_neg fits, read?, readIgnoring?, cut]
    exact ofLexemes?_of_deep ((Nat.lt_of_not_le fits).trans_eq value.depth_reread.symm)

/-- Whether the text of a value in lines is read depends on its depth alone, if its numbers can be
read. -/
theorem read?_pretty_of_readable {value : Json} (readable : ∀ n ∈ value.numbers, n.Readable) :
    read? (value.pretty 0 []) = if value.depth ≤ maxDepth then some value.reread else none := by
  have cut := readAll?_pretty 0 value [] readable nofun
  rw [Lexeme.readAll?, Option.map_some, List.append_nil] at cut
  exact read?_of_reread cut

/-- A value that is not nested too deeply, and whose numbers are kept, is read back from its text in
lines. -/
theorem read?_pretty {value : Json} (fits : value.depth ≤ maxDepth) (kept : value.NumbersKept) :
    read? (value.pretty 0 []) = some value := by
  obtain ⟨same, readable⟩ := reread_of_kept kept
  rw [read?_pretty_of_readable readable, if_pos fits, same]

end Json

end DocumentStore
