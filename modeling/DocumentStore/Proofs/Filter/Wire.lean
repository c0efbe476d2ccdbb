import DocumentStore.Filter.Wire
import DocumentStore.Proofs.Filter.Capability
import DocumentStore.Proofs.Json.Compact
import Mathlib

/-!
# Filters sent to another store

A filter travels as a compact JSON text. The text is read as long as the filter has no more levels
than a JSON text may have, and it is decoded to the same filter as long as its numbers survive in
a text. The kind of each object tells comparisons from connectives, and the quotes tell texts from
numbers, whatever the texts are.
-/

namespace DocumentStore

/-- A literal is read back from its JSON text. Every text is; a number is if its text is read as a
number that is equal to it, so it is finite. -/
def Literal.ReadBack : Literal → Prop
  | .text _ => True
  | .number x => ∃ n, Json.read? (Json.writeNumber (.float x)) = some (.number n) ∧
      (n.toFloat == x) = true

/-- A number whose text is read as an equal number is read as itself: zeros of different signs are
equal, but their texts have the signs. -/
theorem toFloat_eq_of_read? {x : Float} {n : Number}
    (read : Json.read? (Json.writeNumber (.float x)) = some (.number n))
    (equal : (n.toFloat == x) = true) : n.toFloat = x := by
  have signed : x = 0 ∨ x = -0 →
      Json.Lexeme.readAll? (Json.writeNumber (.float x)) = some [.number (some (.float x))] := by
    rintro (rfl | rfl)
    · decide +kernel
    · decide +kernel
  obtain ⟨-, -, same | zeros⟩ := Float.beq_iff_ne_nan_and_eq.1 equal
  · exact same
  · have zero : x = 0 ∨ x = -0 := zeros.symm.imp And.right And.right
    rw [Number.read?_of_cut (signed zero)] at read
    cases read
    rfl

namespace Filter

theorem readable_literalToJson {literal : Literal} (readBack : literal.ReadBack) :
    ∀ n ∈ (literalToJson literal).numbers, n.Readable := by
  cases literal with
  | text s => nofun
  | number x =>
    obtain ⟨n, read, -⟩ := readBack
    exact List.forall_mem_singleton.2 (Number.readable_of_read? read).1

/-- Texts and numbers are kept apart. -/
theorem literalOfJson?_reread {literal : Literal} (readBack : literal.ReadBack) :
    literalOfJson? (literalToJson literal).reread = some literal := by
  cases literal with
  | text s => rfl
  | number x =>
    obtain ⟨n, read, equal⟩ := readBack
    rw [literalToJson, Json.reread, (Number.readable_of_read? read).2, literalOfJson?,
      toFloat_eq_of_read? read equal]

/-- The number of levels of a filter; a comparison is one level. -/
def levels : Filter → Nat
  | .compare .. => 1
  | .join _ left right => max left.levels right.levels + 1

theorem depth_toJson (filter : Filter) : filter.toJson.depth = filter.levels := by
  induction filter with
  | compare field op literal => cases literal <;> rfl
  | join op left right ihLeft ihRight =>
    simp [toJson, Json.depth, Json.depthOfFields, ihLeft, ihRight, levels]

section Decoding

variable {numbered : Bool} {kind field op value left right : Part}

theorem ofNamedParts?_compare (named : kind.json = .string "compare") :
    ofNamedParts? numbered [("kind", kind), ("field", field), ("op", op), ("value", value)] =
      compareOf? field op value := by
  simp [ofNamedParts?, only?, named, Kind.ofJson?]

theorem ofNamedParts?_join {connective : Connective}
    (named : kind.json = .string (connectiveKind connective)) :
    ofNamedParts? numbered [("kind", kind), ("left", left), ("right", right)] =
      joinOf? connective left right := by
  have read : Kind.ofJson? numbered (.string (connectiveKind connective)) =
      some (.join connective) := by
    cases connective <;> rfl
  simp [ofNamedParts?, only?, named, read]

end Decoding

theorem ofSymbol?_symbol (op : Comparison) : Comparison.ofSymbol? op.symbol = some op := by
  cases op <;> rfl

/-- The filter as which the wire text of a filter is decoded, if it is, whatever its depth. -/
def reread? : Filter → Option Filter
  | .compare field op literal =>
    (literalOfJson? (literalToJson literal).reread).map (.compare field op)
  | .join op left right => do return .join op (← left.reread?) (← right.reread?)

/-- What the JSON value of a filter is decoded to, at the top and inside other filters. -/
theorem ofJson?_reread (filter : Filter) (numbered : Bool) :
    ofJson? numbered filter.toJson.reread = filter.reread? := by
  induction filter generalizing numbered with
  | compare field op literal =>
    simp only [toJson, Json.reread, Json.rereadFields, ofJson?, namedParts]
    rw [ofNamedParts?_compare rfl, compareOf?, comparisonOfJson?, ofSymbol?_symbol, reread?]
    cases literalOfJson? (literalToJson literal).reread <;> rfl
  | join op left right ihLeft ihRight =>
    simp only [toJson, Json.reread, Json.rereadFields, ofJson?, namedParts]
    rw [ofNamedParts?_join rfl, joinOf?, ihLeft, ihRight, reread?]

theorem ofJson?_toJson {filter : Filter} (readBack : ∀ leaf ∈ filter.leaves, leaf.literal.ReadBack)
    (numbered : Bool) : ofJson? numbered filter.toJson.reread = some filter := by
  rw [ofJson?_reread]
  induction filter with
  | compare field op literal =>
    rw [reread?, literalOfJson?_reread (readBack _ (List.mem_singleton_self _))]
    rfl
  | join op left right ihLeft ihRight =>
    obtain ⟨readLeft, readRight⟩ := List.forall_mem_append.1 readBack
    rw [reread?, ihLeft readLeft, ihRight readRight]
    rfl

theorem numbers_toJson (filter : Filter) :
    filter.toJson.numbers = filter.leaves.flatMap fun leaf => (literalToJson leaf.literal).numbers := by
  induction filter with
  | compare field op literal => simp [toJson, Json.numbers, Json.numbersOfFields, leaves]
  | join op left right ihLeft ihRight =>
    simp [toJson, Json.numbers, Json.numbersOfFields, leaves, ihLeft, ihRight]

theorem readable_toJson {filter : Filter}
    (readBack : ∀ leaf ∈ filter.leaves, leaf.literal.ReadBack) :
    ∀ n ∈ filter.toJson.numbers, n.Readable := by
  intro n inside
  rw [numbers_toJson] at inside
  obtain ⟨leaf, listed, inside⟩ := List.mem_flatMap.1 inside
  exact readable_literalToJson (readBack leaf listed) n inside

/-- A filter whose literals are read back is decoded from its wire text, if it has no more levels
than a JSON text may have. With more levels the text is not read. -/
theorem read?_wireText {filter : Filter}
    (readBack : ∀ leaf ∈ filter.leaves, leaf.literal.ReadBack) :
    Filter.read? filter.wireText = if filter.levels ≤ 127 then some filter else none := by
  have text : Json.read? filter.wireText.toList =
      if filter.levels ≤ 127 then some filter.toJson.reread else none := by
    rw [wireText, Json.text, String.toList_ofList, Json.read?_compact (readable_toJson readBack),
      depth_toJson]
    rfl
  rw [Filter.read?, text]
  by_cases few : filter.levels ≤ 127
  · rw [if_pos few, if_pos few]
    exact ofJson?_toJson readBack false
  · rw [if_neg few, if_neg few]
    rfl

/-- A number, its spelling as a text, and a text with a quote, a line break and letters that are
not ASCII. -/
theorem read?_wireText_of_scores :
    let score : Float := (Decimal.mk 25 (-1)).toFloat
    let filter : Filter := .join .and (.compare "score" .ge (.number score))
      (.join .or (.compare "größe" .ne (.text "2.5")) (.compare "" .eq (.text "\"\n😀")))
    Filter.read? filter.wireText = some filter := by
  intro score filter
  have number : (Literal.number score).ReadBack :=
    ⟨.float score, Number.read?_of_cut (by decide +kernel), by decide +kernel⟩
  have readBack : ∀ leaf ∈ filter.leaves, leaf.literal.ReadBack := by
    refine List.forall_mem_cons.2 ⟨number, List.forall_mem_cons.2 ⟨?_, ?_⟩⟩
    · trivial
    · exact List.forall_mem_singleton.2 trivial
  exact read?_wireText readBack

end Filter

end DocumentStore
