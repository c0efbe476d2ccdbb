/-!
# The order of UTF-16 code units

Two texts are ordered by their UTF-16 code units. A character above U+FFFF is a pair of
surrogates and therefore stands before the characters from U+E000 to U+FFFF.
-/

namespace DocumentStore.Text

/-- The UTF-16 code units of a character: itself, or its two surrogates. -/
def units (c : Char) : List Nat :=
  let n := c.toNat
  if n < 0x10000 then [n] else [0xD800 + (n - 0x10000) / 0x400, 0xDC00 + (n - 0x10000) % 0x400]

/-- The UTF-16 code units of a text. -/
def unitsOf (text : String) : List Nat := text.toList.flatMap units

/-- The lexicographic order of the code units of two texts. -/
def compareUnits (left right : String) : Ordering := compare (unitsOf left) (unitsOf right)

/-- The number of bytes that a text takes in UTF-8. -/
def byteLength : List Char → Nat
  | [] => 0
  | c :: rest => c.utf8Size + byteLength rest

theorem byteLength_append (left right : List Char) :
    byteLength (left ++ right) = byteLength left + byteLength right := by
  induction left with
  | nil => simp [byteLength]
  | cons c rest ih => simp [byteLength, ih, Nat.add_assoc]

theorem byteLength_eq (text : List Char) :
    byteLength text = (String.ofList text).utf8ByteSize := by
  induction text with
  | nil => rfl
  | cons c rest ih =>
    have whole : String.ofList (c :: rest) = String.singleton c ++ String.ofList rest := by
      rw [String.singleton_eq_ofList, ← String.ofList_append]
      rfl
    rw [byteLength, ih, whole, String.utf8ByteSize_append, String.utf8ByteSize_singleton]

end DocumentStore.Text
