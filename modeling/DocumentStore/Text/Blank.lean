/-!
# Blank characters

The characters with the Unicode property White_Space, the only ones that separate the words of a
condition or a statement, and the trimming of a text at both ends.
-/

namespace DocumentStore.Text

/-- Whether a character has the Unicode property White_Space. The information separators
U+001C to U+001F, the zero-width space U+200B and the byte order mark U+FEFF do not have it. -/
def isBlank (c : Char) : Bool :=
  let n := c.toNat
  (0x09 ≤ n && n ≤ 0x0D) || n == 0x20 || n == 0x85 || n == 0xA0 || n == 0x1680 ||
    (0x2000 ≤ n && n ≤ 0x200A) || n == 0x2028 || n == 0x2029 || n == 0x202F || n == 0x205F ||
    n == 0x3000

/-- A text without the blanks at its front. -/
def trimStart (text : List Char) : List Char := text.dropWhile isBlank

/-- A text without the blanks at its back. -/
def trimEnd (text : List Char) : List Char := (text.reverse.dropWhile isBlank).reverse

/-- A text without the blanks at its two ends. -/
def trim (text : List Char) : List Char := trimEnd (trimStart text)

end DocumentStore.Text
