/-!
# The ASCII classes of conditions and statements

Names, keywords and numbers are made of ASCII characters, and letter case is ignored for the
ASCII letters alone.
-/

namespace DocumentStore.Text

/-- An ASCII letter or an underscore: what a field name begins with. -/
def isWordStart (c : Char) : Bool := c.isAlpha || c == '_'

/-- An ASCII letter, an ASCII digit or an underscore: what a field name goes on with. -/
def isWordPart (c : Char) : Bool := c.isAlphanum || c == '_'

theorem isWordPart_of_isWordStart {c : Char} (h : isWordStart c) : isWordPart c := by
  simp only [isWordStart, isWordPart, Char.isAlphanum, Bool.or_eq_true] at h ⊢
  rcases h with h | h
  · exact .inl (.inl h)
  · exact .inr h

/-- Whether a text is the given word, spelled in lower case, up to the case of ASCII letters. -/
def spells (word : String) (text : List Char) : Bool := text.map Char.toLower == word.toList

end DocumentStore.Text
