import DocumentStore.Text.Printable

/-!
# Quoted texts

Messages quote a text between double quotes. Quotes, backslashes and characters that do not show by
themselves are escaped, so that the text can be told from the words around it.
-/

namespace DocumentStore.Text

/-- A character between quotes. -/
def quoteChar (c : Char) : List Char :=
  if c == '"' then ['\\', '"']
  else if c == '\\' then ['\\', '\\']
  else if c == '\t' then ['\\', 't']
  else if c == '\r' then ['\\', 'r']
  else if c == '\n' then ['\\', 'n']
  else if c == '\x00' then ['\\', '0']
  else if isPrintable c then [c]
  else ['\\', 'u', '\x7b'] ++ Nat.toDigits 16 c.toNat ++ ['\x7d']

/-- A text in quotes. -/
def quote (s : String) : String := String.ofList ('"' :: (s.toList.flatMap quoteChar ++ ['"']))

example : quote "it's \"new\"\n" = "\"it's \\\"new\\\"\\n\"" := by decide +kernel

end DocumentStore.Text
