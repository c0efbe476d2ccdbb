import DocumentStore.Json.Basic

/-!
# Writing JSON texts

A value is written either compactly, without any space, or spread over lines that are indented by
two spaces a level. Both forms list fields and items in the order in which the value holds them.
Each is written in front of the text that follows it, so that nothing is copied twice however deep
a value is.
-/

namespace DocumentStore.Json

/-- The hexadecimal digit of a number below sixteen. -/
def hexDigit (n : Nat) : Char := Nat.digitChar n

/-- A character inside a string: quotes, backslashes and control characters are escaped. -/
def writeChar (c : Char) : List Char :=
  if c == '"' then ['\\', '"']
  else if c == '\\' then ['\\', '\\']
  else if c == '\x08' then ['\\', 'b']
  else if c == '\x0c' then ['\\', 'f']
  else if c == '\n' then ['\\', 'n']
  else if c == '\r' then ['\\', 'r']
  else if c == '\t' then ['\\', 't']
  else if c.toNat < 0x20 then
    ['\\', 'u', '0', '0', hexDigit (c.toNat / 16), hexDigit (c.toNat % 16)]
  else [c]

/-- A string in its quotes. -/
def writeString (s : String) : List Char := '"' :: (s.toList.flatMap writeChar ++ ['"'])

/-- The word for what is absent, or not a finite number. -/
def nullWord : List Char := ['n', 'u', 'l', 'l']

/-- The word for a truth value. -/
def boolWord : Bool → List Char
  | true => ['t', 'r', 'u', 'e']
  | false => ['f', 'a', 'l', 's', 'e']

/-- A number: whole numbers without a point, doubles in document layout, and the word null for a
double that is not finite. -/
def writeNumber : Number → List Char
  | .integer (.ofNat n) => Nat.toDigits 10 n
  | .integer (.negSucc n) => '-' :: Nat.toDigits 10 (n + 1)
  | .float x => if x.isFinite then Layout.document.write x else nullWord

mutual

/-- The text of a value without spaces, followed by a given text. -/
def compact : Json → List Char → List Char
  | .null, next => nullWord ++ next
  | .bool b, next => boolWord b ++ next
  | .number n, next => writeNumber n ++ next
  | .string s, next => writeString s ++ next
  | .array items, next => '[' :: compactItems true items next
  | .object fields, next => '{' :: compactFields true fields next

/-- The items of an array, its closing bracket and what follows; no comma stands before the first
item. -/
def compactItems (isFirst : Bool) : List Json → List Char → List Char
  | [], next => ']' :: next
  | item :: rest, next =>
    (if isFirst then [] else [',']) ++ compact item (compactItems false rest next)

/-- The fields of an object, its closing brace and what follows; no comma stands before the first
field. -/
def compactFields (isFirst : Bool) : List (String × Json) → List Char → List Char
  | [], next => '}' :: next
  | (name, value) :: rest, next =>
    (if isFirst then [] else [',']) ++ writeString name ++
      ':' :: compact value (compactFields false rest next)

end

/-- A new line at the given level. -/
def newLine (level : Nat) : List Char := '\n' :: List.replicate (2 * level) ' '

mutual

/-- The text of a value at the given level, one item or field a line, followed by a given text. -/
def pretty (level : Nat) : Json → List Char → List Char
  | .null, next => nullWord ++ next
  | .bool b, next => boolWord b ++ next
  | .number n, next => writeNumber n ++ next
  | .string s, next => writeString s ++ next
  | .array [], next => '[' :: ']' :: next
  | .array (item :: rest), next =>
    '[' :: newLine (level + 1) ++ pretty (level + 1) item (prettyItems level rest next)
  | .object [], next => '{' :: '}' :: next
  | .object ((name, value) :: rest), next =>
    '{' :: newLine (level + 1) ++ writeString name ++
      ':' :: ' ' :: pretty (level + 1) value (prettyFields level rest next)

/-- The further items of an array, its closing bracket and what follows. -/
def prettyItems (level : Nat) : List Json → List Char → List Char
  | [], next => newLine level ++ ']' :: next
  | item :: rest, next =>
    ',' :: newLine (level + 1) ++ pretty (level + 1) item (prettyItems level rest next)

/-- The further fields of an object, its closing brace and what follows. -/
def prettyFields (level : Nat) : List (String × Json) → List Char → List Char
  | [], next => newLine level ++ '}' :: next
  | (name, value) :: rest, next =>
    ',' :: newLine (level + 1) ++ writeString name ++
      ':' :: ' ' :: pretty (level + 1) value (prettyFields level rest next)

end

/-- The compact text of a value as a string. -/
def text (value : Json) : String := String.ofList (value.compact [])

end DocumentStore.Json
