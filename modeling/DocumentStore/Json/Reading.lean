import DocumentStore.Json.Lexeme

/-!
# Reading JSON texts

A text is read lexeme by lexeme, the arrays and objects that are still open held in a stack. No
more than 127 of them may be open at once. The members of the outermost object whose names a
reader ignores may hold anything that is well formed, at any depth.
-/

namespace DocumentStore.Json

/-- An array or object that is still open around the value being read, its contents newest
first. -/
inductive Frame
  | array (items : List Json)
  /-- An object whose member of the given name is being read. -/
  | object (fields : List (String × Json)) (name : String)

/-- What a text may go on with. -/
inductive Reading
  /-- A value. -/
  | atValue (around : List Frame)
  /-- The first item of an array, or its end. -/
  | atFirstItem (around : List Frame)
  /-- The name of a member of an object, or its end if there is no member before. -/
  | atName (fields : List (String × Json)) (isFirst : Bool) (around : List Frame)
  /-- The colon after the name of a member. -/
  | atColon (fields : List (String × Json)) (name : String) (around : List Frame)
  /-- A comma or the end of an array. -/
  | afterItem (items : List Json) (around : List Frame)
  /-- A comma or the end of an object. -/
  | afterMember (fields : List (String × Json)) (around : List Frame)
  /-- Nothing: the value is complete. -/
  | done (value : Json)

/-- The greatest number of arrays and objects that may be open at once. -/
def maxDepth : Nat := 127

namespace Reading

/-- Hands a complete value to what is open around it. -/
def complete (value : Json) : List Frame → Reading
  | [] => .done value
  | .array items :: around => .afterItem (value :: items) around
  | .object fields name :: around => .afterMember ((name, value) :: fields) around

/-- Whether what is read belongs to an ignored member of the outermost object. -/
def isIgnored (ignored : String → Bool) (around : List Frame) : Bool :=
  match around.getLast? with
  | some (.object _ name) => ignored name
  | _ => false

/-- Whether one more array or object may be opened. -/
def mayOpen (ignored : String → Bool) (around : List Frame) : Bool :=
  around.length < maxDepth || isIgnored ignored around

/-- Reads the first lexeme of a value. A numeral or string that stands for nothing is refused
unless it is ignored. -/
def startValue (ignored : String → Bool) (around : List Frame) : Lexeme → Option Reading
  | .null => some (complete .null around)
  | .bool b => some (complete (.bool b) around)
  | .number (some n) => some (complete (.number n) around)
  | .string (some s) => some (complete (.string s) around)
  | .number none | .string none =>
    if isIgnored ignored around then some (complete .null around) else none
  | .openArray => if mayOpen ignored around then some (.atFirstItem around) else none
  | .openObject => if mayOpen ignored around then some (.atName [] true around) else none
  | .closeArray | .closeObject | .comma | .colon => none

/-- Reads one lexeme. -/
def step (ignored : String → Bool) : Reading → Lexeme → Option Reading
  | .atValue around, lexeme => startValue ignored around lexeme
  | .atFirstItem around, .closeArray => some (complete (.array []) around)
  | .atFirstItem around, lexeme => startValue ignored (.array [] :: around) lexeme
  | .atName _ true around, .closeObject => some (complete (.object []) around)
  | .atName fields _ around, .string (some name) => some (.atColon fields name around)
  | .atName fields _ around, .string none =>
    if isIgnored ignored around then some (.atColon fields "" around) else none
  | .atColon fields name around, .colon => some (.atValue (.object fields name :: around))
  | .afterItem items around, .comma => some (.atValue (.array items :: around))
  | .afterItem items around, .closeArray => some (complete (.array items.reverse) around)
  | .afterMember fields around, .comma => some (.atName fields false around)
  | .afterMember fields around, .closeObject => some (complete (.object fields.reverse) around)
  | _, _ => none

/-- The value, if it is complete. -/
def result? : Reading → Option Json
  | .done value => some value
  | _ => none

end Reading

/-- The value that a row of lexemes spells. -/
def ofLexemes? (ignored : String → Bool) (lexemes : List Lexeme) : Option Json := do
  (← lexemes.foldlM (Reading.step ignored) (.atValue [])).result?

/-- Reads a whole text as one value, ignoring the members of the outermost object that have the
given names. -/
def readIgnoring? (ignored : String → Bool) (text : List Char) : Option Json := do
  ofLexemes? ignored (← Lexeme.readAll? text)

/-- Reads a whole text as one value. -/
def read? (text : List Char) : Option Json := readIgnoring? (fun _ => false) text

end DocumentStore.Json
