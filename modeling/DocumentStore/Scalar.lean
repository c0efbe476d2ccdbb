import DocumentStore.Condition.Token
import DocumentStore.Json.Basic
import DocumentStore.Text.Blank
import DocumentStore.Text.Utf16

/-!
# Scalars

The values that conditions compare. A field of a record may be absent, and values of different
kinds may be compared: a text stands for the number that it spells and a truth value for one or
zero. What is absent or null equals only what is absent or null; two texts are ordered by their
UTF-16 code units and all other pairs as numbers.
-/

namespace DocumentStore

/-- A value that a condition can compare. -/
inductive Scalar
  | absent
  | null
  | bool (b : Bool)
  | number (x : Float)
  | text (s : String)
deriving DecidableEq

namespace Scalar

/-- The number that a text spells. Blanks around it do not count, a blank text is zero, and the
word Infinity with an optional sign is infinite; any other text that does not follow the grammar
of numbers is not a number. -/
def numberOfText (s : String) : Float :=
  let spelled := Text.trim s.toList
  if spelled = [] then 0
  else if spelled = "Infinity".toList ∨ spelled = "+Infinity".toList then Decimal.infinity
  else if spelled = "-Infinity".toList then -Decimal.infinity
  else (Decimal.float? spelled).getD Decimal.nan

/-- The number that a scalar stands for. -/
def toNumber : Scalar → Float
  | .absent => Decimal.nan
  | .null => 0
  | .bool b => if b then 1 else 0
  | .number x => x
  | .text s => numberOfText s

/-- Whether a scalar counts as true: nothing absent, null, false, zero, not a number or empty
does. -/
def isTruthy : Scalar → Bool
  | .absent => false
  | .null => false
  | .bool b => b
  | .number x => x != 0 && !x.isNaN
  | .text s => !s.isEmpty

/-- Whether there is no value to compare. -/
def isMissing : Scalar → Bool
  | .absent => true
  | .null => true
  | _ => false

/-- Equality with a number. -/
def equalsNumber (x : Float) : Scalar → Bool
  | .absent => false
  | .null => false
  | .bool b => (Scalar.bool b).toNumber == x
  | .number y => x == y
  | .text s => x == numberOfText s

/-- Equality up to the kinds of the two scalars. Scalars of one kind are equal if their contents are;
a truth value is compared with another kind as the number that it stands for. -/
def equals : Scalar → Scalar → Bool
  | .absent, b => b.isMissing
  | .null, b => b.isMissing
  | .bool a, .bool b => a == b
  | .bool a, b => equalsNumber (Scalar.bool a).toNumber b
  | .number x, b => equalsNumber x b
  | .text s, .text t => s == t
  | .text s, .number x => x == numberOfText s
  | .text s, .bool b => equalsNumber (Scalar.bool b).toNumber (.text s)
  | .text _, _ => false

/-- The order of two doubles, unless one of them is not a number. -/
def orderFloats? (x y : Float) : Option Ordering :=
  if x < y then some .lt else if x == y then some .eq else if y < x then some .gt else none

/-- The order of two scalars, unless one of them stands for no number. -/
def order? : Scalar → Scalar → Option Ordering
  | .text s, .text t => some (Text.compareUnits s t)
  | a, b => orderFloats? a.toNumber b.toNumber

/-- Whether two scalars are of one kind and have the same content; doubles are compared as
numbers. -/
def same : Scalar → Scalar → Bool
  | .absent, .absent => true
  | .null, .null => true
  | .bool a, .bool b => a == b
  | .number x, .number y => x == y
  | .text s, .text t => s == t
  | _, _ => false

/-- The scalar of a literal. -/
def ofLiteral : Literal → Scalar
  | .text s => .text s
  | .number x => .number x

/-- The scalar of a JSON value; arrays and objects count as absent. -/
def ofJson : Json → Scalar
  | .null => .null
  | .bool b => .bool b
  | .number n => .number n.toFloat
  | .string s => .text s
  | .array _ => .absent
  | .object _ => .absent

/-- A scalar as it is shown. -/
def display : Scalar → String
  | .absent => "undefined"
  | .null => "null"
  | .bool b => if b then "true" else "false"
  | .number x => plainText x
  | .text s => "\"" ++ s ++ "\""

end Scalar

/-- Whether a comparison holds between two scalars. -/
def Comparison.holds (op : Comparison) (a b : Scalar) : Bool :=
  match op with
  | .eq => a.equals b
  | .ne => !a.equals b
  | .gt => a.order? b == some .gt
  | .ge => a.order? b == some .gt || a.order? b == some .eq
  | .lt => a.order? b == some .lt
  | .le => a.order? b == some .lt || a.order? b == some .eq

/-- A record as conditions see it: the scalar in each of its fields. -/
abbrev Record := String → Scalar

/-- The record of a list of fields; a field that is not listed is absent. -/
def Record.ofEntries (entries : List (String × Scalar)) : Record :=
  fun name => (Entries.get? name entries).getD .absent

/-- The record of the fields of a JSON object. -/
def Record.ofFields (fields : List (String × Json)) : Record :=
  fun name => ((Entries.get? name fields).map Scalar.ofJson).getD .absent

end DocumentStore
