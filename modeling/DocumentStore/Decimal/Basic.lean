/-!
# Decimal numbers

A decimal number is a natural significand and a power of ten. This module reads digits, rounds a
decimal number to the nearest double, and holds the grammar of the numbers that stand in texts.
-/

namespace DocumentStore

/-- The number `significand * 10 ^ exponent`. -/
structure Decimal where
  significand : Nat
  exponent : Int
deriving DecidableEq, Repr

namespace Decimal

/-- The value of an ASCII digit. -/
def digitValue (c : Char) : Nat := c.toNat - '0'.toNat

/-- The number that a row of digits spells. -/
def ofDigits (digits : List Char) : Nat := digits.foldl (fun n c => 10 * n + digitValue c) 0

/-- The number spelled by digits before and after a point, times a power of ten. -/
def ofParts (whole fraction : List Char) (exponent : Int) : Decimal :=
  ⟨ofDigits (whole ++ fraction), exponent - fraction.length⟩

/-- The number spelled by a text of one digit or more. -/
def wholeNumber? (text : List Char) : Option Nat :=
  if text.isEmpty || !text.all Char.isDigit then none else some (ofDigits text)

/-- The double nearest to the number; a tie goes to the even significand, and what exceeds every
double is infinite. -/
def toFloat (d : Decimal) : Float := .ofModel (.ofScientific d.significand d.exponent)

/-- The double that is not a number. -/
def nan : Float := .ofBits 0x7FF8000000000000

/-- The double that exceeds all others. -/
def infinity : Float := .ofBits 0x7FF0000000000000

/-- Reads what may follow the digits of a number: nothing, or the letter e in either case, an
optional sign and one digit or more. -/
def exponent? : List Char → Option Int
  | [] => some 0
  | mark :: rest =>
    if mark == 'e' || mark == 'E' then
      match rest with
      | '-' :: digits => (wholeNumber? digits).map fun n => -(n : Int)
      | '+' :: digits => (wholeNumber? digits).map fun n => (n : Int)
      | digits => (wholeNumber? digits).map fun n => (n : Int)
    else none

/-- Reads a whole text as an unsigned number: digits with an optional point, of which at least one
digit stands on either side of it, and an optional exponent. -/
def unsigned? (text : List Char) : Option Decimal :=
  let whole := text.takeWhile Char.isDigit
  match text.dropWhile Char.isDigit with
  | '.' :: rest =>
    let fraction := rest.takeWhile Char.isDigit
    if whole.isEmpty && fraction.isEmpty then none
    else (exponent? (rest.dropWhile Char.isDigit)).map (ofParts whole fraction)
  | rest => if whole.isEmpty then none else (exponent? rest).map (ofParts whole [])

/-- Reads a whole text as a number with an optional sign. -/
def float? : List Char → Option Float
  | '-' :: text => (unsigned? text).map fun d => -d.toFloat
  | '+' :: text => (unsigned? text).map toFloat
  | text => (unsigned? text).map toFloat

end Decimal

end DocumentStore
