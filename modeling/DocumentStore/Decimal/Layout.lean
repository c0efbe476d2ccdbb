import DocumentStore.Decimal.Shortest

/-!
# Layouts of numbers

The text of a double is laid out from its shortest digits. The two layouts of the library differ
in how ties are broken, in where an exponent is written and in whether whole numbers keep a point.
-/

namespace DocumentStore

/-- How the digits of a double are laid out. -/
structure Layout where
  /-- Which of two equally near shortest numbers is written. -/
  tie : Binary.Tie
  /-- Whether a number `d.ddd * 10 ^ e` is written without an exponent. -/
  positional : Int → Bool
  /-- What follows a whole number written without an exponent. -/
  wholeEnd : List Char

namespace Layout

/-- Plain text: no number has an exponent, and whole numbers have no point. -/
def plain : Layout := ⟨.up, fun _ => true, []⟩

/-- Document text: exponents from -5 to 15 are written out, and whole numbers end in a point
and a zero. -/
def document : Layout := ⟨.even, fun e => -5 ≤ e && e ≤ 15, ['.', '0']⟩

/-- Takes the zeros from the end of a significand. -/
def stripZeros (n : Nat) (exponent : Int) : Decimal :=
  if n ≠ 0 ∧ n % 10 = 0 then stripZeros (n / 10) (exponent + 1) else ⟨n, exponent⟩
termination_by n
decreasing_by omega

/-- The digits of a number times a power of ten, written without an exponent. -/
def writePositional (layout : Layout) (digits : List Char) (exponent : Int) : List Char :=
  if 0 ≤ exponent then digits ++ List.replicate exponent.toNat '0' ++ layout.wholeEnd
  else
    let point := digits.length + exponent
    if 0 < point then digits.take point.toNat ++ '.' :: digits.drop point.toNat
    else '0' :: '.' :: (List.replicate (-point).toNat '0' ++ digits)

/-- One digit, the others after a point, and the signed power of ten. -/
def writeScientific (digits : List Char) (e : Int) : List Char :=
  let mark := if e < 0 then ['e', '-'] else ['e', '+']
  let fraction := digits.drop 1
  digits.take 1 ++ (if fraction.isEmpty then [] else '.' :: fraction) ++ mark ++
    Nat.toDigits 10 e.natAbs

/-- The text of a decimal number. -/
def writeDecimal (layout : Layout) (d : Decimal) : List Char :=
  let stripped := stripZeros d.significand d.exponent
  let digits := Nat.toDigits 10 stripped.significand
  let e := stripped.exponent + digits.length - 1
  if layout.positional e then layout.writePositional digits stripped.exponent
  else writeScientific digits e

/-- The text of a double: a sign if its sign bit is set, then its shortest digits, or the word
for what is not finite. What is not a number has no sign. -/
def write (layout : Layout) (x : Float) : List Char :=
  if x.isNaN then ['N', 'a', 'N']
  else
    let sign := if x.toBits < 0x8000000000000000 then [] else ['-']
    if x.isInf then sign ++ ['i', 'n', 'f']
    else if x == 0 then sign ++ '0' :: layout.wholeEnd
    else sign ++ layout.writeDecimal ((Binary.ofBits x.toBits).shortest layout.tie)

end Layout

/-- The plain text of a double. -/
def plainText (x : Float) : String := String.ofList (Layout.plain.write x)

end DocumentStore
