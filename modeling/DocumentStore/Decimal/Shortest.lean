import DocumentStore.Decimal.Basic

/-!
# The shortest decimal text of a double

A positive finite double is `mantissa * 2 ^ exponent`. The real numbers that round to it form an
interval, whose ends belong to it when the mantissa is even. Of the decimal numbers in that
interval those with the fewest digits lie on the coarsest grid `10 ^ k` that meets it, and of
these the one nearest to the double is taken. All tests are comparisons of natural numbers.
-/

namespace DocumentStore

/-- A positive finite double as `mantissa * 2 ^ exponent`. -/
structure Binary where
  mantissa : Nat
  exponent : Int
  /-- Whether the next smaller double is half as far away as the next larger one, as it is below
  a power of two. -/
  narrowBelow : Bool
deriving DecidableEq, Repr

namespace Binary

/-- The least mantissa of a double of full precision: two to the power of 52. -/
def hiddenBit : Nat := 0x10000000000000

/-- The magnitude held by the bits of a finite double. -/
def ofBits (bits : UInt64) : Binary :=
  let fraction : Nat := bits.toNat % hiddenBit
  let scale : Nat := bits.toNat / hiddenBit % 0x800
  if scale = 0 then ⟨fraction, -1074, false⟩
  else ⟨hiddenBit + fraction, (scale : Int) - 1075, fraction == 0 && 1 < scale⟩

/-- A fraction of natural numbers, the denominator positive in all uses. -/
structure Ratio where
  numerator : Nat
  denominator : Nat

/-- A quarter of `2 ^ exponent` over `10 ^ k`. -/
def quarterUnit (b : Binary) (k : Int) : Ratio :=
  let e := b.exponent - 2
  ⟨Nat.pow 2 e.toNat * Nat.pow 10 (-k).toNat, Nat.pow 2 (-e).toNat * Nat.pow 10 k.toNat⟩

/-- Whether `n * 10 ^ k` rounds to the double. -/
def rounds (b : Binary) (k : Int) (n : Nat) : Bool :=
  let unit := b.quarterUnit k
  let low := (4 * b.mantissa - if b.narrowBelow then 1 else 2) * unit.numerator
  let high := (4 * b.mantissa + 2) * unit.numerator
  let point := n * unit.denominator
  if b.mantissa % 2 = 0 then low ≤ point && point ≤ high else low < point && point < high

/-- Which of two neighbours on a grid stands for a number half way between them. -/
inductive Tie
  | up
  | even
deriving DecidableEq, Repr

/-- The point of the grid `10 ^ k` nearest to the double among those that round to it. -/
def nearest? (tie : Tie) (b : Binary) (k : Int) : Option Nat :=
  let unit := b.quarterUnit k
  let value := 4 * b.mantissa * unit.numerator
  let below := value / unit.denominator
  let remainder := value % unit.denominator
  match b.rounds k below, b.rounds k (below + 1) with
  | false, false => none
  | true, false => some below
  | false, true => some (below + 1)
  | true, true =>
    match compare (2 * remainder) unit.denominator with
    | .lt => some below
    | .gt => some (below + 1)
    | .eq =>
      match tie with
      | .up => some (below + 1)
      | .even => some (if below % 2 = 0 then below else below + 1)

/-- The finest grid that has to be searched: the double itself lies on it. -/
def finest (b : Binary) : Int := min b.exponent 0

/-- A grid coarser than every one that meets the interval: its step exceeds twice the double. -/
def coarsest (b : Binary) : Int := (b.exponent + b.mantissa.log2 + 2) * 30103 / 100000 + 2

/-- Searches the grids from `finest + steps` down to the finest one. -/
def search (tie : Tie) (b : Binary) : Nat → Decimal
  | 0 =>
    let unit := b.quarterUnit b.finest
    ⟨4 * b.mantissa * unit.numerator / unit.denominator, b.finest⟩
  | steps + 1 =>
    match b.nearest? tie (b.finest + (steps + 1 : Nat)) with
    | some n => ⟨n, b.finest + (steps + 1 : Nat)⟩
    | none => search tie b steps

/-- The shortest decimal number that rounds to the double, and of these the nearest one. -/
def shortest (tie : Tie) (b : Binary) : Decimal :=
  b.search tie (b.coarsest - b.finest).toNat

end Binary

end DocumentStore
