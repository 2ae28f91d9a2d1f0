/-!
# The fewest digits that identify a binary number

A binary floating-point number stands for all the reals that round to it: those between the points
halfway to its two neighbours, the ends included when its mantissa is even. Of the decimals in that
interval the one with the fewest digits is selected, and of several such the one nearest to the
number. The grids of multiples of a power of ten are tried from coarse to fine; on each of them only
the two points next to the number can be the nearest ones. All comparisons are exact, on naturals.
-/

namespace MiniTemplate.Decimal

/-- The positive number `mantissa * 2 ^ exponent`. Below a power of two the neighbours lie closer
together; `narrow` says that the number is such a power. -/
structure Binary where
  mantissa : Nat
  exponent : Int
  narrow : Bool

/-- The number whose 64 bits, the sign apart, are given. Infinities and NaN have none. -/
def Binary.ofBits (bits : UInt64) : Binary :=
  let exponent := ((bits >>> 52) &&& 0x7FF).toNat
  let fraction := (bits &&& 0xFFFFFFFFFFFFF).toNat
  if exponent == 0 then ⟨fraction, -1074, false⟩
  else ⟨0x10000000000000 + fraction, (exponent : Int) - 1075, fraction == 0 && 1 < exponent⟩

/-- The decimal `digits * 10 ^ exponent`. -/
structure Digits where
  digits : Nat
  exponent : Int
  deriving DecidableEq, Repr

/-- A quarter of the number's last place as a fraction of the grid `10 ^ k`, given as numerator and
denominator. In this unit the number is `4 * mantissa`. -/
def Binary.quarter (x : Binary) (k : Int) : Nat × Nat :=
  let q := x.exponent - 2
  (Nat.pow 2 q.toNat * Nat.pow 10 (-k).toNat, Nat.pow 2 (-q).toNat * Nat.pow 10 k.toNat)

/-- Whether the multiple `n` of `10 ^ k` rounds to the number. -/
def Binary.covers (x : Binary) (k : Int) (n : Nat) : Bool :=
  let (num, den) := x.quarter k
  let point := n * den
  let low := (4 * x.mantissa - if x.narrow then 1 else 2) * num
  let high := (4 * x.mantissa + 2) * num
  if x.mantissa % 2 == 0 then low ≤ point && point ≤ high else low < point && point < high

/-- The point of the grid `10 ^ k` that rounds to the number and is nearest to it, if there is one.
Of two points equally near the even one is taken. -/
def Binary.onGrid (x : Binary) (k : Int) : Option Nat :=
  let (num, den) := x.quarter k
  let value := 4 * x.mantissa * num
  let below := value / den
  let above := below + 1
  match x.covers k below, x.covers k above with
  | false, false => none
  | true, false => some below
  | false, true => some above
  | true, true =>
    match compare (2 * value) ((below + above) * den) with
    | .lt => some below
    | .gt => some above
    | .eq => some (if below % 2 == 0 then below else above)

/-- Tries the grids `10 ^ k`, `10 ^ (k - 1)`, … in turn. -/
def Binary.search (x : Binary) : Nat → Int → Option Digits
  | 0, _ => none
  | tries + 1, k =>
    match x.onGrid k with
    | some n => some ⟨n, k⟩
    | none => x.search tries (k - 1)

/-- The number itself, with all its digits. -/
def Binary.exact (x : Binary) : Digits :=
  if 0 ≤ x.exponent then ⟨x.mantissa * Nat.pow 2 x.exponent.toNat, 0⟩
  else ⟨x.mantissa * Nat.pow 5 (-x.exponent).toNat, x.exponent⟩

/-- The grid of the number's leading digit, or one a little coarser: `30103 / 100000` is close to the
logarithm of two. -/
def Binary.firstGrid (x : Binary) : Int :=
  ((x.mantissa.log2 : Int) + 1 + x.exponent) * 30103 / 100000 + 1

/-- The shortest decimal that identifies the number. Seventeen digits always suffice, so the search,
which starts at or above the leading digit, needs no more than twenty grids. -/
def Binary.shortest (x : Binary) : Digits :=
  (x.search 24 x.firstGrid).getD x.exact

end MiniTemplate.Decimal
