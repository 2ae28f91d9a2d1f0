import MiniTemplate.Value.Basic
/-!
# Numerals

A numeral is read as far as it goes: a point without a digit behind it, or an exponent mark without
one, is no part of it. A numeral with neither is a whole number, any other a floating-point number.
-/

namespace MiniTemplate.Json

structure Numeral where
  negative : Bool
  whole : List Char
  fraction : List Char
  exponent : Option (Bool × List Char)

namespace Numeral

/-- The digits before the point: a single zero, or a run of digits that starts with no zero. -/
def readWhole : List Char → Option (List Char × List Char)
  | '0' :: rest => some (['0'], rest)
  | c :: rest =>
    if c.isDigit then some (c :: rest.takeWhile Char.isDigit, rest.dropWhile Char.isDigit) else none
  | [] => none

/-- The digits behind a point, none if no point with a digit follows. -/
def readFraction : List Char → List Char × List Char
  | '.' :: rest =>
    match rest.takeWhile Char.isDigit with
    | [] => ([], '.' :: rest)
    | digits => (digits, rest.dropWhile Char.isDigit)
  | rest => ([], rest)

/-- The sign of an exponent, true for a minus, and what follows it. -/
def readSign : List Char → Bool × List Char
  | '-' :: rest => (true, rest)
  | '+' :: rest => (false, rest)
  | rest => (false, rest)

def readExponent : List Char → Option (Bool × List Char) × List Char
  | c :: rest =>
    if c == 'e' || c == 'E' then
      let (negative, tail) := readSign rest
      match tail.takeWhile Char.isDigit with
      | [] => (none, c :: rest)
      | digits => (some (negative, digits), tail.dropWhile Char.isDigit)
    else (none, c :: rest)
  | [] => (none, [])

def read? (input : List Char) : Option (Numeral × List Char) :=
  let (negative, start) := match input with
    | '-' :: rest => (true, rest)
    | rest => (false, rest)
  match readWhole start with
  | none => none
  | some (whole, rest) =>
    let (fraction, rest) := readFraction rest
    let (exponent, rest) := readExponent rest
    some (⟨negative, whole, fraction, exponent⟩, rest)

def digitsValue (digits : List Char) : Nat :=
  digits.foldl (fun n c => 10 * n + (c.toNat - 48)) 0

def isInteger (n : Numeral) : Bool :=
  n.fraction.isEmpty && n.exponent.isNone

def toInt (n : Numeral) : Int :=
  let magnitude : Int := digitsValue n.whole
  if n.negative then -magnitude else magnitude

/-- The floating-point number nearest to the numeral. Magnitudes far outside of the range of such
numbers are settled before any power of ten is computed. -/
def toFloat (n : Numeral) : Float :=
  let mantissa := digitsValue (n.whole ++ n.fraction)
  let exponent : Int := match n.exponent with
    | none => 0
    | some (true, digits) => -(digitsValue digits : Int)
    | some (false, digits) => digitsValue digits
  let exponent := exponent - n.fraction.length
  let size := exponent + (Nat.toDigits 10 mantissa).length
  let magnitude : Float :=
    if mantissa == 0 || size < -400 then 0.0
    else if 400 < size then 1.0 / 0.0
    else Float.ofScientific mantissa (exponent < 0) exponent.natAbs
  if n.negative then -magnitude else magnitude

/-- Whole numbers of more digits than this are refused. -/
def maxDigits : Nat := 4300

end Numeral

end MiniTemplate.Json
