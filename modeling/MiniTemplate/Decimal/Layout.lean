import MiniTemplate.Decimal.Shortest
/-!
# How decimals are written

Where the point stands, and when an exponent takes its place. Numbers from `0.0001` up to below
`10 ^ 16` are written positionally and keep a digit behind the point; all others have a signed
exponent of at least two digits.
-/

namespace MiniTemplate.Decimal

private def zeros (n : Nat) : String :=
  String.ofList (List.replicate n '0')

/-- The digits `first, …` with the point behind the first `whole` of them, where `whole` may lie
outside of the digits. -/
def positional (digits : List Char) (whole : Int) : String :=
  if whole ≤ 0 then "0." ++ zeros (-whole).toNat ++ String.ofList digits
  else if digits.length ≤ whole.toNat then
    String.ofList digits ++ zeros (whole.toNat - digits.length) ++ ".0"
  else String.ofList (digits.take whole.toNat) ++ "." ++ String.ofList (digits.drop whole.toNat)

/-- One digit, the others behind a point, and the exponent of the first digit. -/
def scientific (digits : List Char) (exponent : Int) : String :=
  let fraction := match digits.drop 1 with
    | [] => ""
    | rest => "." ++ String.ofList rest
  let magnitude := toString exponent.natAbs
  String.ofList (digits.take 1) ++ fraction ++ "e" ++ (if exponent < 0 then "-" else "+")
    ++ zeros (2 - magnitude.length) ++ magnitude

def Digits.layout (d : Digits) : String :=
  let digits := Nat.toDigits 10 d.digits
  let leading := d.exponent + digits.length - 1
  if -4 ≤ leading && leading < 16 then positional digits (leading + 1)
  else scientific digits leading

/-- The text of a floating-point number: the fewest digits that identify it. -/
def text (x : Float) : String :=
  let bits := x.toBits
  let magnitude := bits &&& 0x7FFFFFFFFFFFFFFF
  let sign := if bits == magnitude then "" else "-"
  if 0x7FF0000000000000 < magnitude then "nan"
  else if magnitude == 0x7FF0000000000000 then sign ++ "inf"
  else if magnitude == 0 then sign ++ "0.0"
  else sign ++ (Binary.ofBits magnitude).shortest.layout

end MiniTemplate.Decimal
