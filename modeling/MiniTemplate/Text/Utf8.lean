import MiniTemplate.Text.Quoted
/-!
# Strict UTF-8

Bytes are decoded one at a time. Between two bytes the decoder stands either between characters or
inside a sequence that still misses some bytes, where the range of the next byte is known: it is
narrower behind the lead bytes `E0`, `ED`, `F0` and `F4`, which excludes overlong forms, surrogates
and code points above the last. The first byte that does not fit ends the decoding, with a fault that
holds the bytes of the sequence read so far.

As no bytes stand for a surrogate, a text that holds one cannot be encoded.
-/

namespace MiniTemplate.Text.Utf8

inductive Reason where
  | startByte
  | continuationByte
  | endOfData
  deriving DecidableEq, Repr

def Reason.message : Reason → String
  | .startByte => "invalid start byte"
  | .continuationByte => "invalid continuation byte"
  | .endOfData => "unexpected end of data"

/-- Where decoding stopped: the bytes of the broken sequence, their position, and what is wrong. -/
structure Fault where
  position : Nat
  bytes : List UInt8
  reason : Reason
  deriving DecidableEq, Repr

def Fault.message (fault : Fault) : String :=
  let place := match fault.bytes with
    | [byte] =>
      "byte 0x" ++ String.ofList (Quoted.hexadecimal 2 byte.toNat) ++ " in position "
        ++ toString fault.position
    | bytes =>
      "bytes in position " ++ toString fault.position ++ "-"
        ++ toString (fault.position + bytes.length - 1)
  "'utf-8' codec can't decode " ++ place ++ ": " ++ fault.reason.message

/-- An unfinished sequence: how many bytes it misses, the range of the next one, the value so far and
the bytes read, the last one first. -/
structure Pending where
  missing : Nat
  low : UInt8
  high : UInt8
  value : Nat
  read : List UInt8

/-- The sequence that a lead byte beyond ASCII opens. -/
def Pending.ofLead (byte : UInt8) : Option Pending :=
  if byte < 0xC2 then none
  else if byte < 0xE0 then some ⟨1, 0x80, 0xBF, byte.toNat % 0x20, [byte]⟩
  else if byte < 0xF0 then
    some ⟨2, if byte == 0xE0 then 0xA0 else 0x80, if byte == 0xED then 0x9F else 0xBF,
      byte.toNat % 0x10, [byte]⟩
  else if byte < 0xF5 then
    some ⟨3, if byte == 0xF0 then 0x90 else 0x80, if byte == 0xF4 then 0x8F else 0xBF,
      byte.toNat % 0x08, [byte]⟩
  else none

/-- Decodes the bytes from `position` on, behind the characters in `done`, the last one first. -/
def decodeFrom (position : Nat) (done : List Char) :
    Option Pending → List UInt8 → Except Fault (List Char)
  | none, [] => .ok done.reverse
  | some sequence, [] =>
    .error ⟨position - sequence.read.length, sequence.read.reverse, .endOfData⟩
  | none, byte :: bytes =>
    if byte < 0x80 then decodeFrom (position + 1) (Char.ofNat byte.toNat :: done) none bytes
    else match Pending.ofLead byte with
      | none => .error ⟨position, [byte], .startByte⟩
      | some sequence => decodeFrom (position + 1) done (some sequence) bytes
  | some sequence, byte :: bytes =>
    if sequence.low ≤ byte && byte ≤ sequence.high then
      let value := sequence.value * 0x40 + byte.toNat % 0x40
      if sequence.missing ≤ 1 then
        decodeFrom (position + 1) (Char.ofNat value :: done) none bytes
      else
        decodeFrom (position + 1) done
          (some ⟨sequence.missing - 1, 0x80, 0xBF, value, byte :: sequence.read⟩) bytes
    else .error ⟨position - sequence.read.length, sequence.read.reverse, .continuationByte⟩

/-- The characters that the bytes stand for. -/
def decode (bytes : List UInt8) : Except Fault (List Char) :=
  decodeFrom 0 [] none bytes

/-! ### Encoding -/

/-- Why a text cannot be encoded: the first surrogate in it, its position, and how many surrogates
stand there in a row. -/
structure Unwritable where
  point : Nat
  position : Nat
  count : Nat
  deriving DecidableEq, Repr

def Unwritable.message (fault : Unwritable) : String :=
  let place :=
    if fault.count ≤ 1 then
      "character '" ++ String.ofList (Quoted.codePoint fault.point) ++ "' in position "
        ++ toString fault.position
    else
      "characters in position " ++ toString fault.position ++ "-"
        ++ toString (fault.position + fault.count - 1)
  "'utf-8' codec can't encode " ++ place ++ ": surrogates not allowed"

/-- What keeps code points from being encoded, the first of which stands at `position`. -/
def unwritable? (position : Nat) : List Nat → Option Unwritable
  | [] => none
  | point :: points =>
    if isSurrogate point then some ⟨point, position, (points.takeWhile isSurrogate).length + 1⟩
    else unwritable? (position + 1) points

/-- The bytes of a text. -/
def encode (text : String) : Except Unwritable ByteArray :=
  let points := points text.toList
  match unwritable? 0 points with
  | some fault => .error fault
  | none => .ok (String.ofList (points.map Char.ofNat)).toUTF8

end MiniTemplate.Text.Utf8
