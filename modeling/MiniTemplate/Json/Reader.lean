import MiniTemplate.Json.Fault
import MiniTemplate.Json.Numeral
import MiniTemplate.Text.CodePoint
import MiniTemplate.Text.Start
/-!
# Reading JSON

A reader takes the characters that are left and gives back a value and the characters behind it, or
stops with a complaint that holds the characters left at the place of the fault. Brackets may nest up
to a limit, which is the argument that the recursion runs on. Beyond the standard `NaN` and the two
infinities are values; of a field that is given twice the last value counts. A surrogate that is
escaped without its partner is a code point of the text like any other.
-/

namespace MiniTemplate.Json

abbrev Reader (α : Type) := List Char → Except Stop (α × List Char)

def isBlank (c : Char) : Bool :=
  c == ' ' || c == '\t' || c == '\n' || c == '\r'

def skipBlanks (input : List Char) : List Char :=
  input.dropWhile isBlank

/-! ### Texts -/

/-- The character that a one-letter escape stands for. -/
def shortEscape : Char → Option Char
  | '\x22' => some '\x22'
  | '\\' => some '\\'
  | '/' => some '/'
  | 'b' => some '\x08'
  | 'f' => some '\x0c'
  | 'n' => some '\n'
  | 'r' => some '\r'
  | 't' => some '\t'
  | _ => none

def hexValue (c : Char) : Option Nat :=
  if c.isDigit then some (c.toNat - 48)
  else if 'a' ≤ c && c ≤ 'f' then some (c.toNat - 87)
  else if 'A' ≤ c && c ≤ 'F' then some (c.toNat - 55)
  else none

/-- The value of four hexadecimal digits. -/
def unit? (a b c d : Char) : Option Nat := do
  return (((← hexValue a) * 16 + (← hexValue b)) * 16 + (← hexValue c)) * 16 + (← hexValue d)

/-- Puts the 16-bit unit of an escape behind the code points in `done`, the last one first. The second
half of a pair joins the first; a half without its partner stays as it is. -/
def pushUnit (done : List Nat) (unit : Nat) : List Nat :=
  match done with
  | high :: rest =>
    if 0xd800 ≤ high && high < 0xdc00 && 0xdc00 ≤ unit && unit < 0xe000 then
      (0x10000 + (high - 0xd800) * 0x400 + (unit - 0xdc00)) :: rest
    else unit :: high :: rest
  | [] => [unit]

/-- Reads a text up to its closing quote, behind the code points in `done`, the last one first. An
escape of four digits must be followed by one more character. The text that is left at the opening quote
is `opening`. -/
def readChars (opening : List Char) (done : List Nat) : Reader String
  | [] => .error (.malformed .unterminatedString opening)
  | '\x22' :: rest => .ok (Text.ofPoints done.reverse, rest)
  | '\\' :: 'u' :: a :: b :: c :: d :: next :: rest =>
    match unit? a b c d with
    | none => .error (.malformed .brokenCodePoint ('u' :: a :: b :: c :: d :: next :: rest))
    | some unit => readChars opening (pushUnit done unit) (next :: rest)
  | '\\' :: 'u' :: rest => .error (.malformed .brokenCodePoint ('u' :: rest))
  | ['\\'] => .error (.malformed .unterminatedString opening)
  | '\\' :: c :: rest =>
    match shortEscape c with
    | none => .error (.malformed .unknownEscape ('\\' :: c :: rest))
    | some char => readChars opening (char.toNat :: done) rest
  | c :: rest =>
    if c.toNat < 0x20 then .error (.malformed .controlCharacter (c :: rest))
    else readChars opening (c.toNat :: done) rest

/-! ### Scalars -/

/-- The words that stand for values. -/
def words : List (String × Value) :=
  [("null", .null), ("true", .bool true), ("false", .bool false), ("NaN", .float (0.0 / 0.0)),
    ("Infinity", .float (1.0 / 0.0)), ("-Infinity", .float (-1.0 / 0.0))]

def readWord (input : List Char) : Option (Value × List Char) :=
  words.findSome? fun (word, value) => (Text.dropStart? word.toList input).map fun rest => (value, rest)

def readNumber (input : List Char) : Except Stop (Value × List Char) :=
  match Numeral.read? input with
  | none => .error (.malformed .noValue input)
  | some (numeral, rest) =>
    if !numeral.isInteger then .ok (.float numeral.toFloat, rest)
    else if Numeral.maxDigits < numeral.whole.length then .error (.longInteger numeral.whole.length)
    else .ok (.int numeral.toInt, rest)

/-! ### Lists and objects -/

/-- Reads the items of a list behind those in `done`, the last one first. Every item takes at least
one character, so `fuel` need not exceed the length of the input. -/
def readItems (item : Reader Value) : Nat → List Value → Reader Value
  | 0, _, input => .error (.malformed .noValue input)
  | fuel + 1, done, input => do
    let (value, rest) ← item input
    match skipBlanks rest with
    | ']' :: rest => .ok (.list (value :: done).reverse, rest)
    | ',' :: rest => readItems item fuel (value :: done) (skipBlanks rest)
    | rest => .error (.malformed .noComma rest)

/-- Reads a field: its name, a colon and its value. -/
def readField (item : Reader Value) : Reader (String × Value)
  | '\x22' :: rest => do
    let (key, rest) ← readChars ('\x22' :: rest) [] rest
    match skipBlanks rest with
    | ':' :: rest =>
      let (value, rest) ← item (skipBlanks rest)
      .ok ((key, value), rest)
    | rest => .error (.malformed .noColon rest)
  | input => .error (.malformed .noPropertyName input)

/-- Reads the fields of an object into those that were read before. -/
def readFields (item : Reader Value) : Nat → Fields → Reader Value
  | 0, _, input => .error (.malformed .noPropertyName input)
  | fuel + 1, fields, input => do
    let ((key, value), rest) ← readField item input
    match skipBlanks rest with
    | '\x7d' :: rest => .ok (.object (fields.set key value), rest)
    | ',' :: rest => readFields item fuel (fields.set key value) (skipBlanks rest)
    | rest => .error (.malformed .noComma rest)

/-- Reads a value in which brackets nest at most `depth` deep. -/
def readValue (depth : Nat) : Reader Value := fun input =>
  match input, depth with
  | '\x22' :: rest, _ => do
    let (text, rest) ← readChars input [] rest
    .ok (.str text, rest)
  | '[' :: _, 0 => .error .tooDeep
  | '[' :: rest, depth + 1 =>
    match skipBlanks rest with
    | ']' :: rest => .ok (.list [], rest)
    | rest => readItems (readValue depth) (rest.length + 1) [] rest
  | '\x7b' :: _, 0 => .error .tooDeep
  | '\x7b' :: rest, depth + 1 =>
    match skipBlanks rest with
    | '\x7d' :: rest => .ok (.object [], rest)
    | rest => readFields (readValue depth) (rest.length + 1) [] rest
  | _, _ =>
    match readWord input with
    | some result => .ok result
    | none => readNumber input

/-! ### Whole texts -/

def readAll (depth : Nat) (input : List Char) : Except Stop Value :=
  if input.head? == some '\ufeff' then .error (.malformed .byteOrderMark input)
  else do
    let (value, rest) ← readValue depth (skipBlanks input)
    match skipBlanks rest with
    | [] => .ok value
    | rest => .error (.malformed .extraData rest)

/-- The value that a text stands for. -/
def read (depth : Nat) (input : List Char) : Except Fault Value :=
  (readAll depth input).mapError (Stop.fault input)

end MiniTemplate.Json
