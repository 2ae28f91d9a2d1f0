import MiniTemplate.Decimal.Layout
import MiniTemplate.Text.Quoted
import MiniTemplate.Value.Basic
/-!
# Writing JSON

The text of a value on one line, with a blank behind every comma and colon. Characters outside of
printable ASCII are written as escapes, those beyond 16 bits as a pair of them.
-/

namespace MiniTemplate.Json

def unitEscape (n : Nat) : List Char :=
  '\\' :: 'u' :: Text.Quoted.hexadecimal 4 n

def writeChar (c : Char) : List Char :=
  let n := c.toNat
  if c == '\x22' || c == '\\' then ['\\', c]
  else if c == '\n' then ['\\', 'n']
  else if c == '\r' then ['\\', 'r']
  else if c == '\t' then ['\\', 't']
  else if c == '\x0c' then ['\\', 'f']
  else if c == '\x08' then ['\\', 'b']
  else if 0x20 ≤ n && n < 0x7f then [c]
  else if n < 0x10000 then unitEscape n
  else unitEscape (0xD800 + (n - 0x10000) / 0x400) ++ unitEscape (0xDC00 + (n - 0x10000) % 0x400)

/-- A surrogate that belongs to no pair is written by an escape of its own. -/
def writePoint (point : Nat) : List Char :=
  if Text.isSurrogate point then unitEscape point else writeChar (Char.ofNat point)

def writeText (s : String) : String :=
  String.ofList ('\x22' :: (Text.points s.toList).flatMap writePoint ++ ['\x22'])

def writeFloat (x : Float) : String :=
  if x.isNaN then "NaN"
  else if x.isInf then (if x < 0 then "-Infinity" else "Infinity")
  else Decimal.text x

mutual

def write : Value → String
  | .null => "null"
  | .bool true => "true"
  | .bool false => "false"
  | .int n => toString n
  | .float x => writeFloat x
  | .str s => writeText s
  | .list items => "[" ++ writeItems items ++ "]"
  | .object fields => "\x7b" ++ writeFields fields ++ "\x7d"

def writeItems : List Value → String
  | [] => ""
  | [v] => write v
  | v :: vs => write v ++ ", " ++ writeItems vs

def writeFields : List (String × Value) → String
  | [] => ""
  | [(k, v)] => writeText k ++ ": " ++ write v
  | (k, v) :: fields => writeText k ++ ": " ++ write v ++ ", " ++ writeFields fields

end

end MiniTemplate.Json
