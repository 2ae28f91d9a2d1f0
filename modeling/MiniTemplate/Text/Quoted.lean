import MiniTemplate.Text.CodePoint
import MiniTemplate.Text.Printable
/-!
# Quoted text

The form in which a text stands inside the literal of a value, and in which names are shown in
messages. Single quotes enclose it, unless it holds a single quote and no double one; the enclosing
quote and the backslash are escaped by a backslash, line ends and tabs by a letter, and whatever else
does not print by its code point in lower-case hexadecimal digits.
-/

namespace MiniTemplate.Text.Quoted

def singleQuote : Char := '\x27'

def doubleQuote : Char := '\x22'

/-- The quote that encloses a text: the double one only where that saves escaping. -/
def enclosing (chars : List Char) : Char :=
  if chars.contains singleQuote && !chars.contains doubleQuote then doubleQuote else singleQuote

/-- The hexadecimal digits of `n`, filled up with zeros to `width`. -/
def hexadecimal (width n : Nat) : List Char :=
  let digits := Nat.toDigits 16 n
  List.replicate (width - digits.length) '0' ++ digits

/-- An unprintable character by its code point, in the shortest of three forms. -/
def codePoint (n : Nat) : List Char :=
  if n < 0x100 then '\\' :: 'x' :: hexadecimal 2 n
  else if n < 0x10000 then '\\' :: 'u' :: hexadecimal 4 n
  else '\\' :: 'U' :: hexadecimal 8 n

def encodeChar (quote c : Char) : List Char :=
  if c == quote || c == '\\' then ['\\', c]
  else if c == '\n' then ['\\', 'n']
  else if c == '\r' then ['\\', 'r']
  else if c == '\t' then ['\\', 't']
  else if isPrintable c then [c]
  else codePoint c.toNat

/-- A code point in quotes. Surrogates do not print. -/
def encodePoint (quote : Char) (point : Nat) : List Char :=
  if isSurrogate point then codePoint point else encodeChar quote (Char.ofNat point)

def encode (chars : List Char) : List Char :=
  let quote := enclosing chars
  quote :: (points chars).flatMap (encodePoint quote) ++ [quote]

end Quoted

/-- A text in quotes. -/
def quoted (s : String) : String :=
  String.ofList (Quoted.encode s.toList)

end MiniTemplate.Text
