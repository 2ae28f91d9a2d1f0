import MiniTemplate.Text.Line
/-!
# What can be wrong with a JSON text
-/

namespace MiniTemplate.Json

inductive Complaint where
  | noValue
  | noPropertyName
  | noColon
  | noComma
  | unterminatedString
  | controlCharacter
  | unknownEscape
  | brokenCodePoint
  | extraData
  | byteOrderMark
  deriving DecidableEq, Repr

def Complaint.message : Complaint → String
  | .noValue => "Expecting value"
  | .noPropertyName => "Expecting property name enclosed in double quotes"
  | .noColon => "Expecting ':' delimiter"
  | .noComma => "Expecting ',' delimiter"
  | .unterminatedString => "Unterminated string starting at"
  | .controlCharacter => "Invalid control character at"
  | .unknownEscape => "Invalid \\escape"
  | .brokenCodePoint => "Invalid \\uXXXX escape"
  | .extraData => "Extra data"
  | .byteOrderMark => "Unexpected UTF-8 BOM (decode using utf-8-sig)"

/-- The end of an attempt to read: a complaint about the text that was left at that point, an integer
with too many digits, or brackets nested too deep. -/
inductive Stop where
  | malformed (complaint : Complaint) (rest : List Char)
  | longInteger (digits : Nat)
  | tooDeep

/-- The same for a whole text, where the place of the complaint is known. -/
inductive Fault where
  | malformed (complaint : Complaint) (position : Text.Position)
  | longInteger (digits : Nat)
  | tooDeep
  deriving DecidableEq, Repr

def Stop.fault (input : List Char) : Stop → Fault
  | .malformed complaint rest =>
    .malformed complaint (Text.Position.after (input.take (input.length - rest.length)))
  | .longInteger digits => .longInteger digits
  | .tooDeep => .tooDeep

end MiniTemplate.Json
