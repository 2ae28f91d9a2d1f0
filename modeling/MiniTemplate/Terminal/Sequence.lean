/-!
# Control sequences

A control sequence tells a terminal to move or to change colour. It starts with an escape character
and an opening bracket; parameter characters follow, then intermediate ones, and one final character
ends it. Output that does not go to a terminal is written without them. An opening that no final
character ends is ordinary text.
-/

namespace MiniTemplate.Terminal

def isParameter (c : Char) : Bool :=
  '0' ≤ c && c ≤ '?'

def isIntermediate (c : Char) : Bool :=
  ' ' ≤ c && c ≤ '/'

def isFinal (c : Char) : Bool :=
  '@' ≤ c && c ≤ '~'

/-- The number of characters of the control sequence at the start of a text, or zero. -/
def sequenceLength : List Char → Nat
  | '\x1b' :: '[' :: chars =>
    let parameters := chars.takeWhile isParameter
    let behind := chars.drop parameters.length
    let intermediates := behind.takeWhile isIntermediate
    match behind.drop intermediates.length with
    | c :: _ => if isFinal c then parameters.length + intermediates.length + 3 else 0
    | [] => 0
  | _ => 0

/-- The text without control sequences, and without its first `skip` characters. -/
def dropSequences (skip : Nat) : List Char → List Char
  | [] => []
  | c :: chars =>
    match skip, sequenceLength (c :: chars) with
    | skip + 1, _ => dropSequences skip chars
    | 0, length + 1 => dropSequences length chars
    | 0, 0 => c :: dropSequences 0 chars

def withoutSequences (s : String) : String :=
  String.ofList (dropSequences 0 s.toList)

end MiniTemplate.Terminal
