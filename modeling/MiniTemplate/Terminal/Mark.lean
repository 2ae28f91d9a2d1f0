/-!
# Style marks

A line for the terminal holds marks in brackets that change the style, such as `[red]`, and `[/]`,
which ends the last change. Backslashes right before a mark escape: two of them stand for one, and
one that is left makes the mark ordinary text. Where there are no styles, the marks only divide the
line into pieces.
-/

namespace MiniTemplate.Terminal

/-- A mark is a word, a colour, an end or an action. -/
def startsMark (c : Char) : Bool :=
  c.isLower || c == '#' || c == '/' || c == '@'

/-- The mark at the start of a text, or nothing. -/
def markAt : List Char → List Char
  | '[' :: c :: chars =>
    let rest := chars.takeWhile fun c => c != '[' && c != ']'
    if startsMark c && (chars.drop rest.length).head? == some ']' then '[' :: c :: rest ++ [']']
    else []
  | _ => []

/-- The pieces of a line between its marks. The piece being read consists of `piece`, last character
first, and then `slashes` backslashes; the first `skip` characters have been dealt with. -/
def piecesFrom (piece : List Char) (slashes skip : Nat) : List Char → List (List Char)
  | [] => [piece.reverse ++ List.replicate slashes '\\']
  | c :: chars =>
    match skip, markAt (c :: chars) with
    | skip + 1, _ => piecesFrom piece slashes skip chars
    | 0, [] =>
      if c == '\\' then piecesFrom piece (slashes + 1) 0 chars
      else piecesFrom (c :: (List.replicate slashes '\\' ++ piece)) 0 0 chars
    | 0, mark =>
      piece.reverse :: List.replicate (slashes / 2) '\\' :: (if slashes % 2 == 1 then mark else [])
        :: piecesFrom [] 0 (mark.length - 1) chars

def pieces (line : String) : List (List Char) :=
  piecesFrom [] 0 0 line.toList

end MiniTemplate.Terminal
