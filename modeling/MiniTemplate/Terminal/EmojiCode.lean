import MiniTemplate.Terminal.Emoji
import MiniTemplate.Text.Blank
/-!
# Emoji codes

A name between two colons stands for an emoji. It may be written in capitals, and may say at its end
whether the emoji is to be shown in colour or as text. A code that names nothing stays as it is, and
its second colon starts no other code.
-/

namespace MiniTemplate.Terminal

open MiniTemplate.Text

/-- The small letter, for letters whose small form is found in names of emoji: those of the alphabet,
those with accents, and the signs for kelvin and ångström. -/
def smallLetter (c : Char) : Char :=
  if c == '\u212a' then 'k'
  else if c == '\u212b' then '\u00e5'
  else if '\u00c0' ≤ c && c ≤ '\u00de' && c != '\u00d7' then Char.ofNat (c.toNat + 32)
  else c.toLower

/-- The characters up to the next colon, unless a blank or the end comes first. -/
def codeName? (chars : List Char) : Option (List Char) :=
  let name := chars.takeWhile fun c => c != ':' && !isBlank c
  if (chars.drop name.length).head? == some ':' then some name else none

/-- Takes an ending off a name. -/
def withoutEnding? (ending name : List Char) : Option (List Char) :=
  if ending.isSuffixOf name then some (name.take (name.length - ending.length)) else none

/-- The name without what it says of its presentation, and the character that selects it. -/
def presentation (name : List Char) : List Char × List Char :=
  match withoutEnding? "-emoji".toList name, withoutEnding? "-text".toList name with
  | some name, _ => (name, ['\ufe0f'])
  | none, some name => (name, ['\ufe0e'])
  | none, none => (name, [])

/-- The emoji that a name between colons stands for. -/
def emojiOfCode? (name : List Char) : Option (List Char) :=
  let (name, selector) := presentation name
  (emoji? (name.map smallLetter)).map (· ++ selector)

/-- Replaces codes, and drops the first `skip` characters. -/
def replaceCodes (skip : Nat) : List Char → List Char
  | [] => []
  | c :: chars =>
    match skip with
    | skip + 1 => replaceCodes skip chars
    | 0 =>
      match if c == ':' then codeName? chars else none with
      | none => c :: replaceCodes 0 chars
      | some name =>
        (emojiOfCode? name).getD (':' :: name ++ [':']) ++ replaceCodes (name.length + 1) chars

end MiniTemplate.Terminal
