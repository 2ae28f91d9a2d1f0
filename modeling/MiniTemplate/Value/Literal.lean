import MiniTemplate.Decimal.Layout
import MiniTemplate.Text.Quoted
import MiniTemplate.Value.Basic
/-!
# The text of values

Where a value is put into markup or into a message, a text stands for itself and everything else is
written as a literal. Inside lists and objects texts are quoted.
-/

namespace MiniTemplate.Value

mutual

def literal : Value → String
  | null => "None"
  | bool true => "True"
  | bool false => "False"
  | int n => toString n
  | float x => Decimal.text x
  | str s => Text.quoted s
  | list items => "[" ++ literalItems items ++ "]"
  | object fields => "\x7b" ++ literalFields fields ++ "\x7d"

def literalItems : List Value → String
  | [] => ""
  | [v] => literal v
  | v :: vs => literal v ++ ", " ++ literalItems vs

def literalFields : List (String × Value) → String
  | [] => ""
  | [(k, v)] => Text.quoted k ++ ": " ++ literal v
  | (k, v) :: fields => Text.quoted k ++ ": " ++ literal v ++ ", " ++ literalFields fields

end

def text : Value → String
  | str s => s
  | v => literal v

end MiniTemplate.Value
