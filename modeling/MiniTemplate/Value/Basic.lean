/-!
# Values

The data that documents are made of. A document says little about the kinds of its fields, and most
of them are passed on as they are, so the values keep apart what the format keeps apart: whole
numbers of any size and floating-point numbers are different, and the fields of an object stand in
the order in which they first appeared.
-/

namespace MiniTemplate

inductive Value where
  | null
  | bool (b : Bool)
  | int (n : Int)
  | float (x : Float)
  | str (s : String)
  | list (items : List Value)
  | object (fields : List (String × Value))
  deriving Inhabited

namespace Value

/-- A value counts as set unless it is null, false, zero or empty. -/
def truthy : Value → Bool
  | null => false
  | bool b => b
  | int n => n != 0
  | float x => x != 0.0
  | str s => s != ""
  | list items => !items.isEmpty
  | object fields => !fields.isEmpty

/-- The value itself if it is set, and `default` if not. -/
def orElse (v default : Value) : Value :=
  if v.truthy then v else default

def isNull : Value → Bool
  | null => true
  | _ => false

/-- Equality with a whole number, by numeric value: `1`, `1.0` and `true` are all one. -/
def equalsNat (n : Nat) : Value → Bool
  | bool b => b.toNat == n
  | int m => m == n
  | float x => x == Float.ofNat n
  | _ => false

/-- The name of a value's kind, as it is given in messages. -/
def kindName : Value → String
  | null => "NoneType"
  | bool _ => "bool"
  | int _ => "int"
  | float _ => "float"
  | str _ => "str"
  | list _ => "list"
  | object _ => "dict"

/-- Lists and objects cannot be looked up in a table. -/
def isContainer : Value → Bool
  | list _ => true
  | object _ => true
  | _ => false

end Value

/-- The fields of an object. -/
abbrev Fields := List (String × Value)

namespace Fields

def get? (fields : Fields) (key : String) : Option Value :=
  fields.lookup key

/-- The value of a field, null if it is missing. -/
def get (fields : Fields) (key : String) : Value :=
  (fields.get? key).getD .null

def has (fields : Fields) (key : String) : Bool :=
  (fields.get? key).isSome

/-- Writes a field. One that is there already keeps its place. -/
def set (fields : Fields) (key : String) (value : Value) : Fields :=
  match fields with
  | [] => [(key, value)]
  | (k, v) :: rest => if k == key then (key, value) :: rest else (k, v) :: set rest key value

end Fields

end MiniTemplate
