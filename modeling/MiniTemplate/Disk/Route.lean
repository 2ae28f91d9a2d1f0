/-!
# Paths

An absolute path is the list of names from the root down. A route is a path as it is written: names
between slashes, from the root or from the directory that the program works in, where two dots lead
back to the parent.
-/

namespace MiniTemplate.Disk

/-- The names from the root down to a file or directory. -/
abbrev Path := List String

namespace Path

/-- Names between slashes. -/
def joined (names : List String) : String :=
  String.intercalate "/" names

def text (path : Path) : String :=
  "/" ++ joined path

/-- Whether `path` is `directory` or lies below it. -/
def within (directory path : Path) : Bool :=
  directory.isPrefixOf path

/-- The last name of a path, and the empty text for the root. -/
def name (path : List String) : String :=
  path.getLast?.getD ""

/-- A name up to its last point, unless that is its first or last character. -/
def stemOf (name : String) : String :=
  let chars := name.toList
  let extension := (chars.reverse.takeWhile (· != '.')).length
  let stem := chars.take (chars.length - extension - 1)
  if extension == 0 || stem.isEmpty then name else String.ofList stem

end Path

/-- The pieces of a text between the separators. -/
def pieces (separator : Char) : List Char → List (List Char)
  | [] => [[]]
  | c :: chars =>
    if c == separator then [] :: pieces separator chars
    else match pieces separator chars with
      | [] => [[c]]
      | first :: rest => (c :: first) :: rest

/-- A path as it is written. -/
structure Route where
  absolute : Bool
  names : List String
  deriving DecidableEq, Repr

namespace Route

/-- All names of a written path, empty ones and dots among them. -/
def rawNames (text : String) : List String :=
  (pieces '/' text.toList).map String.ofList

/-- The route that a text spells, without names that lead nowhere. -/
def ofText (text : String) : Route where
  absolute := text.toList.head? == some '/'
  names := (rawNames text).filter fun name => name != "" && name != "."

def text (route : Route) : String :=
  if route.absolute then "/" ++ Path.joined route.names
  else if route.names.isEmpty then "."
  else Path.joined route.names

/-- Where a route starts. -/
def start (route : Route) (workPlace : Path) : Path :=
  if route.absolute then [] else workPlace

/-- Follows names, two dots leading to the parent. -/
def follow (path : Path) : List String → Path
  | [] => path
  | name :: names => follow (if name == ".." then path.dropLast else path ++ [name]) names

/-- The absolute path that a route leads to. -/
def resolve (route : Route) (workPlace : Path) : Path :=
  follow (route.start workPlace) route.names

end Route

end MiniTemplate.Disk
