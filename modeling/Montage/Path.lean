import Montage.Text.Blank

/-!
# File paths

A path is a root, which is empty for a relative one, and the names of directories on the way to a
file. Empty names and single points are dropped when a path is read; two points stay, because what
they mean depends on the directories there are. `Path.collapsed` takes them for the directory above.
-/

namespace Montage

/-- A path by its root and its names. -/
structure Path where
  root : String
  names : List String
deriving Repr, DecidableEq

namespace Path

/-- The names between the slashes of a text. -/
def split (cs : List Char) : List String :=
  let step (c : Char) (names : List (List Char)) : List (List Char) :=
    if c = '/' then [] :: names
    else match names with
      | [] => [[c]]
      | name :: rest => (c :: name) :: rest
  (cs.foldr step [[]]).map String.ofList

/-- Reads a path. A text that starts with exactly two slashes keeps both of them as its root. -/
def ofText (text : String) : Path :=
  let cs := text.toList
  let slashes := (cs.takeWhile (· = '/')).length
  -- three slashes and more are one
  { root := if slashes = 0 then "" else if slashes = 2 then "//" else "/"
    names := (split cs).filter fun name => name ≠ "" && name ≠ "." }

/-- The path starts at a root. -/
def isAbsolute (path : Path) : Bool :=
  path.root ≠ ""

def text (path : Path) : String :=
  let body := "/".intercalate path.names
  if path.isAbsolute || body ≠ "" then path.root ++ body else "."

/-- A path inside the directory of another one, unless it is absolute. -/
def append (base path : Path) : Path :=
  if path.isAbsolute then path else { base with names := base.names ++ path.names }

def directory (path : Path) : Path :=
  { path with names := path.names.dropLast }

/-- One more name on the way, where two points lead to the directory above. There is none above the
root, and one above a relative path is kept as two points. -/
def descend (isAbsolute : Bool) (names : List String) (name : String) : List String :=
  if name = ".." then
    match names.getLast? with
    | none => if isAbsolute then [] else [name]
    | some last => if last = ".." then names ++ [name] else names.dropLast
  else names ++ [name]

/-- The path with two points taken for the directory above. -/
def collapsed (path : Path) : Path :=
  { path with names := path.names.foldl (descend path.isAbsolute) [] }

end Path

end Montage
