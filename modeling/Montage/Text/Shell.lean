/-!
# Shell words

A list of arguments is written for a shell as words with one blank between them. A word of safe
characters stays bare; any other, and the empty one, stands in single quotes, and a single quote
inside it is written as a quote in double quotes between two quoted pieces.
-/

namespace Montage.Shell

/-- A character that a shell takes as it is. -/
def isSafe (c : Char) : Bool :=
  c.isAlphanum || "_@%+=:,./-".toList.contains c

/-- The characters of a word between single quotes. -/
def body : List Char → List Char
  | [] => []
  | c :: rest =>
    if c = '\'' then '\'' :: '"' :: '\'' :: '"' :: '\'' :: body rest else c :: body rest

/-- The written form of one word. -/
def word (cs : List Char) : List Char :=
  if cs ≠ [] ∧ cs.all isSafe then cs else '\'' :: (body cs ++ ['\''])

def line : List (List Char) → List Char
  | [] => []
  | [only] => word only
  | first :: rest => word first ++ ' ' :: line rest

/-- The shell text of an argument list. -/
def join (arguments : List String) : String :=
  String.ofList (line (arguments.map String.toList))

end Montage.Shell
