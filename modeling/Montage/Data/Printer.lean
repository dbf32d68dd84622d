import Montage.Data.Basic

/-!
# Data as text

Data is written as JSON in ASCII, without blanks between its parts. A float is written so that it
reads back, and the floats that are not finite as quoted words.
-/

namespace Montage.Data

/-- The escape of a code unit of sixteen bits. -/
def escapeUnit (n : Nat) : List Char :=
  '\\' :: 'u' :: Text.hexadecimal 4 n

/-- The written form of a character inside quotes. -/
def escape (c : Char) : List Char :=
  if c = '"' || c = '\\' then ['\\', c]
  else if c = '\n' then ['\\', 'n']
  else if c = '\r' then ['\\', 'r']
  else if c = '\t' then ['\\', 't']
  else if c = '\x08' then ['\\', 'b']
  else if c = '\x0c' then ['\\', 'f']
  else
    let n := c.toNat
    if 0x20 ≤ n && n ≤ 0x7E then [c]
    else if n < 0x10000 then escapeUnit n
    else escapeUnit (0xD800 + (n - 0x10000) / 0x400) ++ escapeUnit (0xDC00 + (n - 0x10000) % 0x400)

def quote (s : String) : String :=
  String.ofList ('"' :: s.toList.flatMap escape ++ ['"'])

/-- A float as a number, or as a quoted word when it is not finite. -/
def number (x : Float) : String :=
  if x.isFinite then floatText x else quote (floatText x)

mutual

/-- The data as text on one line. -/
def render : Data → String
  | null => "null"
  | bool b => if b then "true" else "false"
  | int n => toString n
  | float x => number x
  | text s => quote s
  | list items => "[" ++ ",".intercalate (renderList items) ++ "]"
  | object fields => "\x7b" ++ ",".intercalate (renderFields fields) ++ "\x7d"

def renderList : List Data → List String
  | [] => []
  | item :: rest => render item :: renderList rest

def renderFields : List (String × Data) → List String
  | [] => []
  | (name, value) :: rest => (quote name ++ ":" ++ render value) :: renderFields rest

end

/-- A list of texts over several lines, one item a line. -/
def renderLines : List String → String
  | [] => "[]"
  | items => "[\n" ++ ",\n".intercalate (items.map fun item => "  " ++ quote item) ++ "\n]"

end Montage.Data
