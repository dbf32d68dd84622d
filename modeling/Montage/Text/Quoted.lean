import Montage.Text.Printable

/-!
# Quoted text

A text shown inside a message stands between single quotes, or between double quotes when it holds
single quotes and no double ones. A backslash, the quote in use and the characters that cannot be
printed are escaped.
-/

namespace Montage.Text

/-- The lower-case hexadecimal digits of a number, at least `width` of them. -/
def hexadecimal (width n : Nat) : List Char :=
  (Nat.toDigits 16 n).leftpad width '0'

/-- The escaped form of a character between two `mark`s. -/
def escape (mark c : Char) : List Char :=
  if c = mark || c = '\\' then ['\\', c]
  else if c = '\n' then ['\\', 'n']
  else if c = '\r' then ['\\', 'r']
  else if c = '\t' then ['\\', 't']
  else if isPrintable c then [c]
  else if c.toNat < 0x100 then '\\' :: 'x' :: hexadecimal 2 c.toNat
  else if c.toNat < 0x10000 then '\\' :: 'u' :: hexadecimal 4 c.toNat
  else '\\' :: 'U' :: hexadecimal 8 c.toNat

/-- The text in quotes. -/
def quoted (s : String) : String :=
  let cs := s.toList
  let mark := if cs.contains '\'' && !cs.contains '"' then '"' else '\''
  String.ofList (mark :: cs.flatMap (escape mark) ++ [mark])

/-- The texts in single quotes, with commas between them and `or` before the last. -/
def choices : List String → String
  | [] => ""
  | [only] => s!"'{only}'"
  | [first, last] => s!"'{first}' or '{last}'"
  | first :: rest => s!"'{first}', " ++ choices rest

end Montage.Text
