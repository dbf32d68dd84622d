/-!
# White space, trimming and lines

Two sets of white space are in use. Numbers in data may be surrounded by `isBlank` characters, the
white space of Unicode. Settings and the encoder's own messages are stripped of `isSpacing`
characters, which adds the four information separators. `lines` are the parts of a text that line
breaks end, and `lastLine` is what follows the last of them.
-/

namespace Montage.Text

def isBlank (c : Char) : Bool :=
  let n := c.toNat
  (0x9 ≤ n && n ≤ 0xD) || n = 0x20 || n = 0x85 || n = 0xA0 || n = 0x1680 ||
    (0x2000 ≤ n && n ≤ 0x200A) || n = 0x2028 || n = 0x2029 || n = 0x202F || n = 0x205F || n = 0x3000

/-- White space, or one of the information separators. -/
def isSpacing (c : Char) : Bool :=
  isBlank c || (0x1C ≤ c.toNat && c.toNat ≤ 0x1F)

/-- A character that ends a line. -/
def isLineBreak (c : Char) : Bool :=
  let n := c.toNat
  (0xA ≤ n && n ≤ 0xD) || (0x1C ≤ n && n ≤ 0x1E) || n = 0x85 || n = 0x2028 || n = 0x2029

/-- The text without the characters of a class at either end. -/
def trimBy (p : Char → Bool) (cs : List Char) : List Char :=
  ((cs.dropWhile p).reverse.dropWhile p).reverse

/-- The text without spacing at either end. -/
def strip (s : String) : String :=
  String.ofList (trimBy isSpacing s.toList)

/-- The part of a text after its last line break. -/
def lastLine (s : String) : String :=
  String.ofList (s.toList.reverse.takeWhile (!isLineBreak ·)).reverse

/-- The lines of a text, after the characters of an unfinished line in reverse. A carriage return
with a line feed behind it ends one line. -/
def linesAfter (line : List Char) : List Char → List (List Char)
  | [] => if line.isEmpty then [] else [line.reverse]
  | '\r' :: '\n' :: rest => line.reverse :: linesAfter [] rest
  | c :: rest =>
    if isLineBreak c then line.reverse :: linesAfter [] rest else linesAfter (c :: line) rest

def lines (s : String) : List String :=
  (linesAfter [] s.toList).map String.ofList

/-- A text that is not empty, or else another one. -/
def orElse (s other : String) : String :=
  if s.isEmpty then other else s

/-- A text with its ASCII capitals made small. -/
def small (s : String) : String :=
  String.ofList (s.toList.map Char.toLower)

end Montage.Text
