import Montage.Data.Basic

/-!
# Reading data from text

`Data.parse?` reads a JSON document. A number token with a point or an exponent is a float, any
other an integer; `NaN`, `Infinity` and `-Infinity` are numbers too. Of fields with the same name
the last value is kept, in the place of the first. An escaped surrogate without its partner is no
character of a `String`, and the replacement character is read for it.

Every function of the reader takes the rest of the text and gives back what follows the part that it
read. The nested ones count down from the length of the text, which no document can exhaust.
-/

namespace Montage.Data

/-- A blank between the parts of a document. -/
def isGap (c : Char) : Bool :=
  c = ' ' || c = '\t' || c = '\n' || c = '\r'

def hexDigit? (c : Char) : Option Nat :=
  if '0' ≤ c ∧ c ≤ '9' then some (c.toNat - 48)
  else if 'a' ≤ c ∧ c ≤ 'f' then some (c.toNat - 87)
  else if 'A' ≤ c ∧ c ≤ 'F' then some (c.toNat - 55)
  else none

/-- The code unit of four hexadecimal digits. -/
def unit? (a b c d : Char) : Option Nat := do
  return (((← hexDigit? a) * 16 + (← hexDigit? b)) * 16 + (← hexDigit? c)) * 16 + (← hexDigit? d)

def unescape? : Char → Option Nat
  | '"' => some 0x22
  | '\\' => some 0x5C
  | '/' => some 0x2F
  | 'b' => some 0x8
  | 'f' => some 0xC
  | 'n' => some 0xA
  | 'r' => some 0xD
  | 't' => some 0x9
  | _ => none

/-- The code units of a text up to its closing quote. -/
def units? : List Char → Option (List Nat × List Char)
  | [] => none
  | '"' :: rest => some ([], rest)
  | '\\' :: 'u' :: a :: b :: c :: d :: rest => do
    let unit ← unit? a b c d
    let (units, rest) ← units? rest
    return (unit :: units, rest)
  | '\\' :: c :: rest => do
    let unit ← unescape? c
    let (units, rest) ← units? rest
    return (unit :: units, rest)
  | c :: rest => do
    -- a control character has to be escaped
    if c.toNat < 0x20 then none
    let (units, rest) ← units? rest
    return (c.toNat :: units, rest)

/-- The characters of code units, where two halves of a surrogate pair make one character. -/
def joinUnits : List Nat → List Char
  | high :: low :: rest =>
    if 0xD800 ≤ high ∧ high < 0xDC00 ∧ 0xDC00 ≤ low ∧ low < 0xE000 then
      Char.ofNat (0x10000 + (high - 0xD800) * 0x400 + (low - 0xDC00)) :: joinUnits rest
    else alone high :: joinUnits (low :: rest)
  | [unit] => [alone unit]
  | [] => []
where
  /-- A code unit that belongs to no pair. -/
  alone (unit : Nat) : Char :=
    if 0xD800 ≤ unit ∧ unit < 0xE000 then '\uFFFD' else Char.ofNat unit

/-- The text up to its closing quote. -/
def text? (cs : List Char) : Option (String × List Char) := do
  let (units, rest) ← units? cs
  return (String.ofList (joinUnits units), rest)

/-- The natural that ASCII digits write. -/
def naturalOf (digits : List Char) : Nat :=
  digits.foldl (fun n c => 10 * n + (c.toNat - 48)) 0

/-- The digits at the front of a text, and what follows them. -/
def spanDigits (cs : List Char) : List Char × List Char :=
  (cs.takeWhile Char.isDigit, cs.dropWhile Char.isDigit)

/-- The float nearest to `± digits * 10 ^ exponent`. Exponents beyond the range of floats are not
expanded. -/
def floatOf (negative : Bool) (digits : Nat) (exponent : Int) : Float :=
  let lead := exponent + Decimal.digitCount digits
  let magnitude :=
    -- far outside of all floats, where the power of ten would only be large
    if digits = 0 ∨ lead < -330 then 0.0
    else if 310 < lead then Binary64.ofPattern false Binary64.infinityBits
    else Binary64.ofRatio (digits * power 10 exponent : Nat) (power 10 (-exponent))
  if negative then -magnitude else magnitude

/-- An exponent mark with its digits, if both are there. -/
def exponent? (cs : List Char) : Option (Int × List Char) :=
  match cs with
  | mark :: rest =>
    if mark = 'e' ∨ mark = 'E' then
      let (negative, rest) := match rest with
        | '-' :: rest => (true, rest)
        | '+' :: rest => (false, rest)
        | rest => (false, rest)
      match spanDigits rest with
      | ([], _) => none
      | (digits, rest) =>
        some (if negative then -(naturalOf digits : Int) else naturalOf digits, rest)
    else none
  | [] => none

/-- The digits behind a point, if there is a point and a digit. -/
def places? (cs : List Char) : Option (List Char × List Char) :=
  match cs with
  | '.' :: rest =>
    match spanDigits rest with
    | ([], _) => none
    | found => some found
  | _ => none

/-- A number without its sign. A leading zero stands alone. -/
def number? (negative : Bool) (cs : List Char) : Option (Data × List Char) :=
  let (whole, rest) := match cs with
    -- digits behind it are left over, so the document is refused for them
    | '0' :: rest => (['0'], rest)
    | cs => spanDigits cs
  if whole.isEmpty then none
  else
    let (places, rest) := (places? rest).getD ([], rest)
    match exponent? rest with
    | some (exponent, rest) =>
      some (float (floatOf negative (naturalOf (whole ++ places)) (exponent - places.length)), rest)
    | none =>
      if places.isEmpty then
        some (int (if negative then -(naturalOf whole : Int) else naturalOf whole), rest)
      else some (float (floatOf negative (naturalOf (whole ++ places)) (-places.length)), rest)

/-- What follows a word at the front of a text. -/
def afterWord? (word : String) (cs : List Char) : Option (List Char) :=
  if word.toList.isPrefixOf cs then some (cs.drop word.length) else none

def simple? (cs : List Char) : Option (Data × List Char) :=
  let words : List (String × Data) :=
    [("null", null), ("true", bool true), ("false", bool false),
      ("NaN", float (0.0 / 0.0)),
      ("Infinity", float (1.0 / 0.0)),
      ("-Infinity", float (-1.0 / 0.0))]
  let word := words.findSome? fun (word, value) =>
    (afterWord? word cs).map fun rest => (value, rest)
  -- the words come first, as one of the infinities begins like a number
  match word, cs with
  | some found, _ => some found
  | none, '-' :: rest => number? true rest
  | none, cs => number? false cs

mutual

/-- A value at the front of a text, which no gap precedes. -/
def value? : Nat → List Char → Option (Data × List Char)
  | 0, _ => none
  | _ + 1, '"' :: rest => do
    let (s, rest) ← text? rest
    return (text s, rest)
  | fuel + 1, '[' :: rest =>
    match rest.dropWhile isGap with
    | ']' :: rest => some (list [], rest)
    | rest => do
      let (items, rest) ← items? fuel rest
      return (list items, rest)
  | fuel + 1, '\x7b' :: rest =>
    match rest.dropWhile isGap with
    | '\x7d' :: rest => some (object [], rest)
    | rest => do
      let (fields, rest) ← fields? fuel [] rest
      return (object fields, rest)
  | _ + 1, cs => simple? cs

def items? : Nat → List Char → Option (List Data × List Char)
  | 0, _ => none
  | fuel + 1, cs => do
    let (item, rest) ← value? fuel cs
    match rest.dropWhile isGap with
    | ']' :: rest => return ([item], rest)
    | ',' :: rest =>
      let (items, rest) ← items? fuel (rest.dropWhile isGap)
      return (item :: items, rest)
    | _ => none

/-- The fields of an object up to its closing brace, after the ones already read. -/
def fields? : Nat → List (String × Data) → List Char → Option (List (String × Data) × List Char)
  | 0, _, _ => none
  | fuel + 1, before, '"' :: rest => do
    let (name, rest) ← text? rest
    match rest.dropWhile isGap with
    | ':' :: rest =>
      let (value, rest) ← value? fuel (rest.dropWhile isGap)
      let fields := Entries.insert name value before
      match rest.dropWhile isGap with
      | '\x7d' :: rest => return (fields, rest)
      | ',' :: rest => fields? fuel fields (rest.dropWhile isGap)
      | _ => none
    | _ => none
  | _ + 1, _, _ => none

end

/-- The data that a document writes, or nothing when it is not well formed. -/
def parse? (document : String) : Option Data := do
  let cs := document.toList
  -- a character begins at most an item of a list and the value of that item
  let (value, rest) ← value? (2 * cs.length + 1) (cs.dropWhile isGap)
  if rest.all isGap then return value else none

end Montage.Data
