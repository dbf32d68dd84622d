import Montage.Data.Reader
import Montage.Schema.Checked

/-!
# Reading simple values

Data is read leniently: a number may be written as text, a whole number as a float, a truth value as
a word. What is read is checked against the bounds of its field. The readers in this module are for
the values of fields; `Schema.Record` puts them together.
-/

namespace Montage.Schema

variable {α : Type}

/-! ## Numbers written as text -/

/-- The text without its underscores, each of which has to stand between two digits. The first
argument is the character before the text. -/
def ungroup : Char → List Char → Option (List Char)
  | _, [] => some []
  | before, '_' :: rest =>
    match rest with
    | after :: _ => if before.isDigit && after.isDigit then ungroup '_' rest else none
    | [] => none
  | _, c :: rest => (ungroup c rest).map (c :: ·)

/-- A sign at the front of a text, and what follows it. -/
def takeSign : List Char → Bool × List Char
  | '-' :: rest => (true, rest)
  | '+' :: rest => (false, rest)
  | rest => (false, rest)

/-- The integer written by a text: blanks around it, a sign, digits that may be grouped by
underscores, and possibly a fraction of zeros. -/
def integerText? (s : String) : Option Int := do
  let (negative, body) := takeSign (Text.trimBy Text.isBlank s.toList)
  let whole := body.takeWhile (· ≠ '.')
  let wholeFraction := match body.dropWhile (· ≠ '.') with
    | [] => true
    | _ :: places => !places.isEmpty && places.all (· = '0')
  let digits ← ungroup ' ' whole
  if wholeFraction && !digits.isEmpty && digits.all Char.isDigit then
    return if negative then -(Data.naturalOf digits : Int) else Data.naturalOf digits
  else none

/-- The float written by digits with a point anywhere among them and possibly an exponent. -/
def decimalFloat? (negative : Bool) (cs : List Char) : Option Float :=
  let (whole, rest) := Data.spanDigits cs
  let (places, rest) := match rest with
    | '.' :: rest => Data.spanDigits rest
    | rest => ([], rest)
  if whole.isEmpty && places.isEmpty then none
  else
    let digits := Data.naturalOf (whole ++ places)
    match rest with
    | [] => some (Data.floatOf negative digits (-places.length))
    | rest =>
      match Data.exponent? rest with
      | some (exponent, []) => some (Data.floatOf negative digits (exponent - places.length))
      | _ => none

/-- The float written by a text: blanks around it, a sign, and a decimal or the word for an infinity
or for an undefined value. A decimal too large for a float is infinite. -/
def floatText? (s : String) : Option Float := do
  let (negative, body) := takeSign (Text.trimBy Text.isBlank s.toList)
  let word := String.ofList (body.map Char.toLower)
  if word = "nan" then return 0.0 / 0.0
  else if word = "inf" ∨ word = "infinity" then return if negative then -1.0 / 0.0 else 1.0 / 0.0
  else decimalFloat? negative (← ungroup ' ' body)

/-! ## Whole numbers -/

/-- The integer that a float with no fractional part stands for. -/
def wholeFloat? (x : Float) : Option Int :=
  let magnitude := Binary64.magnitude x
  let num := magnitude.significand * power 2 magnitude.exponent
  let den := power 2 (-magnitude.exponent)
  if x.isFinite && num % den = 0 then
    some (if Binary64.isNegative x then -(num / den : Nat) else (num / den : Nat))
  else none

def integer : Data → Checked Int
  | .int n => pure n
  | .bool b => pure (if b then 1 else 0)
  | .float x => (wholeFloat? x).elim (Checked.refuse .fractionalInteger) pure
  | .text s => (integerText? s).elim (Checked.refuse .unreadableInteger) pure
  | _ => Checked.refuse .notInteger

def integerFrom (bound : Int) (d : Data) : Checked Int :=
  (integer d).demand (bound ≤ ·) (.below bound)

def integerWithin (low high : Int) (d : Data) : Checked Int :=
  ((integer d).demand (· ≤ high) (.above high)).demand (low ≤ ·) (.below low)

def positive (d : Data) : Checked Int :=
  (integer d).demand (0 < ·) (.notAbove 0)

/-! ## Floats -/

def number : Data → Checked Float
  | .float x => pure x
  | .int n => (Binary64.ofRatio? n 1).elim (Checked.refuse .notNumber) pure
  | .bool b => pure (if b then 1.0 else 0.0)
  | .text s => (floatText? s).elim (Checked.refuse .unreadableNumber) pure
  | _ => Checked.refuse .notNumber

/-- A number that is at least a bound. An undefined value is below every bound. -/
def numberFrom (bound : Int) (d : Data) : Checked Float :=
  (number d).demand (Binary64.ofRatio bound 1 ≤ ·) (.below bound)

/-- A number between two bounds, the upper one looked at first. -/
def numberWithin (low high : Int) (d : Data) : Checked Float :=
  ((number d).demand (· ≤ Binary64.ofRatio high 1) (.above high)).demand
    (Binary64.ofRatio low 1 ≤ ·) (.below low)

/-! ## Truth values and text -/

/-- The words for a truth value. -/
def truthWord? (s : String) : Option Bool :=
  let word := Text.small s
  if word ∈ ["1", "t", "true", "y", "yes", "on"] then some true
  else if word ∈ ["0", "f", "false", "n", "no", "off"] then some false
  else none

/-- The truth value of a whole number. -/
def truthNumber (n : Int) : Checked Bool :=
  if n = 0 then pure false else if n = 1 then pure true else Checked.refuse .unreadableBoolean

def truth : Data → Checked Bool
  | .bool b => pure b
  | .int n => truthNumber n
  | .float x => (wholeFloat? x).elim (Checked.refuse .notBoolean) truthNumber
  | .text s => (truthWord? s).elim (Checked.refuse .unreadableBoolean) pure
  | _ => Checked.refuse .notBoolean

def text : Data → Checked String
  | .text s => pure s
  | _ => Checked.refuse .notText

def nonEmptyText (d : Data) : Checked String :=
  (text d).demand (!·.isEmpty) .emptyText

/-- One of several values, by its name. -/
def choice (values : List α) (name : α → String) (d : Data) : Checked α :=
  let found := match d with
    | .text s => values.find? fun value => name value = s
    | _ => none
  found.elim (Checked.refuse (.notChoice (values.map name))) pure

/-! ## Values made of others -/

/-- A value that may be absent, for which null stands. -/
def optional (reader : Data → Checked α) : Data → Checked (Option α)
  | .null => pure none
  | d => some <$> reader d

def items (reader : Data → Checked α) : Nat → List Data → Checked (List α)
  | _, [] => pure []
  | index, item :: rest =>
    List.cons <$> (reader item).under (.item index) <*> items reader (index + 1) rest

def list (reader : Data → Checked α) : Data → Checked (List α)
  | .list entries => items reader 0 entries
  | _ => Checked.refuse .notList

def entries (reader : Data → Checked α) : Entries Data → Checked (Entries α)
  | [] => pure []
  | (name, value) :: rest =>
    (fun x xs => (name, x) :: xs) <$> (reader value).under (.field name) <*> entries reader rest

def table (reader : Data → Checked α) : Data → Checked (Table α)
  | .object fields => Table.ofEntries <$> entries reader fields
  | _ => Checked.refuse .notTable

end Montage.Schema
