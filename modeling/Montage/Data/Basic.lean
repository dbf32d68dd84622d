import Montage.Number.Shortest
import Montage.Table
import Montage.Text.Quoted

/-!
# Structured data

`Data` is what crosses the boundary of the library: manifests and anchor tables come in as data, and
every stored value can be written out as data again. Integers have any size and are kept apart from
floats. The fields of an object are in the order they were written, and each name occurs once.

Texts are well-formed. A `String` is a sequence of characters, and half of a surrogate pair is none of
them, so a text that has one without the other is not among the texts, names and keys of data.
-/

namespace Montage

/-- A value of structured data. -/
inductive Data where
  | null
  | bool (b : Bool)
  | int (n : Int)
  | float (x : Float)
  | text (s : String)
  | list (items : List Data)
  | object (fields : List (String × Data))

namespace Data

instance : Inhabited Data := ⟨null⟩

/-! ## Composition -/

def ofOption {α : Type} (data : α → Data) (value : Option α) : Data :=
  value.elim null data

def ofList {α : Type} (data : α → Data) (values : List α) : Data :=
  list (values.map data)

def ofTable {α : Type} (data : α → Data) (table : Table α) : Data :=
  object (table.entries.map fun (name, value) => (name, data value))

/-! ## Removal of nulls -/

mutual

/-- The data without the null fields of its objects, at every depth. -/
def dropNulls : Data → Data
  | list items => list (dropNullsList items)
  | object fields => object (dropNullsFields fields)
  | other => other

def dropNullsList : List Data → List Data
  | [] => []
  | item :: rest => dropNulls item :: dropNullsList rest

/-- The fields that are not null, without null fields inside them. -/
def dropNullsFields : List (String × Data) → List (String × Data)
  | [] => []
  | (_, null) :: rest => dropNullsFields rest
  | (name, value) :: rest => (name, dropNulls value) :: dropNullsFields rest

end

/-! ## Values in messages -/

mutual

/-- The text of a value inside a message: words for null and booleans, quotes only around text that
stands inside a list or an object. -/
def shown : Data → String
  | null => "None"
  | bool b => if b then "True" else "False"
  | int n => toString n
  | float x => floatText x
  | text s => Text.quoted s
  | list items => "[" ++ ", ".intercalate (shownList items) ++ "]"
  | object fields => "\x7b" ++ ", ".intercalate (shownFields fields) ++ "\x7d"

def shownList : List Data → List String
  | [] => []
  | item :: rest => shown item :: shownList rest

def shownFields : List (String × Data) → List String
  | [] => []
  | (name, value) :: rest => (Text.quoted name ++ ": " ++ shown value) :: shownFields rest

end

/-- The text of a value that a message speaks of. -/
def spoken : Data → String
  | text s => s
  | other => shown other

end Data

end Montage
