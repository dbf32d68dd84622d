import Montage.Schema.Value

/-!
# Reading records

A record is read from an object, field by field. Fields that the record does not have are ignored; a
missing field takes its default, or is a fault when it has none.
-/

namespace Montage.Schema

variable {α : Type}

/-- A field that has to be there. -/
def field (fields : Entries Data) (name : String) (reader : Data → Checked α) : Checked α :=
  ((Entries.get? name fields).elim (Checked.refuse .missing) reader).under (.field name)

/-- A field with a default. The default is taken as it is. -/
def fieldOr (fields : Entries Data) (name : String) (default : α)
    (reader : Data → Checked α) : Checked α :=
  ((Entries.get? name fields).elim (pure default) reader).under (.field name)

/-- A field that may be absent or null. -/
def fieldOption (fields : Entries Data) (name : String) (reader : Data → Checked α) :
    Checked (Option α) :=
  fieldOr fields name none (optional reader)

/-- The field that names the kind of a record, where it may be left out. -/
def fieldKind (fields : Entries Data) (kinds : List String) : Checked String :=
  let reader (d : Data) : Checked String :=
    match d with
    | .text s => if s ∈ kinds then pure s else Checked.refuse (.notLiteral kinds)
    | _ => Checked.refuse (.notLiteral kinds)
  fieldOr fields "kind" (kinds.headD "") reader

/-- A record of a given name, read from its fields. -/
def record (name : String) (reader : Entries Data → Checked α) : Data → Checked α
  | .object fields => reader fields
  | _ => Checked.refuse (.notRecord name)

/-- The tag that tells which kind of record an object is. -/
def tag (known : List String) (fields : Entries Data) : Checked String :=
  match Entries.get? "kind" fields with
  | none => Checked.refuse .noTag
  | some d =>
    match d with
    | .text s => if s ∈ known then pure s else Checked.refuse (.unknownTag s known)
    | d => Checked.refuse (.unknownTag d.spoken known)

/-- A record of one of several kinds, told apart by its tag. Faults inside it are reported under the
tag. -/
def variant (known : List String) (reader : String → Entries Data → Checked α) :
    Data → Checked α
  | .object fields =>
    (tag known fields).andThen fun kind => (reader kind fields).under (.field kind)
  | _ => Checked.refuse .notVariant

end Montage.Schema
