import Montage.Data.Basic
import Montage.Failure

/-!
# Checked values

A `Checked` value is a value, or all the faults that were found in the data it was read from. Fields
of a record are read independently (`Checked.seq`) and their faults are reported together, in the
order of the fields; a rule over the whole record is looked at only when every field is sound
(`Checked.andThen`).
-/

namespace Montage

variable {α β : Type}

/-- A value, or the faults found on the way to it. -/
inductive Checked (α : Type) where
  | ok (value : α)
  | faulty (faults : List Fault)

namespace Checked

def map (f : α → β) : Checked α → Checked β
  | ok value => ok (f value)
  | faulty faults => faulty faults

/-- A function applied to a value, with the faults of both. -/
def seq : Checked (α → β) → Checked α → Checked β
  | ok f, ok value => ok (f value)
  | ok _, faulty faults => faulty faults
  | faulty faults, ok _ => faulty faults
  | faulty first, faulty second => faulty (first ++ second)

instance : Applicative Checked where
  pure := ok
  map := map
  seq f x := seq f (x ())

/-- A single fault at the value itself. -/
def refuse (cause : Cause) : Checked α :=
  faulty [⟨[], cause⟩]

/-- The faults found one step further down. -/
def under (segment : Segment) : Checked α → Checked α
  | ok value => ok value
  | faulty faults => faulty (faults.map fun fault => ⟨segment :: fault.path, fault.cause⟩)

/-- A check that needs the value. -/
def andThen (x : Checked α) (f : α → Checked β) : Checked β :=
  match x with
  | ok value => f value
  | faulty faults => faulty faults

/-- The value if it has a property, and else a fault. -/
def demand (x : Checked α) (p : α → Bool) (cause : Cause) : Checked α :=
  x.andThen fun value => if p value then ok value else refuse cause

/-- The value, or the faults as a failure. -/
def toExcept : Checked α → Except Failure α
  | ok value => .ok value
  | faulty faults => .error (.invalid faults)

end Checked

end Montage
