import Montage.Failure
import Montage.Text.Digit

/-!
# The label ledger

Every label of a filter graph is produced by one stage and consumed by at most one later stage. A
`Ledger` holds the labels that have been produced and consumed so far, and `Ledger.add` enters a
stage. Pads of input files are not entered. Where a stage is refused, the labels that it consumed
before the offending one stay consumed.
-/

namespace Montage

/-- The labels that have been produced and consumed, the latest first. -/
structure Ledger where
  produced : List String
  consumed : List String
deriving Repr, DecidableEq

namespace Ledger

/-- Nothing has been produced. -/
def empty : Ledger where
  produced := []
  consumed := []

/-- The label is a pad of an input file: the digits of its number, and `:a` or `:v`. A line break at
the end is overlooked. -/
def isPad (label : String) : Bool :=
  let cs := label.toList
  let rest := cs.dropWhile Text.isDecimalDigit
  rest.length < cs.length && (rest = [':', 'a'] || rest = [':', 'v'] ||
    rest = [':', 'a', '\n'] || rest = [':', 'v', '\n'])

/-- The ledger after a label has been read. -/
def consume (ledger : Ledger) (label : String) : Except Failure Ledger :=
  if isPad label then .ok ledger
  else if label ∉ ledger.produced then .error (.label label .consumedEarly)
  else if label ∈ ledger.consumed then .error (.label label .consumedTwice)
  else .ok { ledger with consumed := label :: ledger.consumed }

/-- The ledger after labels have been read one after the other, with what stopped that if anything
did. -/
def consumeAll (ledger : Ledger) : List String → Ledger × Option Failure
  | [] => (ledger, none)
  | label :: rest =>
    match ledger.consume label with
    | .ok next => next.consumeAll rest
    | .error failure => (ledger, some failure)

/-- The ledger after a stage that reads some labels and writes one, with what stopped it if anything
did. -/
def add (ledger : Ledger) (inputs : List String) (output : String) : Ledger × Option Failure :=
  if output ∈ ledger.produced then (ledger, some (.label output .assignedTwice))
  else
    match ledger.consumeAll inputs with
    | (next, none) => ({ next with produced := output :: next.produced }, none)
    | stopped => stopped

/-- The labels that have been produced and not consumed. -/
def dangling (ledger : Ledger) : List String :=
  ledger.produced.filter (· ∉ ledger.consumed)

/-- The least of some labels. -/
def least? : List String → Option String
  | [] => none
  | label :: rest =>
    match least? rest with
    | none => some label
    | some other => some (if label ≤ other then label else other)

/-- Fails for the least label that has been produced, not consumed, and is not to be delivered. -/
def checkDangling (ledger : Ledger) (outputs : List String) : Except Failure Unit :=
  match least? (ledger.dangling.filter (· ∉ outputs)) with
  | some label => .error (.label label .neverConsumed)
  | none => .ok ()

end Ledger

end Montage
