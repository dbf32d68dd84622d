import Montage.Failure
import Montage.Log

/-!
# Reports

An operation that has something to tell gives a `Report`: its result, with the log entries that were
made on the way to it. Reports are put together step by step. A failure ends them and keeps what was
told before it, and no result depends on an entry.
-/

namespace Montage

/-- The result of an operation, with what was told on the way to it. -/
structure Report (α : Type) where
  entries : List Log.Entry
  result : Except Failure α

namespace Report

variable {α β σ : Type}

/-- Tells entries. -/
def tell (entries : List Log.Entry) : Report Unit where
  entries := entries
  result := .ok ()

/-- A result with nothing to tell. -/
def ofResult (result : Except Failure α) : Report α where
  entries := []
  result := result

/-- A report goes on with its value, and ends with a failure. -/
def andThen (report : Report α) (next : α → Report β) : Report β :=
  match report.result with
  | .ok value => ⟨report.entries ++ (next value).entries, (next value).result⟩
  | .error failure => ⟨report.entries, .error failure⟩

instance : Monad Report where
  pure value := ofResult (.ok value)
  bind := andThen

instance : MonadLift (Except Failure) Report where
  monadLift := ofResult

end Report

end Montage
