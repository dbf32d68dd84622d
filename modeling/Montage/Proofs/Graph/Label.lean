import Mathlib.Data.Nat.Notation
import Montage.Graph.Compilation

/-!
# The texts of labels and pads

Labels that are numbered in the order in which they are handed out end in their number, which
`serial?` reads. Two labels with different numbers are therefore different, whatever their stems
are. Pads begin with the number of an input, and numbered labels with a letter, so that neither is
taken for the other (`isPad_append_of_digits`, `isPad_eq_false_of_head`).
-/

namespace Montage

/-! ## Numbered labels -/

/-- The number at the end of a label, if it ends in digits. -/
def serial? (label : String) : Option ℕ :=
  match label.toList.reverse.takeWhile Char.isDigit with
  | [] => none
  | digit :: more => some (Nat.ofDigitChars 10 (digit :: more).reverse 0)

/-- The number after a stem is the serial number, as long as the stem does not end in a digit. -/
theorem serial?_append {stem : String} (number : ℕ)
    (h : stem.toList.reverse.takeWhile Char.isDigit = []) :
    serial? (stem ++ toString number) = some number := by
  have hdigits : ∀ c ∈ (Nat.toDigits 10 number).reverse, c.isDigit = true := fun c hc =>
    Nat.isDigit_of_mem_toDigits (by decide) (by decide) (List.mem_reverse.mp hc)
  -- read from the end, the digits of the number come first, and the stem then stops the reading
  have htake : (stem ++ toString number).toList.reverse.takeWhile Char.isDigit =
      (Nat.toDigits 10 number).reverse := by
    rw [String.toList_append, List.reverse_append, Nat.toString_eq_repr, Nat.toList_repr,
      List.takeWhile_append_of_pos hdigits, h, List.append_nil]
  rw [serial?, htake]
  split
  · rename_i hnil
    exact absurd (List.reverse_eq_nil_iff.mp hnil) Nat.toDigits_ne_nil
  · rename_i hcons
    rw [← hcons, List.reverse_reverse, Nat.ofDigitChars_ten_toDigits]

/-! ## Pads -/

/-- The pad that the picture of an input is read from. -/
def videoPad (input : ℕ) : String :=
  toString input ++ ":v"

def audioPad (input : ℕ) : String :=
  toString input ++ ":a"

/-- The digits of a number are decimal digits in the sense of the pad pattern. -/
theorem isDecimalDigit_of_isDigit {c : Char} (h : c.isDigit = true) :
    Text.isDecimalDigit c = true := by
  simp only [Char.isDigit, Bool.and_eq_true, decide_eq_true_eq, UInt32.le_iff_toNat_le] at h
  simp only [Text.isDecimalDigit, Text.decimalZeros, List.any_cons, Bool.or_eq_true]
  refine .inl ?_
  simp only [Bool.and_eq_true, decide_eq_true_eq]
  exact h

/-- The number of an input with the end of a pad is a pad. -/
theorem isPad_append_of_digits {input : ℕ} {stream : String}
    (h : stream.toList = [':', 'v'] ∨ stream.toList = [':', 'a']) :
    Ledger.isPad (toString input ++ stream) = true := by
  have hdigits : ∀ c ∈ Nat.toDigits 10 input, Text.isDecimalDigit c = true := fun c hc =>
    isDecimalDigit_of_isDigit (Nat.isDigit_of_mem_toDigits (by decide) (by decide) hc)
  have hcolon : Text.isDecimalDigit ':' = false := by decide
  have hpos : 0 < (Nat.toDigits 10 input).length := Nat.length_toDigits_pos
  rw [Ledger.isPad, String.toList_append, Nat.toString_eq_repr, Nat.toList_repr]
  rw [List.dropWhile_append_of_pos hdigits]
  rcases h with h | h <;> simp [h, hcolon, hpos]

@[simp] theorem isPad_videoPad (input : ℕ) : Ledger.isPad (videoPad input) = true :=
  isPad_append_of_digits (.inl rfl)

@[simp] theorem isPad_audioPad (input : ℕ) : Ledger.isPad (audioPad input) = true :=
  isPad_append_of_digits (.inr rfl)

/-- Two pads of one stream differ in their number. -/
theorem toString_append_inj {first second : ℕ} {stream : String}
    (h : toString first ++ stream = toString second ++ stream) : first = second := by
  have hlist := congrArg String.toList h
  rw [String.toList_append, String.toList_append] at hlist
  have hvalue := congrArg (fun digits => Nat.ofDigitChars 10 digits 0)
    (List.append_cancel_right hlist)
  simpa [Nat.toString_eq_repr] using hvalue

@[simp] theorem videoPad_inj {first second : ℕ} : videoPad first = videoPad second ↔ first = second :=
  ⟨toString_append_inj, congrArg videoPad⟩

@[simp] theorem audioPad_inj {first second : ℕ} : audioPad first = audioPad second ↔ first = second :=
  ⟨toString_append_inj, congrArg audioPad⟩

/-- No pad is for picture and sound. -/
@[simp] theorem videoPad_ne_audioPad (first second : ℕ) : videoPad first ≠ audioPad second := by
  intro h
  have hlast := congrArg (fun label => label.toList.getLast?) h
  simp [videoPad, audioPad] at hlast

/-- What begins with something else than a digit is no pad. -/
theorem isPad_eq_false_of_head {label : String} {c : Char} {cs : List Char}
    (h : label.toList = c :: cs) (hc : Text.isDecimalDigit c = false) :
    Ledger.isPad label = false := by
  simp [Ledger.isPad, h, hc]

/-- A label after a stem that begins with something else than a digit is no pad. -/
theorem isPad_append {stem : String} {c : Char} {cs : List Char} (rest : String)
    (h : stem.toList = c :: cs) (hc : Text.isDecimalDigit c = false) :
    Ledger.isPad (stem ++ rest) = false :=
  isPad_eq_false_of_head (by rw [String.toList_append, h, List.cons_append]) hc

end Montage
