import Mathlib.Data.List.TakeWhile
import Mathlib.Data.Rat.Init
import Mathlib.Tactic.FieldSimp
import Mathlib.Tactic.Ring
import Montage.Clock

/-!
# Reading decimals back

`readDecimal?` is the number that a decimal text writes: digits with a point among them or without,
and possibly a minus sign. It inverts `Decimal.text` (`readDecimal?_text`), so a number of few enough
digits is written exactly (`readDecimal?_decimalText`).
-/

namespace Montage

open Decimal

/-! ## Reading -/

/-- The number that digits write, if there are any and nothing else is among them. -/
def readDigits? (cs : List Char) : Option ℕ :=
  if !cs.isEmpty && cs.all Char.isDigit then some (Nat.ofDigitChars 10 cs 0) else none

/-- The number that digits write, with a point among them or without. -/
def readMagnitude? (cs : List Char) : Option ℚ :=
  let whole := cs.takeWhile (· ≠ '.')
  match cs.dropWhile (· ≠ '.') with
  | [] => (readDigits? whole).map fun n : ℕ => (n : ℚ)
  | _ :: places => do
    let n ← readDigits? whole
    let part ← readDigits? places
    return n + part / 10 ^ places.length

/-- The number that a decimal text writes. -/
def readDecimal? (text : String) : Option ℚ :=
  match text.toList with
  | '-' :: cs => (readMagnitude? cs).map fun x => -x
  | cs => readMagnitude? cs

/-! ## Digits -/

/-- Digits are read as the number that they write. -/
theorem readDigits?_eq_some {cs : List Char} (hne : cs ≠ []) (hdigit : ∀ c ∈ cs, c.isDigit) :
    readDigits? cs = some (Nat.ofDigitChars 10 cs 0) := by
  rw [readDigits?, if_pos]
  rw [Bool.and_eq_true, List.all_eq_true]
  exact ⟨by simpa using hne, hdigit⟩

theorem isDigit_of_mem_digits {n : ℕ} {c : Char} (h : c ∈ digits n) : c.isDigit :=
  Nat.isDigit_of_mem_toDigits (by decide) (by decide) h

theorem isDigit_of_mem_leftpad {n width : ℕ} {c : Char}
    (h : c ∈ (digits n).leftpad width '0') : c.isDigit := by
  rw [List.leftpad, List.mem_append] at h
  rcases h with hzero | hdigit
  · rw [(List.mem_replicate.mp hzero).2]
    decide
  · exact isDigit_of_mem_digits hdigit

theorem ne_of_isDigit {c mark : Char} (h : c.isDigit) (hmark : mark.isDigit = false) :
    c ≠ mark := by
  rintro rfl
  rw [h] at hmark
  cases hmark

/-- A text of digits and a point is cut at the point. -/
theorem takeWhile_ne_point {whole rest : List Char} (h : ∀ c ∈ whole, c.isDigit) :
    (whole ++ '.' :: rest).takeWhile (· ≠ '.') = whole ∧
      (whole ++ '.' :: rest).dropWhile (· ≠ '.') = '.' :: rest := by
  have hne : ∀ c ∈ whole, decide (c ≠ '.') = true := fun c hc =>
    decide_eq_true (ne_of_isDigit (h c hc) rfl)
  rw [List.takeWhile_append_of_pos hne, List.dropWhile_append_of_pos hne]
  simp

/-- Digits without a point are read as a whole number. -/
theorem readMagnitude?_of_digits {cs : List Char} (hne : cs ≠ []) (hdigit : ∀ c ∈ cs, c.isDigit) :
    readMagnitude? cs = some ((Nat.ofDigitChars 10 cs 0 : ℕ) : ℚ) := by
  have hpoint : ∀ c ∈ cs, decide (c ≠ '.') = true := fun c hc =>
    decide_eq_true (ne_of_isDigit (hdigit c hc) rfl)
  rw [readMagnitude?, List.takeWhile_eq_self_iff.mpr hpoint, List.dropWhile_eq_nil_iff.mpr hpoint,
    readDigits?_eq_some hne hdigit]
  rfl

/-- Digits around a point are read as all digits together, moved by the places after the point. -/
theorem readMagnitude?_of_point {whole places : List Char} (hwhole : whole ≠ [])
    (hplaces : places ≠ []) (hdigit : ∀ c ∈ whole ++ places, c.isDigit) :
    readMagnitude? (whole ++ '.' :: places) =
      some ((Nat.ofDigitChars 10 (whole ++ places) 0 : ℕ) / 10 ^ places.length : ℚ) := by
  have hwholeDigit : ∀ c ∈ whole, c.isDigit := fun c hc => hdigit c (List.mem_append_left _ hc)
  have hplacesDigit : ∀ c ∈ places, c.isDigit := fun c hc => hdigit c (List.mem_append_right _ hc)
  obtain ⟨htake, hdrop⟩ := @takeWhile_ne_point whole places hwholeDigit
  -- both parts in a row are the whole part moved up by the places, plus the places
  have hvalue : Nat.ofDigitChars 10 (whole ++ places) 0 =
      10 ^ places.length * Nat.ofDigitChars 10 whole 0 + Nat.ofDigitChars 10 places 0 := by
    rw [Nat.ofDigitChars_append]
    exact Nat.ofDigitChars_eq_ofDigitChars_zero
  rw [readMagnitude?, htake, hdrop, readDigits?_eq_some hwhole hwholeDigit]
  dsimp only
  rw [readDigits?_eq_some hplaces hplacesDigit, hvalue]
  simp only [Option.bind_eq_bind, Option.bind_some, Option.pure_def, Option.some.injEq]
  push_cast
  field_simp

/-! ## Texts of decimals -/

/-- A natural with a point among its digits is read as it is meant. -/
theorem readMagnitude?_pointed (n places : ℕ) :
    readMagnitude? (pointed n places) = some (n / 10 ^ places : ℚ) := by
  rw [pointed]
  by_cases hzero : places = 0
  · have hne : digits n ≠ [] := Nat.toDigits_ne_nil
    rw [if_pos hzero, readMagnitude?_of_digits hne fun _ => isDigit_of_mem_digits, digits,
      Nat.ofDigitChars_ten_toDigits]
    simp [hzero]
  · rw [if_neg hzero]
    dsimp only
    -- all that matters of the padded digits is their value and that there are enough of them
    generalize hpadded : (digits n).leftpad (places + 1) '0' = padded
    have hlength : places + 1 ≤ padded.length := by
      rw [← hpadded, List.length_leftpad]
      exact Nat.le_max_left _ _
    have hdigit : ∀ c ∈ padded, c.isDigit := by
      intro c hc
      rw [← hpadded] at hc
      exact isDigit_of_mem_leftpad hc
    have hvalue : Nat.ofDigitChars 10 padded 0 = n := by
      rw [← hpadded, List.leftpad, Nat.ofDigitChars_append, Nat.ofDigitChars_replicate_zero,
        Nat.mul_zero, digits, Nat.ofDigitChars_ten_toDigits]
    have hplaces : (padded.drop (padded.length - places)).length = places := by
      rw [List.length_drop]
      omega
    rw [readMagnitude?_of_point, List.take_append_drop, hvalue, hplaces]
    · apply List.ne_nil_of_length_pos
      rw [List.length_take]
      omega
    · apply List.ne_nil_of_length_pos
      omega
    · rwa [List.take_append_drop]

/-- Only digits and the point are written for a natural. -/
theorem isDigit_or_eq_of_mem_pointed {n places : ℕ} {c : Char} (h : c ∈ pointed n places) :
    c.isDigit ∨ c = '.' := by
  unfold pointed at h
  split at h
  · exact .inl (isDigit_of_mem_digits h)
  · rw [List.mem_append, List.mem_cons] at h
    rcases h with hwhole | rfl | hplaces
    · exact .inl (isDigit_of_mem_leftpad (List.mem_of_mem_take hwhole))
    · exact .inr rfl
    · exact .inl (isDigit_of_mem_leftpad (List.mem_of_mem_drop hplaces))

/-- There is no minus among the digits. -/
theorem ne_minus_of_mem_pointed {n places : ℕ} {c : Char} (h : c ∈ pointed n places) : c ≠ '-' := by
  rcases isDigit_or_eq_of_mem_pointed h with hdigit | rfl
  · exact ne_of_isDigit hdigit rfl
  · decide

/-- A text without a minus sign is read as a magnitude. -/
theorem readDecimal?_ofList {cs : List Char} (h : ∀ c ∈ cs, c ≠ '-') :
    readDecimal? (String.ofList cs) = readMagnitude? cs := by
  rw [readDecimal?, String.toList_ofList]
  split
  · exact absurd rfl (h '-' List.mem_cons_self)
  · rfl

/-- A minus in front is read as the sign. -/
theorem readDecimal?_ofList_minus (cs : List Char) :
    readDecimal? (String.ofList ('-' :: cs)) = (readMagnitude? cs).map fun x => -x := by
  rw [readDecimal?, String.toList_ofList]
  rfl

theorem power_cast (exponent : ℤ) : (power 10 exponent : ℚ) = 10 ^ exponent.toNat := by
  show ((10 ^ exponent.toNat : ℕ) : ℚ) = _
  rw [Nat.cast_pow]
  rfl

/-- The value of a decimal is its digits over a power of ten, with its sign. -/
theorem Decimal.toRat_eq (d : Decimal) {sign : ℤ} (h : d.coefficient = sign * d.coefficient.natAbs) :
    d.toRat =
      sign * ((d.coefficient.natAbs * power 10 d.exponent : ℕ) / 10 ^ (-d.exponent).toNat) := by
  have hcoefficient : (d.coefficient : ℚ) = sign * d.coefficient.natAbs := by
    rw [← Int.cast_natCast d.coefficient.natAbs, ← Int.cast_mul, ← h]
  rw [toRat, power_cast]
  push_cast
  rw [hcoefficient]
  ring

/-- A decimal of some places is its coefficient over a power of ten. -/
theorem Decimal.toRat_mk (coefficient : ℤ) (places : ℕ) :
    (Decimal.mk coefficient (-places)).toRat = coefficient / 10 ^ places := by
  have hone : power 10 (-(places : ℤ)) = 1 := power_of_nonpos 10 (by omega)
  rw [toRat, power_cast, hone, Int.neg_neg, Int.toNat_natCast, Nat.cast_one, Int.mul_one]

/-- **The text of a decimal is read as the decimal.** -/
theorem readDecimal?_text (d : Decimal) : readDecimal? d.text = some d.toRat := by
  rw [text]
  by_cases hneg : d.coefficient < 0
  · have hsign : d.coefficient = -1 * d.coefficient.natAbs := by omega
    rw [if_pos hneg, readDecimal?_ofList_minus, readMagnitude?_pointed, d.toRat_eq hsign]
    simp
  · have hsign : d.coefficient = 1 * d.coefficient.natAbs := by omega
    rw [if_neg hneg, readDecimal?_ofList fun _ => ne_minus_of_mem_pointed, readMagnitude?_pointed,
      d.toRat_eq hsign]
    simp

/-! ## Numbers of few digits -/

/-- Zeros are dropped from the end of a fraction without changing its value. -/
theorem dropZeros_spec (n places : ℕ) :
    (dropZeros n places).1 * 10 ^ (places - (dropZeros n places).2) = n ∧
      (dropZeros n places).2 ≤ places := by
  induction places generalizing n with
  | zero => simp [dropZeros]
  | succ places ih =>
    rw [dropZeros]
    by_cases hzero : n % 10 = 0
    · rw [if_pos hzero]
      obtain ⟨hvalue, hle⟩ := ih (n / 10)
      refine ⟨?_, by omega⟩
      rw [Nat.succ_sub hle, Nat.pow_succ, ← Nat.mul_assoc, hvalue]
      omega
    · rw [if_neg hzero]
      simp

/-- Dropping zeros does not make a number larger. -/
theorem dropZeros_le (n places : ℕ) : (dropZeros n places).1 ≤ n := by
  have hvalue := (dropZeros_spec n places).1
  calc (dropZeros n places).1
      ≤ (dropZeros n places).1 * 10 ^ (places - (dropZeros n places).2) :=
        Nat.le_mul_of_pos_right _ (Nat.pow_pos (by decide))
    _ = n := hvalue

/-- A number is kept as it is when no more than `precision` of its digits are left. -/
theorem limit_eq {n places : ℕ} (h : (dropZeros n places).1 < 10 ^ precision) :
    limit n places = ((dropZeros n places).1, -((dropZeros n places).2 : ℤ)) := by
  have hcount : digitCount (dropZeros n places).1 ≤ precision :=
    (Nat.length_toDigits_le_iff (by decide) (by decide)).mpr h
  rw [limit]
  dsimp only
  rw [if_pos hcount]

/-- Units in a text of limited precision keep their value. -/
theorem ofUnits_toRat {units : ℤ} {places : ℕ}
    (h : (dropZeros units.natAbs places).1 < 10 ^ precision) :
    (ofUnits units places).toRat = units / 10 ^ places := by
  obtain ⟨hvalue, hle⟩ := dropZeros_spec units.natAbs places
  rw [ofUnits, limit_eq h]
  dsimp only
  generalize (dropZeros units.natAbs places).1 = kept,
    (dropZeros units.natAbs places).2 = left at hvalue hle
  -- the zeros that have been dropped are the power of ten between the two coefficients
  obtain ⟨dropped, rfl⟩ := Nat.exists_eq_add_of_le hle
  rw [Nat.add_sub_cancel_left] at hvalue
  have hunits : units = (if units < 0 then -(kept : ℤ) else kept) * 10 ^ dropped := by
    have hkept : (kept : ℤ) * 10 ^ dropped = units.natAbs := by exact_mod_cast hvalue
    split
    · rw [Int.neg_mul, hkept]
      omega
    · rw [hkept]
      omega
  generalize (if units < 0 then -(kept : ℤ) else kept) = coefficient at hunits
  rw [toRat_mk, hunits]
  push_cast
  rw [pow_add]
  field_simp

/-- **A decimal text is read as the number it was rounded to**, when that has few enough digits. -/
theorem readDecimal?_decimalText {value : ℚ} {places : ℕ}
    (h : (dropZeros (roundHalfUp (value * 10 ^ places)).natAbs places).1 < 10 ^ precision) :
    readDecimal? (decimalText value places) =
      some (roundHalfUp (value * 10 ^ places) / 10 ^ places : ℚ) := by
  rw [decimalText, readDecimal?_text, power_cast, Int.toNat_natCast, ofUnits_toRat h]

end Montage
