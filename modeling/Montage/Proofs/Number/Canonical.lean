import Mathlib.Data.List.Induction
import Mathlib.Tactic.Linarith
import Montage.Proofs.Number.Reading

/-!
# Canonical decimal texts

A number has many decimal texts and one canonical one: at most one minus sign, and none for zero;
digits without zeros in front; and, if they are needed, a point and digits that do not end in zeros
(`CanonicalText`). Canonical texts that are read alike are the same
(`CanonicalText.eq_of_readDecimal?`), and `decimalText` writes the one of the number that it rounds
to (`decimalText_canonical`).
-/

namespace Montage

open Decimal

/-! ## The form of a text -/

/-- Digits that write a natural number, without zeros in front. -/
structure WholeDigits (cs : List Char) : Prop where
  ne_nil : cs ≠ []
  digit : ∀ c ∈ cs, c.isDigit
  lead : cs.head? = some '0' → cs = ['0']

/-- Digits after a point: at least one of them, no more than so many, and no zero at the end. -/
structure PlaceDigits (places : ℕ) (cs : List Char) : Prop where
  ne_nil : cs ≠ []
  digit : ∀ c ∈ cs, c.isDigit
  length_le : cs.length ≤ places
  last : cs.getLast? ≠ some '0'

/-- The canonical form of a number that is not below zero. -/
inductive CanonicalMagnitude (places : ℕ) : List Char → Prop
  | whole {cs : List Char} (h : WholeDigits cs) : CanonicalMagnitude places cs
  | fraction {whole part : List Char} (hwhole : WholeDigits whole)
      (hpart : PlaceDigits places part) : CanonicalMagnitude places (whole ++ '.' :: part)

/-- The canonical form of a number. Zero has no minus sign. -/
inductive CanonicalText (places : ℕ) : String → Prop
  | plain {cs : List Char} (h : CanonicalMagnitude places cs) :
      CanonicalText places (String.ofList cs)
  | minus {cs : List Char} (h : CanonicalMagnitude places cs) (hne : cs ≠ ['0']) :
      CanonicalText places (String.ofList ('-' :: cs))

/-! ## Digits of naturals -/

theorem exists_digitChar {c : Char} (h : c.isDigit) : ∃ d < 10, c = Nat.digitChar d := by
  rw [Char.isDigit, Bool.and_eq_true, decide_eq_true_eq, decide_eq_true_eq] at h
  have hlow : 48 ≤ c.toNat := h.1
  have hhigh : c.toNat ≤ 57 := h.2
  refine ⟨c.toNat - 48, by omega, Char.toNat_inj.mp ?_⟩
  rw [Nat.toNat_digitChar_of_lt_ten (by omega)]
  omega

/-- The last digit of a number is written behind the others. -/
theorem digits_ten_mul_add {n d : ℕ} (hn : 0 < n) (hd : d < 10) :
    digits (10 * n + d) = digits n ++ [d.digitChar] := by
  rw [digits, ← Nat.toDigits_append_toDigits (by decide) hn hd, Nat.toDigits_of_lt_base hd]
  rfl

/-- A number that is not 0 begins with another digit. -/
theorem head?_digits {n : ℕ} (h : n ≠ 0) : (digits n).head? ≠ some '0' := by
  induction n using Nat.strong_induction_on with
  | _ n ih =>
    rw [digits, Nat.toDigits_eq_if (by decide)]
    split
    · simpa using h
    · rw [List.head?_append_of_ne_nil _ Nat.toDigits_ne_nil]
      exact ih (n / 10) (by omega) (by omega)

theorem wholeDigits_digits (n : ℕ) : WholeDigits (digits n) where
  ne_nil := Nat.toDigits_ne_nil
  digit := fun _ => isDigit_of_mem_digits
  lead := by
    intro hlead
    by_cases hzero : n = 0
    · rw [hzero, digits, Nat.toDigits_zero]
    · exact absurd hlead (head?_digits hzero)

/-! ### Digits with zeros in front -/

section Padded

variable {n width : ℕ}

theorem leftpad_of_le (h : width ≤ (digits n).length) :
    (digits n).leftpad width '0' = digits n := by
  rw [List.leftpad, Nat.sub_eq_zero_of_le h]
  rfl

theorem head?_leftpad (h : (digits n).length < width) :
    ((digits n).leftpad width '0').head? = some '0' := by
  obtain ⟨zeros, hzeros⟩ := Nat.exists_eq_add_one_of_ne_zero (Nat.sub_pos_of_lt h).ne'
  rw [List.leftpad, hzeros]
  rfl

/-- The last digit is the remainder by ten. -/
theorem getLast?_leftpad (n width : ℕ) :
    ((digits n).leftpad width '0').getLast? = some (n % 10).digitChar := by
  rw [List.leftpad, List.getLast?_append, digits, Nat.toDigits_eq_if (by decide)]
  split
  · rw [Nat.mod_eq_of_lt (by assumption)]
    rfl
  · rw [List.getLast?_concat]
    rfl

/-- Digits are those of the number that they write, with zeros in front up to their length. -/
theorem leftpad_digits {cs : List Char} (hne : cs ≠ []) (hdigit : ∀ c ∈ cs, c.isDigit) :
    (digits (Nat.ofDigitChars 10 cs 0)).leftpad cs.length '0' = cs := by
  -- a number has its last digit at the end, so the digits are taken off from there
  induction cs using List.reverseRecOn with
  | nil => exact absurd rfl hne
  | append_singleton cs c ih =>
    obtain ⟨d, hd, rfl⟩ := exists_digitChar (hdigit c (by simp))
    rw [Nat.ofDigitChars_append, Nat.ofDigitChars_cons_digitChar_of_lt_ten hd, Nat.ofDigitChars_nil,
      List.length_append, List.length_singleton]
    by_cases hnil : cs = []
    · subst hnil
      simp [digits, Nat.toDigits_of_lt_base hd, List.leftpad]
    have ih := ih hnil fun c hc => hdigit c (List.mem_append_left _ hc)
    rcases Nat.eq_zero_or_pos (Nat.ofDigitChars 10 cs 0) with hzero | hpos
    · obtain ⟨zeros, hzeros⟩ := Nat.exists_eq_add_one_of_ne_zero (List.length_pos_iff.mpr hnil).ne'
      rw [hzero, hzeros, digits, Nat.toDigits_zero] at ih
      rw [hzero, hzeros, Nat.mul_zero, Nat.zero_add, digits, Nat.toDigits_of_lt_base hd, ← ih]
      simp [List.leftpad, List.replicate_succ']
    · rw [digits_ten_mul_add hpos hd]
      conv_rhs => rw [← ih]
      simp [List.leftpad]

end Padded

/-- Digits without zeros in front are exactly those of the number that they write. -/
theorem WholeDigits.digits_eq {cs : List Char} (h : WholeDigits cs) :
    digits (Nat.ofDigitChars 10 cs 0) = cs := by
  have hpad := leftpad_digits h.ne_nil h.digit
  by_cases hless : (digits (Nat.ofDigitChars 10 cs 0)).length < cs.length
  · have hhead := head?_leftpad hless
    rw [hpad] at hhead
    rw [h.lead hhead]
    rfl
  · rwa [leftpad_of_le (Nat.not_lt.mp hless)] at hpad

/-! ## Naturals with a point -/

theorem canonicalMagnitude_pointed {n k places : ℕ} (hplaces : k ≤ places)
    (hlast : k = 0 ∨ n % 10 ≠ 0) : CanonicalMagnitude places (pointed n k) := by
  rw [pointed]
  by_cases hzero : k = 0
  · rw [if_pos hzero]
    exact .whole (wholeDigits_digits n)
  have hlast := hlast.resolve_left hzero
  rw [if_neg hzero]
  dsimp only
  -- a zero in front has been filled in, so there is nothing else before the point
  have hlead : ((digits n).leftpad (k + 1) '0').head? = some '0' →
      ((digits n).leftpad (k + 1) '0').length = k + 1 := by
    intro hhead
    rw [List.length_leftpad]
    by_contra hlonger
    rw [leftpad_of_le (by omega)] at hhead
    exact head?_digits (by rintro rfl; exact hlast rfl) hhead
  have hlength : k + 1 ≤ ((digits n).leftpad (k + 1) '0').length := by
    rw [List.length_leftpad]
    exact Nat.le_max_left _ _
  have hdigit : ∀ c ∈ (digits n).leftpad (k + 1) '0', c.isDigit := fun _ => isDigit_of_mem_leftpad
  have hend := getLast?_leftpad n (k + 1)
  -- from here on the text is any list of digits with this length and these ends
  generalize (digits n).leftpad (k + 1) '0' = padded at *
  refine .fraction ⟨?_, fun c hc => hdigit c (List.mem_of_mem_take hc), ?_⟩
    ⟨?_, fun c hc => hdigit c (List.mem_of_mem_drop hc), ?_, ?_⟩
  · apply List.ne_nil_of_length_pos
    rw [List.length_take]
    omega
  · intro hhead
    rw [List.head?_take, if_neg (by omega)] at hhead
    rw [hlead hhead, Nat.add_sub_cancel_left, List.take_one, hhead]
    rfl
  · apply List.ne_nil_of_length_pos
    rw [List.length_drop]
    omega
  · rw [List.length_drop]
    omega
  · rw [List.getLast?_drop, if_neg (by omega), hend]
    simpa using hlast

/-- What is canonical is a natural with a point whose last place is not zero. -/
theorem CanonicalMagnitude.exists_pointed {places : ℕ} {cs : List Char}
    (h : CanonicalMagnitude places cs) : ∃ n k, (k = 0 ∨ n % 10 ≠ 0) ∧ pointed n k = cs := by
  cases h with
  | whole h => exact ⟨_, 0, .inl rfl, by rw [pointed, if_pos rfl, h.digits_eq]⟩
  | @fraction whole part hwhole hpart =>
    have hdigit : ∀ c ∈ whole ++ part, c.isDigit := fun c hc =>
      (List.mem_append.mp hc).elim (hwhole.digit c) (hpart.digit c)
    have hpad := leftpad_digits (List.append_ne_nil_of_right_ne_nil whole hpart.ne_nil) hdigit
    refine ⟨Nat.ofDigitChars 10 (whole ++ part) 0, part.length, .inr ?_, ?_⟩
    all_goals generalize Nat.ofDigitChars 10 (whole ++ part) 0 = n at hpad
    · intro hzero
      have hend := getLast?_leftpad n (whole ++ part).length
      rw [hpad, hzero, List.getLast?_append_of_ne_nil whole hpart.ne_nil] at hend
      exact hpart.last hend
    · -- there are zeros in front of the number only where its whole part is zero
      have hpadded : (digits n).leftpad (part.length + 1) '0' = whole ++ part := by
        by_cases hone : whole.length = 1
        · rwa [List.length_append, hone, Nat.add_comm] at hpad
        · have henough : (whole ++ part).length ≤ (digits n).length := by
            by_contra hless
            have hhead := head?_leftpad (Nat.not_le.mp hless)
            rw [hpad, List.head?_append_of_ne_nil whole hwhole.ne_nil] at hhead
            rw [hwhole.lead hhead] at hone
            exact hone rfl
          have hpos := List.length_pos_iff.mpr hwhole.ne_nil
          rw [leftpad_of_le henough] at hpad
          rw [List.length_append] at henough
          rwa [leftpad_of_le (by omega)]
      have hlength : (whole ++ part).length - part.length = whole.length := by simp
      rw [pointed, if_neg (List.length_pos_iff.mpr hpart.ne_nil).ne', hpadded]
      dsimp only
      rw [hlength, List.take_left, List.drop_left]

/-! ## Uniqueness -/

/-- Two numbers over powers of ten are equal only if they are written the same, without zeros at
their ends. -/
theorem eq_of_mul_pow_eq {n m k l : ℕ} (hm : l = 0 ∨ m % 10 ≠ 0) (hle : k ≤ l)
    (h : n * 10 ^ l = m * 10 ^ k) : n = m ∧ k = l := by
  obtain ⟨d, rfl⟩ := Nat.exists_eq_add_of_le hle
  have hd : n * 10 ^ d = m := by
    rw [Nat.pow_add, Nat.mul_comm (10 ^ k), ← Nat.mul_assoc] at h
    exact Nat.eq_of_mul_eq_mul_right (Nat.pow_pos (by decide)) h
  cases d with
  | zero => exact ⟨by simpa using hd, rfl⟩
  | succ d =>
    rw [Nat.pow_succ, ← Nat.mul_assoc] at hd
    omega

/-- Naturals with a point are told apart by their value when none has a zero in its last place. -/
theorem eq_of_div_pow_eq {n m k l : ℕ} (hn : k = 0 ∨ n % 10 ≠ 0) (hm : l = 0 ∨ m % 10 ≠ 0)
    (h : (n / 10 ^ k : ℚ) = m / 10 ^ l) : n = m ∧ k = l := by
  have hmul : n * 10 ^ l = m * 10 ^ k := by
    rw [div_eq_div_iff (by positivity) (by positivity)] at h
    exact_mod_cast h
  rcases Nat.le_total k l with hle | hle
  · exact eq_of_mul_pow_eq hm hle hmul
  · obtain ⟨hvalue, hplaces⟩ := eq_of_mul_pow_eq hn hle hmul.symm
    exact ⟨hvalue.symm, hplaces.symm⟩

namespace CanonicalMagnitude

variable {places : ℕ} {cs ds : List Char}

/-- Every canonical magnitude is read as a number that is not negative. -/
theorem exists_readMagnitude? (h : CanonicalMagnitude places cs) :
    ∃ x : ℚ, 0 ≤ x ∧ readMagnitude? cs = some x := by
  obtain ⟨n, k, -, rfl⟩ := h.exists_pointed
  exact ⟨n / 10 ^ k, div_nonneg (Nat.cast_nonneg n) (by positivity), readMagnitude?_pointed n k⟩

theorem readDecimal?_eq (h : CanonicalMagnitude places cs) :
    readDecimal? (String.ofList cs) = readMagnitude? cs := by
  obtain ⟨n, k, -, rfl⟩ := h.exists_pointed
  exact readDecimal?_ofList fun _ => ne_minus_of_mem_pointed

/-- A canonical magnitude is the only one for its number. -/
theorem eq_of_readMagnitude? (hcs : CanonicalMagnitude places cs)
    (hds : CanonicalMagnitude places ds) (h : readMagnitude? cs = readMagnitude? ds) : cs = ds := by
  obtain ⟨n, k, hn, rfl⟩ := hcs.exists_pointed
  obtain ⟨m, l, hm, rfl⟩ := hds.exists_pointed
  rw [readMagnitude?_pointed, readMagnitude?_pointed, Option.some.injEq] at h
  obtain ⟨rfl, rfl⟩ := eq_of_div_pow_eq hn hm h
  rfl

/-- Zero is written in one way. -/
theorem eq_zero (h : CanonicalMagnitude places cs) (hzero : readMagnitude? cs = some 0) :
    cs = ['0'] := by
  refine h.eq_of_readMagnitude? (.whole (wholeDigits_digits 0)) ?_
  rw [hzero]
  rfl

/-- Only a text with a minus sign is read as a number below zero. -/
theorem readMagnitude?_ne_neg (hcs : CanonicalMagnitude places cs)
    (hds : CanonicalMagnitude places ds) (hne : ds ≠ ['0']) :
    readMagnitude? cs ≠ (readMagnitude? ds).map fun x => -x := by
  obtain ⟨x, hx, hcs⟩ := hcs.exists_readMagnitude?
  obtain ⟨y, hy, hread⟩ := hds.exists_readMagnitude?
  rw [hcs, hread, Option.map_some, ne_eq, Option.some.injEq]
  intro hneg
  have hzero : y = 0 := by linarith
  rw [hzero] at hread
  exact hne (hds.eq_zero hread)

end CanonicalMagnitude

/-- **Canonical texts that are read alike are the same.** -/
theorem CanonicalText.eq_of_readDecimal? {places : ℕ} {text other : String}
    (htext : CanonicalText places text) (hother : CanonicalText places other)
    (h : readDecimal? text = readDecimal? other) : text = other := by
  -- a sign is read as a sign, so texts with and without one are different numbers
  cases htext with
  | plain hcs =>
    cases hother with
    | plain hds =>
      rw [hcs.readDecimal?_eq, hds.readDecimal?_eq] at h
      rw [hcs.eq_of_readMagnitude? hds h]
    | minus hds hne =>
      rw [hcs.readDecimal?_eq, readDecimal?_ofList_minus] at h
      exact absurd h (hcs.readMagnitude?_ne_neg hds hne)
  | minus hcs hne =>
    cases hother with
    | plain hds =>
      rw [hds.readDecimal?_eq, readDecimal?_ofList_minus] at h
      exact absurd h.symm (hds.readMagnitude?_ne_neg hcs hne)
    | minus hds =>
      rw [readDecimal?_ofList_minus, readDecimal?_ofList_minus] at h
      rw [hcs.eq_of_readMagnitude? hds (Option.map_injective neg_injective h)]

/-! ## Texts of decimals -/

/-- Zeros are dropped until there are none or no places are left. -/
theorem dropZeros_last (n places : ℕ) :
    (dropZeros n places).2 = 0 ∨ (dropZeros n places).1 % 10 ≠ 0 := by
  induction places generalizing n with
  | zero => exact .inl rfl
  | succ places ih =>
    rw [dropZeros]
    split
    · exact ih (n / 10)
    · exact .inr (by assumption)

theorem dropZeros_pos {n : ℕ} (h : 0 < n) (places : ℕ) : 0 < (dropZeros n places).1 := by
  have hvalue := (dropZeros_spec n places).1
  by_contra hnot
  rw [Nat.eq_zero_of_not_pos hnot] at hvalue
  omega

/-- A positive number is not written as zero. -/
theorem pointed_ne_zero {n : ℕ} (h : 0 < n) (k : ℕ) : pointed n k ≠ ['0'] := by
  intro hzero
  have hread := readMagnitude?_pointed n k
  rw [hzero, show (['0'] : List Char) = pointed 0 0 from rfl, readMagnitude?_pointed,
    Option.some.injEq] at hread
  have hpos : (0 : ℚ) < n / 10 ^ k := div_pos (by exact_mod_cast h) (by positivity)
  rw [← hread] at hpos
  norm_num at hpos

/-- A number of few digits is written canonically. -/
theorem canonicalText_ofUnits {units : ℤ} {places : ℕ}
    (h : (dropZeros units.natAbs places).1 < 10 ^ precision) :
    CanonicalText places (ofUnits units places).text := by
  have hcanonical := canonicalMagnitude_pointed (dropZeros_spec units.natAbs places).2
    (dropZeros_last units.natAbs places)
  have hpos : units < 0 → 0 < (dropZeros units.natAbs places).1 := fun hneg =>
    dropZeros_pos (by omega) places
  rw [ofUnits, limit_eq h]
  dsimp only
  -- all that matters about the digits and the places left is that no zero ends them
  generalize (dropZeros units.natAbs places).1 = kept, (dropZeros units.natAbs places).2 = left at *
  rw [text]
  dsimp only
  rw [power_of_nonpos 10 (by omega), Int.neg_neg, Int.toNat_natCast, Nat.mul_one]
  by_cases hneg : units < 0
  · have hpos := hpos hneg
    rw [if_pos hneg, if_pos (by omega), Int.natAbs_neg, Int.natAbs_natCast]
    exact .minus hcanonical (pointed_ne_zero hpos left)
  · rw [if_neg hneg, if_neg (by omega), Int.natAbs_natCast]
    exact .plain hcanonical

/-- **A number is written canonically**, rounded half up to so many decimal places, as long as it
has no more than 28 digits: the text is canonical, it is read as exactly the rounded number, and no
other canonical text is. -/
theorem decimalText_canonical {value : ℚ} {places : ℕ} {units : ℤ}
    (hunits : units = (value * 10 ^ places + 1 / 2).floor) (h : units.natAbs < 10 ^ 28) :
    CanonicalText places (decimalText value places) ∧
      readDecimal? (decimalText value places) = some (units / 10 ^ places : ℚ) ∧
      ∀ text, CanonicalText places text → readDecimal? text = some (units / 10 ^ places : ℚ) →
        text = decimalText value places := by
  obtain rfl : units = roundHalfUp (value * 10 ^ places) := hunits
  have hfew := Nat.lt_of_le_of_lt (dropZeros_le _ places) h
  have hcanonical : CanonicalText places (decimalText value places) := by
    rw [decimalText, power_cast, Int.toNat_natCast]
    exact canonicalText_ofUnits hfew
  have hread := readDecimal?_decimalText hfew
  exact ⟨hcanonical, hread, fun text htext hsame =>
    htext.eq_of_readDecimal? hcanonical (hsame.trans hread.symm)⟩

/-- A tie below zero is rounded towards zero, and the zero before the point stays. -/
theorem decimalText_canonical_tie : decimalText (-67 / 2000) 3 = "-0.033" ∧
    CanonicalText 3 "-0.033" ∧ readDecimal? "-0.033" = some (-33 / 1000) := by
  have htext : decimalText (-67 / 2000) 3 = "-0.033" := by decide +kernel
  have hunits : (-33 : ℤ) = ((-67 / 2000 : ℚ) * 10 ^ 3 + 1 / 2).floor := by decide +kernel
  obtain ⟨hcanonical, hread, -⟩ := decimalText_canonical hunits (by decide)
  rw [htext] at hcanonical hread
  exact ⟨htext, hcanonical, hread.trans (by norm_num)⟩

end Montage
