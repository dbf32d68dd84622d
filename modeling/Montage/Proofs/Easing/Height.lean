import Mathlib.Data.Rat.Cast.Order
import Mathlib.Tactic.NormNum
import Mathlib.Tactic.NormNum.OfScientific
import Montage.Proofs.Easing.Bisection

/-!
# The heights of a cubic curve

The height of a cubic curve above a value inside of the unit interval is its second coordinate at the
parameter that a search finds for the first one. The search always finds one, because a coordinate
changes at most as fast as its control values are large, and the turns it is allowed are chosen by
these (`height_solved`). With control values in the unit interval heights never fall from one value to
a greater one, although the two searches may end after different numbers of turns (`height_mono`).
-/

namespace Montage

/-! ## Named curves -/

namespace Curve

variable {curve : Curve} {a b c d : ℚ}

/-- The control points of a named curve lie above the unit interval. -/
theorem across_mem (h : curve.controlPoints? = some (a, b, c, d)) :
    a ∈ Set.Icc 0 1 ∧ c ∈ Set.Icc 0 1 := by
  cases curve
  all_goals
    simp only [controlPoints?, Option.some.injEq, Prod.mk.injEq, reduceCtorEq] at h
  all_goals
    obtain ⟨rfl, -, rfl, -⟩ := h
    norm_num

/-- The curves that leave the unit interval on their way. -/
def overshooting : List Curve :=
  [easeInBack, easeOutBack, easeInOutBack]

/-- The control points of the other named curves lie beside the unit interval as well. -/
theorem upright_mem (h : curve.controlPoints? = some (a, b, c, d)) (hwithin : curve ∉ overshooting) :
    b ∈ Set.Icc 0 1 ∧ d ∈ Set.Icc 0 1 := by
  cases curve
  case easeInBack | easeOutBack | easeInOutBack => exact absurd (by decide) hwithin
  all_goals
    simp only [controlPoints?, Option.some.injEq, Prod.mk.injEq, reduceCtorEq] at h
  all_goals
    obtain ⟨-, rfl, -, rfl⟩ := h
    norm_num

end Curve

namespace Cubic

open Stretch

variable {a b c d s t : ℚ}

/-! ## Searches on a curve -/

theorem encloses_unit (h₀ : 0 < t) (h₁ : t < 1) : unit.Encloses (polynomial a c) t where
  start_lt := (polynomial_zero a c).trans_lt h₀
  le_stop := h₁.le.trans_eq (polynomial_one a c).symm

/-- As many halvings as the bound of the slope asks for bring the middle close. -/
theorem near_after {bound : ℚ} {last : ℕ} (h₀ : 0 < t) (h₁ : t < 1) (ha : |a| ≤ bound)
    (hac : |c - a| ≤ bound) (hc : |1 - c| ≤ bound) (hlast : 3000 * bound < 2 ^ (last + 1)) :
    |polynomial a c (unit.after (polynomial a c) t last).middle - t| < 1 / 1000 := by
  have hbound (x y : ℚ) (hx : 0 ≤ x) (hxy : x ≤ y) (hy : y ≤ 1) :
      |polynomial a c y - polynomial a c x| ≤ 3 * bound * (y - x) :=
    abs_polynomial_sub_le (fun m hm => abs_slope_le hm ha hac hc) hx hxy hy
  exact (encloses_unit h₀ h₁).near_after hbound (by linarith)

theorem abs_le_natAbs (x : ℚ) : |x| ≤ x.num.natAbs := by
  have hden : (1 : ℚ) ≤ x.den := by exact_mod_cast x.den_pos
  calc |x| = |(x.num : ℚ)| / x.den := by
        conv_lhs => rw [← Rat.num_div_den x]
        rw [abs_div, Nat.abs_cast]
    _ ≤ |(x.num : ℚ)| := div_le_self (abs_nonneg _) hden
    _ = x.num.natAbs := by rw [Nat.cast_natAbs, Int.cast_abs]

/-- The turns that a search is allowed are enough for control values of their size. -/
theorem exists_halvings (a c : ℚ) : ∃ last, Scalar.halvings a c = last + 1 ∧
    3000 * (|a| + |c| + 1) < 2 ^ (last + 1) := by
  let size := 6000 * (a.num.natAbs + c.num.natAbs + 1)
  refine ⟨size.log2 + 1, rfl, ?_⟩
  have hsize : 3000 * (|a| + |c| + 1) ≤ (size : ℚ) := by
    have ha := abs_le_natAbs a
    have hc := abs_le_natAbs c
    have hnonneg : (0 : ℚ) ≤ a.num.natAbs + c.num.natAbs + 1 := by positivity
    push_cast [size]
    linarith
  have hlog : (size : ℚ) < 2 ^ (size.log2 + 1) := by exact_mod_cast Nat.lt_log2_self
  have hmore : (2 : ℚ) ^ (size.log2 + 1) ≤ 2 ^ (size.log2 + 1 + 1) :=
    pow_le_pow_right₀ one_le_two (Nat.le_succ _)
  linarith

/-- The search settles within the halvings that it is given. -/
theorem exists_settles (a c : ℚ) (h₀ : 0 < t) (h₁ : t < 1) :
    ∃ turns < Scalar.halvings a c, unit.Settles (polynomial a c) t turns := by
  obtain ⟨last, hhalvings, hlast⟩ := exists_halvings a c
  have hac : |c - a| ≤ |a| + |c| + 1 := by linarith [abs_sub c a]
  have hc : |1 - c| ≤ |a| + |c| + 1 := by
    have hone : |1 - c| ≤ 1 + |c| := (abs_sub 1 c).trans_eq (by rw [abs_one])
    linarith [abs_nonneg a]
  have hnear := near_after h₀ h₁ (by linarith [abs_nonneg c]) hac hc hlast
  obtain ⟨turns, hle, hsettles⟩ := Stretch.exists_settles hnear
  exact ⟨turns, by omega, hsettles⟩

/-- Control values in the unit interval make a slope of at most 3. Half of the twelfth interval is one of
4096 parts of the first, over which a coordinate cannot change by the tolerance then. -/
theorem lt_twelve {turns : ℕ} (h₀ : 0 < t) (h₁ : t < 1) (ha : a ∈ Set.Icc 0 1)
    (hc : c ∈ Set.Icc 0 1) (h : unit.Settles (polynomial a c) t turns) : turns < 12 := by
  obtain ⟨ha₀, ha₁⟩ := ha
  obtain ⟨hc₀, hc₁⟩ := hc
  have ha : |a| ≤ 1 := abs_le.mpr ⟨by linarith, ha₁⟩
  have hac : |c - a| ≤ 1 := abs_le.mpr ⟨by linarith, by linarith⟩
  have hc : |1 - c| ≤ 1 := abs_le.mpr ⟨by linarith, by linarith⟩
  have hlast : 3000 * (1 : ℚ) < 2 ^ (11 + 1) := by norm_num
  have hle : turns ≤ 11 := h.le_of_near (near_after h₀ h₁ ha hac hc hlast)
  exact Nat.lt_succ_of_le hle

/-! ## Heights -/

/-- Outside of the unit interval the height is the time itself. -/
theorem height_of_outside (h : t ≤ 0 ∨ 1 ≤ t) : height a b c d t = t := by
  refine if_pos ?_
  norm_num only
  exact h

theorem height_of_settles {turns : ℕ} (h₀ : 0 < t) (h₁ : t < 1)
    (h : unit.Settles (polynomial a c) t turns) (hlt : turns < Scalar.halvings a c) :
    height a b c d t = polynomial b d (unit.after (polynomial a c) t turns).middle := by
  have hinside : ¬(t ≤ 0.0 ∨ 1.0 ≤ t) := by
    norm_num only
    exact not_or.mpr ⟨not_le.mpr h₀, not_le.mpr h₁⟩
  have hsearch : search (polynomial a c) t (Scalar.halvings a c) 0 1 =
      some (unit.after (polynomial a c) t turns).middle := (h.search_eq _).trans (if_pos hlt)
  rw [height, if_neg hinside, coordinate_eq, coordinate_eq]
  norm_num only
  rw [hsearch, Option.elim_some]

/-- How the height of a curve above a value is found, in how many turns and how well. -/
structure Solved (a b c d t : ℚ) (turns : ℕ) : Prop where
  encloses : ∀ turn, (unit.after (polynomial a c) t turn).Encloses (polynomial a c) t
  width_eq : ∀ turn, (unit.after (polynomial a c) t turn).stop -
    (unit.after (polynomial a c) t turn).start = 1 / 2 ^ turn
  settles : unit.Settles (polynomial a c) t turns
  search_after : ∀ turn ≤ turns, ∀ budget, search (coordinate a c) t (turn + budget) 0 1 =
    search (coordinate a c) t budget (unit.after (polynomial a c) t turn).start
      (unit.after (polynomial a c) t turn).stop
  search_eq : ∀ budget, search (coordinate a c) t budget 0 1 =
    if turns < budget then some (unit.after (polynomial a c) t turns).middle else none
  height_eq : height a b c d t = polynomial b d (unit.after (polynomial a c) t turns).middle
  lt_twelve : (a ∈ Set.Icc 0 1 ∧ c ∈ Set.Icc 0 1) ∨
    (∃ curve : Curve, curve.controlPoints? = some (a, b, c, d)) → turns < 12

/-- **The height of a cubic curve is always found**, and as well as the tolerance says. -/
theorem height_solved (a b c d : ℚ) (h₀ : 0 < t) (h₁ : t < 1) :
    ∃ turns, Solved a b c d t turns := by
  obtain ⟨turns, hlt, hsettles⟩ := exists_settles a c h₀ h₁
  refine ⟨turns, ?_⟩
  -- the turn at which the search settles decides the search, the height and the bound
  constructor
  case encloses => exact (encloses_unit h₀ h₁).after
  case width_eq =>
    intro turn
    rw [width_after, unit, sub_zero]
  case settles => exact hsettles
  case search_after =>
    rw [coordinate_eq]
    exact fun turn => hsettles.search_after
  case search_eq =>
    rw [coordinate_eq]
    exact hsettles.search_eq
  case height_eq => exact height_of_settles h₀ h₁ hsettles hlt
  case lt_twelve =>
    rintro (⟨ha, hc⟩ | ⟨curve, hcurve⟩)
    · exact lt_twelve h₀ h₁ ha hc hsettles
    · obtain ⟨ha, hc⟩ := Curve.across_mem hcurve
      exact lt_twelve h₀ h₁ ha hc hsettles

/-- A curve that turns back and passes a third three times is followed to the last of them, in eleven
turns. -/
theorem height_solved_winding :
    Solved 3 0 (-3) 1 (1 / 3) 10 ∧ height (3 : ℚ) 0 (-3) 1 (1 / 3) = 4241440471 / 4294967296 := by
  obtain ⟨turns, hsolved⟩ := height_solved 3 0 (-3) 1 (t := 1 / 3) (by norm_num) (by norm_num)
  have hten : search (coordinate (3 : ℚ) (-3)) (1 / 3) 10 0 1 = none := by
    decide +kernel
  have heleven : search (coordinate (3 : ℚ) (-3)) (1 / 3) 11 0 1 = some (1913 / 2048) := by
    decide +kernel
  rw [hsolved.search_eq] at hten heleven
  -- the search fails with a budget of 10 and succeeds with 11
  have hge : ¬turns < 10 := by
    intro hlt
    rw [if_pos hlt] at hten
    cases hten
  have hlt : turns < 11 := by
    by_contra hge
    rw [if_neg hge] at heleven
    cases heleven
  obtain rfl : turns = 10 := by omega
  exact ⟨hsolved, by decide +kernel⟩

/-! ## Heights of two values -/

/-- Inside of the unit interval a height is the second polynomial at what the search found. -/
theorem exists_height (a b c d : ℚ) (h₀ : 0 < t) (h₁ : t < 1) : ∃ m ∈ Set.Icc 0 1,
    search (polynomial a c) t (Scalar.halvings a c) unit.start unit.stop = some m ∧
      height a b c d t = polynomial b d m := by
  obtain ⟨turns, hlt, hsettles⟩ := exists_settles a c h₀ h₁
  exact ⟨_, middle_mem_unit _, (hsettles.search_eq _).trans (if_pos hlt),
    height_of_settles h₀ h₁ hsettles hlt⟩

section Heights

variable (hb : b ∈ Set.Icc 0 1) (hd : d ∈ Set.Icc 0 1)

include hb hd

theorem height_mem (ht : t ∈ Set.Icc 0 1) : height a b c d t ∈ Set.Icc 0 1 := by
  by_cases hends : t ≤ 0 ∨ 1 ≤ t
  · rwa [height_of_outside hends]
  · rw [not_or, not_le, not_le] at hends
    obtain ⟨m, hm, -, hheight⟩ := exists_height a b c d hends.1 hends.2
    rw [hheight]
    exact polynomial_mem hb hd hm

/-- **Heights never fall.** -/
theorem height_mono : Monotone (height a b c d) := by
  intro s t hst
  -- outside of the unit interval the height is the time, so only the search is left at the end
  rcases le_or_gt s 0 with hs₀ | hs₀
  · rw [height_of_outside (.inl hs₀)]
    by_cases ht : t ≤ 0 ∨ 1 ≤ t
    · rwa [height_of_outside ht]
    · rw [not_or, not_le, not_le] at ht
      exact hs₀.trans (height_mem hb hd ⟨ht.1.le, ht.2.le⟩).1
  · rcases le_or_gt 1 t with ht₁ | ht₁
    · rw [height_of_outside (.inr ht₁)]
      rcases le_or_gt 1 s with hs₁ | hs₁
      · rwa [height_of_outside (.inr hs₁)]
      · exact (height_mem hb hd ⟨hs₀.le, hs₁.le⟩).2.trans ht₁
    · obtain ⟨m, hm, hsm, hms⟩ := exists_height a b c d hs₀ (hst.trans_lt ht₁)
      obtain ⟨n, hn, htn, hnt⟩ := exists_height a b c d (hs₀.trans_le hst) ht₁
      have hmn : m ≤ n := search_mono hst hsm htn
      rw [hms, hnt]
      exact polynomial_monotoneOn hb hd hm hn hmn

end Heights

end Cubic

end Montage
