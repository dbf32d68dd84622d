import Mathlib.Algebra.BigOperators.Group.List.Basic
import Mathlib.Algebra.Ring.Int.Defs
import Mathlib.Data.Int.Notation
import Mathlib.Data.List.Induction
import Montage.Timing

/-!
# Offsets through nested contexts

Contexts that are nested by offsets all have the window of their root. What grows from one to the
next is the inherited offset, so the context some steps inside of the root inherits the sum of as many
offsets (`TimingContext.Accumulates`). A child is placed by the innermost context alone: its start
takes in all offsets and its end none, so offsets can move the start past the end, and then there is
no window.
-/

namespace Montage

open TimingContext

/-! ## Windows of a chain -/

namespace Chain

variable {chain : List TimingContext} {startOffset stopOffset : ℤ} {afterEntry beforeExit : Bool}

/-- A window of a chain has the effective start and the effective end as its bounds. -/
theorem window_eq_some_iff {range : FrameRange} :
    window chain startOffset stopOffset afterEntry beforeExit = some range ↔
      range.start = effectiveStart chain startOffset afterEntry ∧
        effectiveStop chain stopOffset beforeExit = some range.stop := by
  rw [window]
  cases hstop : effectiveStop chain stopOffset beforeExit with
  | none => simp
  | some stop =>
    -- the range exists only if the start is not after the stop, which its own bounds show
    by_cases hle : effectiveStart chain startOffset afterEntry ≤ stop
    · simp only [Option.bind_eq_bind, Option.bind_some, dif_pos hle, Option.some.injEq]
      constructor
      · rintro rfl
        exact ⟨rfl, rfl⟩
      · rintro ⟨hstart, rfl⟩
        cases range
        cases hstart
        rfl
    · simp only [Option.bind_eq_bind, Option.bind_some, dif_neg hle, reduceCtorEq, false_iff,
        Option.some.injEq]
      rintro ⟨hstart, rfl⟩
      have hordered := range.start_le_stop
      omega

/-- There is no window when there is no end, or when the end is before the start. -/
theorem window_eq_none_iff :
    window chain startOffset stopOffset afterEntry beforeExit = none ↔
      ∀ stop ∈ effectiveStop chain stopOffset beforeExit,
        stop < effectiveStart chain startOffset afterEntry := by
  rw [Option.eq_none_iff_forall_ne_some]
  simp only [ne_eq, window_eq_some_iff]
  constructor
  · intro hnone stop hstop
    by_contra hle
    exact hnone ⟨_, stop, Int.not_lt.mp hle⟩ ⟨rfl, hstop⟩
  · rintro hlt range ⟨hstart, hstop⟩
    have hinverted := hlt range.stop hstop
    have hordered := range.start_le_stop
    omega

end Chain

namespace TimingContext

variable (root : TimingContext) (offsets : List ℤ)

/-! ## Chains of offsets -/

/-- A chain of contexts, innermost first, that leads from a root through some offsets: what its
contexts are, and where a child of it starts and ends. -/
structure Accumulates (root : TimingContext) (offsets : List ℤ) (chain : List TimingContext) :
    Prop where
  length_eq : chain.length = offsets.length + 1
  outermost : chain.getLast? = some root
  inside : ∀ steps ≤ offsets.length, chain[offsets.length - steps]? =
    some { root with inheritedOffset := root.inheritedOffset + (offsets.take steps).sum }
  start_eq : ∀ offset afterEntry, Chain.effectiveStart chain offset afterEntry =
    root.start + (if afterEntry then root.entryDuration else 0) + offset + root.inheritedOffset +
      offsets.sum
  stop_eq : ∀ offset beforeExit,
    Chain.effectiveStop chain offset beforeExit = root.effectiveStop offset beforeExit
  window_none_iff : ∀ startOffset stopOffset afterEntry beforeExit,
    Chain.window chain startOffset stopOffset afterEntry beforeExit = none ↔
      root.stop = none ∨ ∃ stop ∈ root.effectiveStop stopOffset beforeExit,
        stop < Chain.effectiveStart chain startOffset afterEntry
  window_some_iff : ∀ startOffset stopOffset afterEntry beforeExit range,
    Chain.window chain startOffset stopOffset afterEntry beforeExit = some range ↔
      range.start = Chain.effectiveStart chain startOffset afterEntry ∧
        root.effectiveStop stopOffset beforeExit = some range.stop

/-! ### One context -/

/-- A start is counted from the window of the root, after its entry if that is asked for. -/
theorem effectiveStart_eq (offset : ℤ) (afterEntry : Bool) : root.effectiveStart offset afterEntry =
    root.start + (if afterEntry then root.entryDuration else 0) + offset + root.inheritedOffset := by
  rw [effectiveStart, base, entryComplete]
  split <;> omega

theorem effectiveStop_eq_none_iff (offset : ℤ) (beforeExit : Bool) :
    root.effectiveStop offset beforeExit = none ↔ root.stop = none := by
  cases beforeExit <;> simp [effectiveStop, exitStart]

/-- Moving the root moves all that starts in it. -/
theorem effectiveStart_shifted (amount offset : ℤ) (afterEntry : Bool) :
    (root.shifted amount).effectiveStart offset afterEntry =
      root.effectiveStart offset afterEntry + amount :=
  (Int.add_assoc _ _ _).symm

theorem shifted_zero : root.shifted 0 = root := by
  rw [shifted, Int.add_zero]

theorem shifted_shifted (first second : ℤ) :
    (root.shifted first).shifted second = root.shifted (first + second) := by
  rw [shifted, shifted, shifted, Int.add_assoc]

/-! ### All contexts -/

/-- One offset more adds a context in front of the innermost one. -/
theorem nest_concat_of_cons {innermost : TimingContext} {rest : List TimingContext}
    (h : root.nest offsets = innermost :: rest) (offset : ℤ) :
    root.nest (offsets ++ [offset]) = innermost.shifted offset :: root.nest offsets := by
  rw [h]
  rw [nest] at h
  rw [nest, List.foldl_concat, h]

/-- The innermost context inherits all offsets. -/
theorem exists_nest_eq_cons : ∃ rest, root.nest offsets = root.shifted offsets.sum :: rest := by
  -- from the last offset on, which is the one that is added in front
  induction offsets using List.reverseRecOn with
  | nil => exact ⟨[], by rw [List.sum_nil, shifted_zero]; rfl⟩
  | append_singleton offsets offset ih =>
    obtain ⟨rest, hrest⟩ := ih
    refine ⟨root.nest offsets, ?_⟩
    rw [nest_concat_of_cons root offsets hrest, shifted_shifted, List.sum_append, List.sum_singleton]

/-- The innermost context is moved by all of the offsets, and those around it as before. -/
theorem nest_concat (offset : ℤ) : root.nest (offsets ++ [offset]) =
    root.shifted (offsets ++ [offset]).sum :: root.nest offsets := by
  obtain ⟨rest, hrest⟩ := exists_nest_eq_cons root offsets
  rw [nest_concat_of_cons root offsets hrest, shifted_shifted, List.sum_append, List.sum_singleton]

theorem length_nest : (root.nest offsets).length = offsets.length + 1 := by
  induction offsets using List.reverseRecOn with
  | nil => rfl
  | append_singleton offsets offset ih =>
    rw [nest_concat, List.length_cons, ih, List.length_append, List.length_singleton]

/-- The outermost context is the root as it was. -/
theorem getLast?_nest : (root.nest offsets).getLast? = some root := by
  induction offsets using List.reverseRecOn with
  | nil => rfl
  | append_singleton offsets offset ih => rw [nest_concat, List.getLast?_cons, ih, Option.getD_some]

/-- The context some steps inside of the root inherits as many offsets. -/
theorem getElem?_nest {steps : ℕ} (h : steps ≤ offsets.length) :
    (root.nest offsets)[offsets.length - steps]? = some (root.shifted (offsets.take steps).sum) := by
  induction offsets using List.reverseRecOn with
  | nil =>
    rw [List.take_nil, List.sum_nil, shifted_zero, List.length_nil, Nat.zero_sub]
    rfl
  | append_singleton offsets offset ih =>
    have hlength : (offsets ++ [offset]).length = offsets.length + 1 := List.length_append
    rw [nest_concat, hlength]
    rw [hlength] at h
    rcases Nat.lt_or_eq_of_le h with hlt | rfl
    · have hle : steps ≤ offsets.length := Nat.le_of_lt_succ hlt
      rw [Nat.sub_add_comm hle, List.getElem?_cons_succ, ih hle, List.take_append_of_le_length hle]
    · rw [Nat.sub_self, List.getElem?_cons_zero, ← hlength, List.take_length]

/-- **Offsets accumulate through nested contexts**, and only the start of a child sees them. -/
theorem nest_accumulates : root.Accumulates offsets (root.nest offsets) := by
  obtain ⟨rest, hrest⟩ := exists_nest_eq_cons root offsets
  -- an offset leaves the stop of a context alone, so all of them end with the root
  have hstop (offset : ℤ) (beforeExit : Bool) :
      Chain.effectiveStop (root.nest offsets) offset beforeExit =
        root.effectiveStop offset beforeExit := by
    rw [hrest]
    rfl
  constructor
  case length_eq => exact length_nest root offsets
  case outermost => exact getLast?_nest root offsets
  case inside => exact fun steps => getElem?_nest root offsets
  case start_eq =>
    intro offset afterEntry
    rw [hrest, Chain.effectiveStart, effectiveStart_shifted, effectiveStart_eq]
  case stop_eq => exact hstop
  case window_none_iff =>
    intro startOffset stopOffset afterEntry beforeExit
    rw [Chain.window_eq_none_iff, hstop, ← effectiveStop_eq_none_iff root stopOffset beforeExit]
    cases root.effectiveStop stopOffset beforeExit <;> simp
  case window_some_iff =>
    intro startOffset stopOffset afterEntry beforeExit range
    rw [Chain.window_eq_some_iff, hstop]

/-- Offsets that add up to more than a window is long leave no window to a child. -/
example : Chain.window (nest ⟨90, 15, 10, some 150, 0⟩ [30, 20]) 0 0 true true = none := by
  decide

end TimingContext

end Montage
