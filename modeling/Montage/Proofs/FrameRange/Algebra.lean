import Mathlib.Data.Int.Notation
import Montage.FrameRange

/-!
# The algebra of ranges

What the operations on ranges come to is told by the frames that lie in them: two ranges overlap when
they share a frame, their intersection holds the frames that they share, and their union is the least
range around both (`FrameRange.Together`). A split divides the frames of a range (`FrameRange.Split`).

A range is moved from one to the next by operations of all kinds (`Move`). Each asks for new bounds and
fails just when they are out of order, and then the range stays as it was (`FrameRange.Takes`). So a
run of moves goes through the bounds that are asked for in order and leaves out the others
(`bounds_after`).
-/

namespace Montage.FrameRange

variable {r s other : FrameRange} {frame : ℤ}

/-! ## Frames of a range -/

/-- A range contains its start, and not its stop. -/
@[simp]
theorem contains_iff : r.contains frame ↔ r.start ≤ frame ∧ frame < r.stop := by
  simp [contains]

@[simp]
theorem containsRange_iff : r.containsRange s ↔ r.start ≤ s.start ∧ s.stop ≤ r.stop := by
  simp [containsRange]

/-- Two ranges overlap when the later start is before the earlier stop. -/
theorem overlaps_iff_lt : r.overlaps s ↔ max r.start s.start < min r.stop s.stop := by
  simp [overlaps]

/-! ## Two ranges -/

/-- The later start of two ranges that overlap is a frame of both. -/
theorem overlaps_iff_exists : r.overlaps s ↔ ∃ frame, r.contains frame ∧ s.contains frame := by
  simp only [overlaps_iff_lt, contains_iff]
  constructor
  · intro hlt
    refine ⟨max r.start s.start, ?_, ?_⟩ <;> omega
  · rintro ⟨frame, hr, hs⟩
    omega

theorem overlaps_comm : r.overlaps s ↔ s.overlaps r := by
  simp only [overlaps_iff_exists, And.comm]

theorem intersection_eq_none_iff : r.intersection s = none ↔ ¬r.overlaps s := by
  rw [intersection, overlaps_iff_lt]
  split
  · exact iff_of_false (Option.some_ne_none _) (not_not_intro ‹_›)
  · exact iff_of_true rfl ‹_›

/-- The frames of an intersection are those that both ranges contain. -/
theorem contains_intersection {both : FrameRange} (h : r.intersection s = some both) :
    both.contains frame ↔ r.contains frame ∧ s.contains frame := by
  rw [intersection] at h
  split at h
  · cases h
    simp only [contains_iff]
    omega
  · cases h

/-- A union is the smallest range that contains both. -/
theorem containsRange_union_iff :
    other.containsRange (r.union s) ↔ other.containsRange r ∧ other.containsRange s := by
  simp only [containsRange_iff, union]
  omega

theorem containsRange_self : r.containsRange r := by
  simp

/-- What is said of two ranges is said of the frames that lie in them. -/
structure Together (r s : FrameRange) : Prop where
  overlaps_iff : r.overlaps s ↔ ∃ frame, r.contains frame ∧ s.contains frame
  symmetric : r.overlaps s ↔ s.overlaps r
  none_iff : r.intersection s = none ↔ ¬r.overlaps s
  shared : ∀ both ∈ r.intersection s, ∀ frame,
    both.contains frame ↔ r.contains frame ∧ s.contains frame
  around : (r.union s).containsRange r ∧ (r.union s).containsRange s
  least : ∀ other : FrameRange, other.containsRange r → other.containsRange s →
    other.containsRange (r.union s)

theorem together (r s : FrameRange) : r.Together s where
  overlaps_iff := overlaps_iff_exists
  symmetric := overlaps_comm
  none_iff := intersection_eq_none_iff
  shared := fun _ hboth _ => contains_intersection hboth
  around := containsRange_union_iff.mp containsRange_self
  least := fun _ hr hs => containsRange_union_iff.mpr ⟨hr, hs⟩

/-! ## Splits -/

/-- Two ranges that meet at a frame divide the frames of a range among them. -/
structure Parts (whole before after : FrameRange) (frame : ℤ) : Prop where
  adjacent : before.stop = frame ∧ after.start = frame
  covers : ∀ other, whole.contains other ↔ before.contains other ∨ after.contains other
  disjoint : ∀ other, ¬(before.contains other ∧ after.contains other)

/-- A range is split at a frame that lies in it, and at no other. -/
structure Split (whole : FrameRange) (frame : ℤ)
    (result : Except Failure (FrameRange × FrameRange)) : Prop where
  inside : whole.contains frame →
    ∃ before after, result = .ok (before, after) ∧ whole.Parts before after frame
  outside : ¬whole.contains frame →
    result = .error (.configuration (.frameOutside frame whole.start whole.stop))

/-- A split gives two ranges that meet at the frame. -/
theorem split_splitAt (r : FrameRange) (frame : ℤ) : r.Split frame (r.splitAt frame) := by
  constructor
  case inside =>
    intro h
    rw [contains_iff] at h
    refine ⟨_, _, dif_pos h, ⟨rfl, rfl⟩, fun other => ?_, fun other => ?_⟩
    all_goals
      simp only [contains_iff]
      omega
  case outside =>
    intro h
    rw [contains_iff] at h
    exact dif_neg h

/-! ## Moves -/

/-- A step from one range to the next. -/
inductive Move where
  | offset (frames : ℤ)
  | shiftStart (frames : ℤ)
  | shiftStop (frames : ℤ)
  | expand (frames : ℤ)
  | contract (frames : ℤ)
  | union (other : FrameRange)
  | intersection (other : FrameRange)

namespace Move

/-- What a move makes of a range. An intersection makes nothing of ranges that share no frame. -/
def result (r : FrameRange) : Move → Except Failure (Option FrameRange)
  | offset frames => .ok (r.offset frames)
  | shiftStart frames => (r.shiftStart frames).map some
  | shiftStop frames => (r.shiftStop frames).map some
  | expand frames => (r.expand frames).map some
  | contract frames => (r.contract frames).map some
  | union other => .ok (r.union other)
  | intersection other => .ok (r.intersection other)

/-- The range after a move: the one that the move makes, and else the one before. -/
def next (r : FrameRange) (move : Move) : FrameRange :=
  match move.result r with
  | .ok (some moved) => moved
  | _ => r

/-- The bounds that a move asks for, from the bounds before. An intersection asks for none when there
is nothing between the later start and the earlier stop. -/
def bounds? (start stop : ℤ) : Move → Option (ℤ × ℤ)
  | offset frames => some (start + frames, stop + frames)
  | shiftStart frames => some (start + frames, stop)
  | shiftStop frames => some (start, stop + frames)
  | expand frames => some (start - frames, stop + frames)
  | contract frames => some (start + frames, stop - frames)
  | union other => some (min start other.start, max stop other.stop)
  | intersection other =>
    if max start other.start < min stop other.stop then
      some (max start other.start, min stop other.stop)
    else none

/-- The bounds after a move: those that it asks for, unless they are out of order. -/
def follow (bounds : ℤ × ℤ) (move : Move) : ℤ × ℤ :=
  match bounds? bounds.1 bounds.2 move with
  | some (start, stop) => if stop < start then bounds else (start, stop)
  | none => bounds

end Move

def bounds (r : FrameRange) : ℤ × ℤ :=
  (r.start, r.stop)

/-- The range after all of some moves. -/
def after (r : FrameRange) (moves : List Move) : FrameRange :=
  moves.foldl Move.next r

/-- A move takes a range to the bounds that it asks for. It fails when they are out of order, and when
it fails or asks for none the range stays as it was. -/
structure Takes (r : FrameRange) (move : Move) : Prop where
  fails_iff : (∃ failure, move.result r = .error failure) ↔
    ∃ start stop, Move.bounds? r.start r.stop move = some (start, stop) ∧ stop < start
  failed : ∀ failure, move.result r = .error failure → Move.next r move = r ∧
    ∃ start stop, Move.bounds? r.start r.stop move = some (start, stop) ∧
      failure = .invalid [⟨[], .broken (.rangeOrder start stop)⟩]
  moved : ∀ start stop, Move.bounds? r.start r.stop move = some (start, stop) → start ≤ stop →
    ∃ moved, move.result r = .ok (some moved) ∧ Move.next r move = moved ∧
      moved.bounds = (start, stop)
  stayed : Move.bounds? r.start r.stop move = none → move.result r = .ok none ∧ Move.next r move = r

/-! ### One move -/

section Move

variable {start stop : ℤ} {move : Move}

theorem ofBounds_of_le (h : start ≤ stop) : ofBounds start stop = .ok ⟨start, stop, h⟩ :=
  dif_pos h

/-- Bounds in the wrong order are refused with both of them. -/
theorem ofBounds_of_lt (h : stop < start) :
    ofBounds start stop = .error (.invalid [⟨[], .broken (.rangeOrder start stop)⟩]) :=
  dif_neg (Int.not_le.mpr h)

/-- Every move comes to the range of the bounds that it asks for, if it asks for any. -/
theorem result_eq (r : FrameRange) (move : Move) : move.result r =
    match Move.bounds? r.start r.stop move with
    | some (start, stop) => (ofBounds start stop).map some
    | none => .ok none := by
  have hbounds (range : FrameRange) : ofBounds range.start range.stop = .ok range :=
    ofBounds_of_le range.start_le_stop
  cases move with
  | offset frames => exact congrArg (Except.map some) (hbounds (r.offset frames)).symm
  | union other => exact congrArg (Except.map some) (hbounds (r.union other)).symm
  | shiftStart | shiftStop | expand | contract => rfl
  | intersection other =>
    simp only [Move.result, Move.bounds?, intersection]
    split
    · rename_i hlt
      exact congrArg (Except.map some) (ofBounds_of_le (Int.le_of_lt hlt)).symm
    · rfl

theorem result_of_lt (h : Move.bounds? r.start r.stop move = some (start, stop)) (hlt : stop < start) :
    move.result r = .error (.invalid [⟨[], .broken (.rangeOrder start stop)⟩]) := by
  rw [result_eq, h]
  exact congrArg (Except.map some) (ofBounds_of_lt hlt)

theorem result_of_le (h : Move.bounds? r.start r.stop move = some (start, stop)) (hle : start ≤ stop) :
    move.result r = .ok (some ⟨start, stop, hle⟩) := by
  rw [result_eq, h]
  exact congrArg (Except.map some) (ofBounds_of_le hle)

theorem result_of_none (h : Move.bounds? r.start r.stop move = none) : move.result r = .ok none := by
  rw [result_eq, h]

/-- A move that fails asks for bounds that are out of order. -/
theorem exists_bounds_of_error {failure : Failure} (h : move.result r = .error failure) :
    ∃ start stop, Move.bounds? r.start r.stop move = some (start, stop) ∧ stop < start ∧
      failure = .invalid [⟨[], .broken (.rangeOrder start stop)⟩] := by
  cases hbounds : Move.bounds? r.start r.stop move with
  | none =>
    rw [result_of_none hbounds] at h
    cases h
  | some asked =>
    obtain ⟨start, stop⟩ := asked
    rcases Int.lt_or_le stop start with hlt | hle
    · rw [result_of_lt hbounds hlt] at h
      exact ⟨start, stop, rfl, hlt, (Except.error.inj h).symm⟩
    · rw [result_of_le hbounds hle] at h
      cases h

theorem takes (r : FrameRange) (move : Move) : r.Takes move := by
  constructor
  case fails_iff =>
    -- a move fails only by making a range whose bounds are in the wrong order
    constructor
    · rintro ⟨failure, h⟩
      obtain ⟨start, stop, hbounds, hlt, -⟩ := exists_bounds_of_error h
      exact ⟨start, stop, hbounds, hlt⟩
    · rintro ⟨start, stop, hbounds, hlt⟩
      exact ⟨_, result_of_lt hbounds hlt⟩
  case failed =>
    intro failure h
    obtain ⟨start, stop, hbounds, -, hfailure⟩ := exists_bounds_of_error h
    refine ⟨?_, start, stop, hbounds, hfailure⟩
    rw [Move.next, h]
  case moved =>
    intro start stop hbounds hle
    have hresult := result_of_le hbounds hle
    refine ⟨_, hresult, ?_, rfl⟩
    rw [Move.next, hresult]
  case stayed =>
    intro hbounds
    have hresult := result_of_none hbounds
    refine ⟨hresult, ?_⟩
    rw [Move.next, hresult]

end Move

/-! ### Runs of moves -/

/-- The bounds after a move are those that it asks for, unless they are out of order. -/
theorem bounds_next (r : FrameRange) (move : Move) :
    (Move.next r move).bounds = Move.follow r.bounds move := by
  rw [Move.follow, Move.next]
  cases hbounds : Move.bounds? r.start r.stop move with
  | none => simp only [result_of_none hbounds, bounds, hbounds]
  | some asked =>
    obtain ⟨start, stop⟩ := asked
    by_cases hlt : stop < start
    · simp only [result_of_lt hbounds hlt, bounds, hbounds, if_pos hlt]
    · simp only [result_of_le hbounds (Int.not_lt.mp hlt), bounds, hbounds, if_neg hlt]

/-- A run of moves goes through the bounds that are asked for in order. -/
theorem bounds_after (r : FrameRange) (moves : List Move) :
    (r.after moves).bounds = moves.foldl Move.follow r.bounds := by
  induction moves generalizing r with
  | nil => rfl
  | cons move rest ih =>
    rw [List.foldl_cons, ← bounds_next]
    exact ih (Move.next r move)

/-- **The algebra of ranges.** Two ranges are to each other as the frames that lie in them, a range is
split at its frames only, and every run of moves stays within the ranges that are in order, because the
moves that would leave them fail. -/
theorem algebra_of_frames (r s : FrameRange) (frame : ℤ) (moves : List Move) (move : Move) :
    r.Together s ∧ r.Split frame (r.splitAt frame) ∧
      (r.after moves).bounds = moves.foldl Move.follow r.bounds ∧
      (moves.foldl Move.follow r.bounds).1 ≤ (moves.foldl Move.follow r.bounds).2 ∧
      (r.after moves).Takes move := by
  refine ⟨together r s, split_splitAt r frame, bounds_after r moves, ?_, takes _ move⟩
  rw [← bounds_after]
  exact (r.after moves).start_le_stop

/-- An empty range lies in a range around it and shares no frame with it. -/
example : overlaps ⟨0, 10, by decide⟩ ⟨5, 5, by decide⟩ = false ∧
    containsRange ⟨0, 10, by decide⟩ ⟨5, 5, by decide⟩ = true := by
  decide

end Montage.FrameRange
