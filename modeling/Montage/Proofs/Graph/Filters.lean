import Mathlib.Data.Int.Notation
import Mathlib.Data.Rat.Init
import Montage.Graph.Chain
import Montage.Proofs.Number.Finite

/-!
# Filters of clips and tracks

The only thing that can go wrong in a chain of filters is a number without a rational, and the rest
of the chain depends on the rationals alone: `ClipSource.pictureAt`, `ClipSource.overlayAt`,
`ClipSource.soundAt` and `TrackSource.soundAt` are the chains as functions of them. So the filters
of a clip or a track can be computed exactly when the numbers in them are finite.
-/

namespace Montage

/-! ## Numbers in filters -/

/-- A computation that starts with the rational of a float. -/
theorem rationalOf_bind_eq_ok_iff {α : Type} (x : Float) (f : ℚ → Except Failure α) (value : α) :
    ((liftM (rationalOf x) : Except Failure ℚ) >>= f) = .ok value ↔
      ∃ q, rationalOf x = .ok q ∧ f q = .ok value := by
  rcases rationalOf x with fault | q <;>
    simp [liftM, monadLift, MonadLift.monadLift, bind, Except.bind]

/-- A filter for the volume needs the rational of the float and then goes on. -/
theorem Filter.volume_bind_eq_ok_iff {α : Type} (x : Float) (f : Filter → Except Failure α)
    (value : α) :
    (Filter.volume x >>= f) = .ok value ↔
      ∃ q, rationalOf x = .ok q ∧ f (.plain "volume" [decimalText q 4]) = .ok value := by
  rw [Filter.volume, bind_assoc, rationalOf_bind_eq_ok_iff]
  rfl

/-! ## Clips -/

namespace ClipSource

variable (fps : ℤ) (source : ClipSource)

/-- The picture of a clip that is cut from an instant of its file on. -/
def pictureAt (start : ℚ) : List Filter := [
  trimFilter "trim" start (start + Clock.time fps source.duration),
  .plain "setpts" [s!"PTS-STARTPTS+{Clock.timeText fps source.clip.start}/TB"],
  .plain "scale" [toString source.clip.width, toString source.clip.height]]

/-- Lays a clip over the frames at a position, while the clip lasts. -/
def overlayAt (x y : ℚ) : Filter :=
  let first := Clock.timeText fps source.clip.start
  let last := secondsText (source.lastInstant fps)
  ⟨"overlay", [
    ⟨none, decimalText x 3⟩,
    ⟨none, decimalText y 3⟩,
    ⟨some "enable", s!"'between(t,{first},{last})'"⟩]⟩

/-- The sound of a clip that is cut from an instant of its file on, at a volume. -/
def soundAt (start volume : ℚ) : List Filter :=
  trimFilter "atrim" start (start + Clock.time fps source.duration) ::
    (if 0 < start then [Filter.resetTimestamps] else []) ++
    Filter.fades fps source.clip.fadeIn source.clip.fadeOut source.duration ++
    [.plain "volume" [decimalText volume 4], Filter.delay fps source.clip.start]

theorem trim_bind_eq_ok_iff {α : Type} (f : ℚ × ℚ → Except Failure α) (value : α) :
    (source.trim fps >>= f) = .ok value ↔
      ∃ start, rationalOf source.clip.trimStart = .ok start ∧
        f (start, start + Clock.time fps source.duration) = .ok value := by
  rw [trim, bind_assoc, rationalOf_bind_eq_ok_iff]
  rfl

/-- The filters for a picture are computed when the start of its trim is finite. -/
theorem pictureFilters_eq_ok_iff (filters : List Filter) :
    source.pictureFilters fps = .ok filters ↔
      ∃ start, rationalOf source.clip.trimStart = .ok start ∧
        source.pictureAt fps start = filters := by
  rw [pictureFilters, trim_bind_eq_ok_iff]
  simp only [pure, Except.pure, Except.ok.injEq]
  rfl

theorem overlayFilter_eq_ok_iff (filter : Filter) :
    source.overlayFilter fps = .ok filter ↔
      ∃ x, rationalOf source.clip.position.x = .ok x ∧
        ∃ y, rationalOf source.clip.position.y = .ok y ∧ source.overlayAt fps x y = filter := by
  rw [overlayFilter]
  simp only [rationalOf_bind_eq_ok_iff, pure, Except.pure, Except.ok.injEq]
  rfl

/-- The filters for a sound are computed when its trim and its volume are finite. -/
theorem soundFilters_eq_ok_iff (filters : List Filter) :
    source.soundFilters fps = .ok filters ↔
      ∃ start, rationalOf source.clip.trimStart = .ok start ∧
        ∃ volume, rationalOf source.clip.volume = .ok volume ∧
          source.soundAt fps start volume = filters := by
  rw [soundFilters, trim_bind_eq_ok_iff]
  simp only [Filter.volume_bind_eq_ok_iff, pure, Except.pure, Except.ok.injEq]
  rfl

end ClipSource

/-! ## Tracks -/

namespace TrackSource

variable (fps : ℤ) (source : TrackSource)

def soundAt (volume : ℚ) : List Filter :=
  source.cutFilters fps ++
    Filter.fades fps source.track.fadeIn source.track.fadeOut source.length ++
    [.plain "volume" [decimalText volume 4], Filter.delay fps source.track.start]

/-- The filters of a track are computed when its volume is finite. -/
theorem soundFilters_eq_ok_iff (filters : List Filter) :
    source.soundFilters fps = .ok filters ↔
      ∃ volume, rationalOf source.track.volume = .ok volume ∧
        source.soundAt fps volume = filters := by
  rw [soundFilters, Filter.volume_bind_eq_ok_iff]
  simp only [pure, Except.pure, Except.ok.injEq]
  rfl

end TrackSource

/-! ## Names of filters

No clip and no track has a filter that mixes sounds.
-/

/-- The fades of a sound are all filters of one name. -/
theorem Filter.name_of_mem_fades {fps fadeIn fadeOut length : ℤ} {filter : Filter}
    (h : filter ∈ Filter.fades fps fadeIn fadeOut length) : filter.name = "afade" := by
  rw [Filter.fades, List.mem_append] at h
  rcases h with h | h <;> split at h <;> simp [Filter.keyed] at h <;> rw [h]

theorem Filter.name_ne_of_mem_fades {fps fadeIn fadeOut length : ℤ} {filter : Filter}
    (h : filter ∈ Filter.fades fps fadeIn fadeOut length) : filter.name ≠ "amix" := by
  rw [Filter.name_of_mem_fades h]
  decide

theorem ClipSource.name_ne_of_mem_pictureAt {fps : ℤ} {source : ClipSource} {start : ℚ}
    {filter : Filter} (h : filter ∈ source.pictureAt fps start) : filter.name ≠ "amix" := by
  simp only [pictureAt, List.mem_cons, List.not_mem_nil, or_false] at h
  rcases h with rfl | rfl | rfl <;> simp [trimFilter, Filter.keyed, Filter.plain]

theorem ClipSource.name_ne_of_mem_soundAt {fps : ℤ} {source : ClipSource} {start volume : ℚ}
    {filter : Filter} (h : filter ∈ source.soundAt fps start volume) : filter.name ≠ "amix" := by
  simp only [soundAt, List.mem_cons, List.mem_append, List.not_mem_nil, or_false] at h
  rcases h with ((rfl | h) | h) | rfl | rfl
  · simp [trimFilter, Filter.keyed]
  · split at h <;> simp at h
    simp [h, Filter.resetTimestamps, Filter.plain]
  · exact Filter.name_ne_of_mem_fades h
  · simp [Filter.plain]
  · simp [Filter.delay, Filter.plain]

/-- Cutting a track mixes nothing, whether it is repeated or not. -/
theorem TrackSource.name_ne_of_mem_cutFilters {fps : ℤ} {source : TrackSource} {filter : Filter}
    (h : filter ∈ source.cutFilters fps) : filter.name ≠ "amix" := by
  -- one half of the cases is a track that is repeated, the other one that plays once
  rw [cutFilters] at h
  split at h
  · simp only [List.mem_append, List.mem_cons, List.not_mem_nil, or_false] at h
    rcases h with h | rfl | rfl
    · split at h <;> simp at h
      rcases h with rfl | rfl <;>
        simp [Filter.cutFrames, Filter.resetTimestamps, Filter.keyed, Filter.plain]
    · simp [Filter.loop, Filter.keyed]
    · simp [Filter.cutFrames, Filter.keyed]
  · rw [List.mem_cons] at h
    rcases h with rfl | h
    · simp [Filter.cutFrames, Filter.keyed]
    · split at h <;> simp at h
      simp [h, Filter.resetTimestamps, Filter.plain]

theorem TrackSource.name_ne_of_mem_soundAt {fps : ℤ} {source : TrackSource} {volume : ℚ}
    {filter : Filter} (h : filter ∈ source.soundAt fps volume) : filter.name ≠ "amix" := by
  simp only [soundAt, List.mem_append, List.mem_cons, List.not_mem_nil, or_false] at h
  rcases h with (h | h) | rfl | rfl
  · exact name_ne_of_mem_cutFilters h
  · exact Filter.name_ne_of_mem_fades h
  · simp [Filter.plain]
  · simp [Filter.delay, Filter.plain]

end Montage
