import Montage.Proofs.Geometry
import Montage.Proofs.Registry

/-!
# Heroes between scenes

A hero moves from its registration in one scene to that in another: each number of its geometry
goes from the one value to the other without turning back (`Registration.Moves`). In a registry a
hero with at least two registrations moves between any two scenes that have one, and the same way
back (`Registry.heroes_move`). What a registry holds has been registered
(`Registry.registered_of_slotsAfter`), so its rectangles are proper when all that were registered
are, and those between them are proper again.
-/

namespace Montage

/-! ## Geometry -/

/-- A number in the geometry of a hero. -/
inductive Component where
  | left
  | top
  | width
  | height
  | rotation
  | scale

def Registration.geometry (registration : Registration ℚ) : Component → ℚ
  | .left => registration.bounds.left
  | .top => registration.bounds.top
  | .width => registration.bounds.width
  | .height => registration.bounds.height
  | .rotation => registration.rotation
  | .scale => registration.scale

namespace HeroFrame

def geometry (frame : HeroFrame ℚ) : Component → ℚ
  | .left => frame.bounds.left
  | .top => frame.bounds.top
  | .width => frame.bounds.width
  | .height => frame.bounds.height
  | .rotation => frame.rotation
  | .scale => frame.scale

def reversed (frame : HeroFrame ℚ) : HeroFrame ℚ :=
  { frame with
    fromScene := frame.toScene
    toScene := frame.fromScene
    progress := 1 - frame.progress }

end HeroFrame

/-! ## From one registration to another -/

namespace Registration

/-- The frames of a hero on its way between two registrations. Each component goes evenly from its
value in the one to that in the other, and is there at the ends of progress and beyond. -/
structure Moves (source target : Registration ℚ) (frames : ℚ → HeroFrame ℚ) : Prop where
  key_eq : ∀ progress, (frames progress).key = source.key
  fromScene_eq : ∀ progress, (frames progress).fromScene = source.scene
  toScene_eq : ∀ progress, (frames progress).toScene = target.scene
  progress_eq : ∀ progress, (frames progress).progress = max 0 (min 1 progress)
  proper : ∀ progress, (frames progress).bounds.Proper
  mem_uIcc : ∀ progress component, (frames progress).geometry component ∈
    Set.uIcc (source.geometry component) (target.geometry component)
  monotone : ∀ component, source.geometry component ≤ target.geometry component →
    Monotone fun progress => (frames progress).geometry component
  antitone : ∀ component, target.geometry component ≤ source.geometry component →
    Antitone fun progress => (frames progress).geometry component
  evenly : ∀ progress ∈ Set.Icc 0 1, ∀ component, (frames progress).geometry component =
    (1 - progress) * source.geometry component + progress * target.geometry component
  of_nonpos : ∀ progress ≤ 0, (frames progress).geometry = source.geometry
  of_one_le : ∀ progress ≥ 1, (frames progress).geometry = target.geometry

variable (source target : Registration ℚ)

/-- The frame of a hero at a progress between two registrations. -/
def toward (progress : ℚ) : HeroFrame ℚ where
  key := source.key
  fromScene := source.scene
  toScene := target.scene
  progress := Scalar.clampUnit progress
  bounds := source.bounds.between target.bounds (Scalar.clampUnit progress)
  rotation := Scalar.mix source.rotation target.rotation (Scalar.clampUnit progress)
  scale := Scalar.mix source.scale target.scale (Scalar.clampUnit progress)

/-- Each component moves by itself, with the progress kept between 0 and 1. -/
theorem geometry_toward (progress : ℚ) (component : Component) :
    (source.toward target progress).geometry component =
      Scalar.mix (source.geometry component) (target.geometry component)
        (Scalar.clampUnit progress) := by
  cases component <;> rfl

/-- The way back from the other registration is the same one. -/
theorem toward_one_sub (hkey : source.key = target.key) (progress : ℚ) :
    target.toward source (1 - progress) = (source.toward target progress).reversed := by
  simp only [toward, HeroFrame.reversed, Rect.between, Scalar.clampUnit_one_sub, Scalar.mix_one_sub,
    hkey]

variable {source target}

theorem toward_moves (hsource : source.bounds.Proper) (htarget : target.bounds.Proper) :
    source.Moves target (source.toward target) where
  key_eq _ := rfl
  fromScene_eq _ := rfl
  toScene_eq _ := rfl
  progress_eq := Scalar.clampUnit_eq
  proper progress := Rect.between_proper hsource htarget (Scalar.clampUnit_mem progress)
  -- in each of these a component is a mix of its two ends
  mem_uIcc progress component := by
    rw [geometry_toward]
    exact Scalar.mix_mem_uIcc _ _ (Scalar.clampUnit_mem progress)
  monotone component hle := by
    simp only [geometry_toward]
    exact (Scalar.mix_mono hle).comp Scalar.clampUnit_mono
  antitone component hge := by
    simp only [geometry_toward]
    exact (Scalar.mix_anti hge).comp_monotone Scalar.clampUnit_mono
  evenly progress hwithin component := by
    rw [geometry_toward, Scalar.clampUnit_of_mem hwithin, Scalar.mix_eq]
  of_nonpos progress hbefore := by
    funext component
    rw [geometry_toward, Scalar.clampUnit_of_nonpos hbefore, Scalar.mix_zero]
  of_one_le progress hafter := by
    funext component
    rw [geometry_toward, Scalar.clampUnit_of_one_le hafter, Scalar.mix_one]

end Registration

/-! ## In a registry -/

namespace Registry

/-! ### What is registered -/

section Changes

variable {α : Type} {key : String} {scene : ℤ} {entry : Registration α}

/-- A change puts nothing in a slot but what it registers. -/
theorem Change.registered_or_of_write {change : Change α} {slots : Slots α}
    (h : change.write slots key scene = some entry) :
    change = .register entry ∨ slots key scene = some entry := by
  cases change with
  | register registration =>
    simp only [Change.write] at h
    split at h
    · exact .inl (congrArg Change.register (Option.some.inj h))
    · exact .inr h
  | unregister other place =>
    simp only [Change.write] at h
    split at h
    · cases h
    · exact .inr h
  | clear => cases h

/-- What is in a slot has been registered. -/
theorem registered_of_slotsAfter {changes : List (Change α)}
    (h : slotsAfter changes key scene = some entry) : .register entry ∈ changes := by
  induction changes using List.reverseRecOn with
  | nil => cases h
  | append_singleton changes change ih =>
    rw [slotsAfter_concat] at h
    rcases Change.registered_or_of_write h with rfl | hbefore
    · exact List.mem_append_right _ (List.mem_singleton_self _)
    · exact List.mem_append_left _ (ih hbefore)

end Changes

/-! ### The way between two scenes -/

variable (registry : Registry ℚ) (slots : Slots ℚ) (key : String) (fromScene toScene : ℤ)

/-- A hero has fewer than two registrations, or none in one of two scenes. -/
def Unmatched : Prop :=
  (registry.registrations key).length < 2 ∨ slots key fromScene = none ∨ slots key toScene = none

/-- What a registry answers about a hero between two scenes: nothing when it is unmatched, and a
failure when it has to be there. Else it moves from the one scene to the other, and the same way
back. -/
structure Carries : Prop where
  none_iff : ∀ progress, registry.transition? key fromScene toScene progress = .ok none ↔
    registry.Unmatched slots key fromScene toScene
  refused_iff : ∀ progress, registry.transition key fromScene toScene progress =
    .error (.unresolved (.hero key fromScene toScene)) ↔
      registry.Unmatched slots key fromScene toScene
  moves : ¬registry.Unmatched slots key fromScene toScene →
    ∃ source ∈ slots key fromScene, ∃ target ∈ slots key toScene, ∃ frames,
      source.Moves target frames ∧ ∀ progress,
        registry.transition? key fromScene toScene progress = .ok (some (frames progress)) ∧
          registry.transition key fromScene toScene progress = .ok (frames progress) ∧
            registry.transition? key toScene fromScene (1 - progress) =
              .ok (some (frames progress).reversed)

variable {registry key fromScene toScene}

/-- Without a match in both scenes there is nothing to move, and no failure. -/
theorem transition?_of_unmatched (h : registry.Unmatched registry.find? key fromScene toScene)
    (progress : ℚ) : registry.transition? key fromScene toScene progress = .ok none := by
  rw [transition?]
  split
  · rfl
  · next hlength =>
    rcases h with hfew | hnone | hnone
    · exact absurd hfew hlength
    · rw [hnone]
    · rw [hnone]
      cases registry.find? key fromScene <;> rfl

/-- With a match in both scenes the hero moves from the one to the other. -/
theorem transition?_of_matched
    (hlength : 2 ≤ (registry.registrations key).length) {source target : Registration ℚ}
    (hsource : registry.find? key fromScene = some source)
    (htarget : registry.find? key toScene = some target) (hleft : source.bounds.Proper)
    (hright : target.bounds.Proper) (progress : ℚ) :
    registry.transition? key fromScene toScene progress =
      .ok (some (source.toward target progress)) := by
  obtain ⟨hentry, rfl⟩ := find?_eq_some_iff.mp hsource
  obtain ⟨-, rfl⟩ := find?_eq_some_iff.mp htarget
  obtain rfl := registry.key_eq key hentry
  rw [transition?, if_neg (Nat.not_lt.mpr hlength), hsource, htarget]
  dsimp only
  rw [Rect.lerp_eq hleft hright (Scalar.clampUnit_mem progress)]
  rfl

/-- Where nothing moves, asking for the movement is an error. -/
theorem transition_of_none {progress : ℚ}
    (h : registry.transition? key fromScene toScene progress = .ok none) :
    registry.transition key fromScene toScene progress =
      .error (.unresolved (.hero key fromScene toScene)) := by
  rw [transition, h]
  rfl

theorem transition_of_some {progress : ℚ} {frame : HeroFrame ℚ}
    (h : registry.transition? key fromScene toScene progress = .ok (some frame)) :
    registry.transition key fromScene toScene progress = .ok frame := by
  rw [transition, h]
  rfl

/-- A registry of proper registrations carries every hero between all scenes. -/
theorem carries_of_proper
    (hproper : ∀ key scene, ∀ entry ∈ registry.find? key scene, entry.bounds.Proper) (key : String)
    (fromScene toScene : ℤ) : registry.Carries registry.find? key fromScene toScene := by
  by_cases hmatch : registry.Unmatched registry.find? key fromScene toScene
  · have hnone := transition?_of_unmatched hmatch
    constructor
    case none_iff => exact fun progress => iff_of_true (hnone progress) hmatch
    case refused_iff =>
      exact fun progress => iff_of_true (transition_of_none (hnone progress)) hmatch
    case moves => exact fun hmatched => absurd hmatch hmatched
  · have hmatched := hmatch
    simp only [Unmatched, not_or, not_lt, Option.ne_none_iff_exists'] at hmatched
    obtain ⟨hlength, ⟨source, hsource⟩, target, htarget⟩ := hmatched
    have hleft := hproper key fromScene source hsource
    have hright := hproper key toScene target htarget
    have hthere := transition?_of_matched hlength hsource htarget hleft hright
    have hback := transition?_of_matched hlength htarget hsource hright hleft
    -- both are kept under the key, and so the way back is one of the same hero
    have hkey : source.key = target.key :=
      (registry.key_eq key (find?_eq_some_iff.mp hsource).1).trans
        (registry.key_eq key (find?_eq_some_iff.mp htarget).1).symm
    constructor
    case none_iff =>
      refine fun progress => iff_of_false (fun hnone => ?_) hmatch
      cases (hthere progress).symm.trans hnone
    case refused_iff =>
      refine fun progress => iff_of_false (fun hrefused => ?_) hmatch
      cases (transition_of_some (hthere progress)).symm.trans hrefused
    case moves =>
      intro _
      refine ⟨source, hsource, target, htarget, source.toward target,
        Registration.toward_moves hleft hright, fun progress => ⟨hthere progress, ?_, ?_⟩⟩
      · exact transition_of_some (hthere progress)
      · rw [hback, Registration.toward_one_sub source target hkey]

/-- **A hero moves between two scenes** in every registry that changes have led to, if it has two
registrations or more and both scenes have one. It only takes that no rectangle with a negative
extent was registered, and none comes about on the way. -/
theorem heroes_move (changes : List (Change ℚ))
    (hproper : ∀ registration, .register registration ∈ changes → registration.bounds.Proper)
    (key : String) (fromScene toScene : ℤ) :
    (after changes).Carries (slotsAfter changes) key fromScene toScene := by
  rw [← find?_after]
  refine carries_of_proper (fun key scene entry hentry => ?_) key fromScene toScene
  rw [find?_after] at hentry
  exact hproper entry (registered_of_slotsAfter hentry)

/-- A badge that is as wide in a scene as it is told to be. -/
def badge (scene : ℤ) (width : ℚ) : Registration ℚ :=
  ⟨"badge", scene, ⟨8, 4, width, 10⟩, 0, 1⟩

/-- A badge that is registered anew without a width moves to there from an earlier scene. -/
theorem heroes_move_badge :
    let changes : List (Change ℚ) := [.register (badge 3 40), .register (badge 1 10),
      .unregister "badge" 2, .register (badge 3 0)]
    (∀ registration, .register registration ∈ changes → registration.bounds.Proper) ∧
      ¬(after changes).Unmatched (slotsAfter changes) "badge" 1 3 ∧
        (after changes).Carries (slotsAfter changes) "badge" 1 3 := by
  intro changes
  have hproper (registration : Registration ℚ) (h : .register registration ∈ changes) :
      registration.bounds.Proper := by
    simp only [changes, List.mem_cons, Change.register.injEq, reduceCtorEq, List.not_mem_nil,
      or_false, false_or] at h
    rcases h with rfl | rfl | rfl
    all_goals exact ⟨by decide, by decide⟩
  -- the key has two registrations, and both of the scenes have one
  refine ⟨hproper, ?_, heroes_move changes hproper "badge" 1 3⟩
  rintro (hfew | hnone | hnone)
  · exact absurd hfew (by decide +kernel)
  · cases hnone
  · cases hnone

/-- A hero that is registered once does not move, not even within its scene. -/
example : ((ofList [badge 1 10]).transition? "badge" 1 1 (1 / 2)).toOption = some none := by
  decide +kernel

end Registry

end Montage
