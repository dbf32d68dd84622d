import Montage.Geometry

/-!
# Places among registrations

A hero is registered in several scenes, and its registrations are kept by ascending scene. The place
of a new one is found by halving, which is right only in ascending scenes (`Between.bisect`). There a
registration is put after those of earlier scenes and before those of later ones (`place_eq`), so
that they still ascend (`place_ascending`).
-/

namespace Montage

variable {α : Type}

/-- One appearance of a hero. -/
structure Registration (α : Type) where
  key : String
  scene : Int
  bounds : Rect α
  rotation : α
  scale : α
deriving Repr, DecidableEq

namespace Registry

/-- The first place from `low` to `high` where a scene is not before the given one, found by halving
in ascending scenes. -/
def bisect (scenes : List Int) (scene : Int) (low high : Nat) : Nat :=
  if low < high then
    let middle := (low + high) / 2
    if scenes[middle]?.any (· < scene) then bisect scenes scene (middle + 1) high
    else bisect scenes scene low middle
  else low
termination_by high - low

/-- The registrations of a hero with one more, in place of any for the same scene. -/
def place (registration : Registration α) (entries : List (Registration α)) :
    List (Registration α) :=
  let position := bisect (entries.map Registration.scene) registration.scene 0 entries.length
  if entries[position]?.any (·.scene = registration.scene) then entries.set position registration
  else entries.insertIdx position registration

/-- Registrations by ascending scene. -/
def Ascending (entries : List (Registration α)) : Prop :=
  entries.Pairwise fun first second => first.scene < second.scene

/-! ## Halving -/

/-- A scene belongs between two places in a list of scenes: those before the first place are before
it, and those from the second place on are not. -/
structure Between (scenes : List Int) (scene : Int) (low high : Nat) : Prop where
  le : low ≤ high
  le_length : high ≤ scenes.length
  lt : ∀ i < low, ∀ other ∈ scenes[i]?, other < scene
  ge : ∀ i, high ≤ i → ∀ other ∈ scenes[i]?, scene ≤ other

/-- Of two scenes in an ascending list the one at the earlier place is not after the other. -/
theorem le_of_getElem? {scenes : List Int} (hscenes : scenes.Pairwise (· < ·)) {i j : Nat}
    {a b : Int} (ha : scenes[i]? = some a) (hb : scenes[j]? = some b) (hij : i ≤ j) : a ≤ b := by
  obtain ⟨hi, rfl⟩ := List.getElem?_eq_some_iff.mp ha
  obtain ⟨hj, rfl⟩ := List.getElem?_eq_some_iff.mp hb
  rcases Nat.lt_or_eq_of_le hij with hlt | rfl
  · exact Int.le_of_lt (List.pairwise_iff_getElem.mp hscenes i j hi hj hlt)
  · exact Int.le_refl _

/-- Halving in ascending scenes goes on until the two places are one. -/
theorem Between.bisect {scenes : List Int} (hscenes : scenes.Pairwise (· < ·)) {scene : Int}
    {low high : Nat} (h : Between scenes scene low high) :
    Between scenes scene (bisect scenes scene low high) (bisect scenes scene low high) := by
  fun_induction Registry.bisect scenes scene low high with
  | case1 low high hlt middle hbefore ih =>
    -- the scenes ascend, so with the one in the middle all up to it are before the scene
    obtain ⟨found, hfound, hless⟩ := (Option.any_eq_true _ _).mp hbefore
    refine ih ⟨by omega, h.le_length, fun i hi other hother => ?_, h.ge⟩
    have := le_of_getElem? hscenes hother hfound (by omega)
    simp at hless
    omega
  | case2 low high hlt middle hafter ih =>
    -- and here all from the middle on are not
    have hlength := h.le_length
    refine ih ⟨by omega, by omega, h.lt, fun i hi other hother => ?_⟩
    have hfound : scenes[middle]? = some scenes[middle] := List.getElem?_eq_getElem (by omega)
    have := le_of_getElem? hscenes hfound hother hi
    simp [hfound] at hafter
    omega
  | case3 low high hdone =>
    obtain rfl : low = high := Nat.le_antisymm h.le (Nat.not_lt.mp hdone)
    exact h

/-! ## Placing -/

theorem insertIdx_length (before after : List (Registration α)) (registration : Registration α) :
    (before ++ after).insertIdx before.length registration = before ++ registration :: after := by
  induction before with
  | nil => rfl
  | cons first rest ih => exact congrArg (first :: ·) ih

section Entries

variable {entries : List (Registration α)} (h : Ascending entries) (registration : Registration α)

include h

/-- The place that is found divides the entries into those of earlier scenes and the others. -/
theorem exists_divided : ∃ before after, entries = before ++ after ∧
    bisect (entries.map Registration.scene) registration.scene 0 entries.length = before.length ∧
      (∀ entry ∈ before, entry.scene < registration.scene) ∧
      ∀ entry ∈ after, registration.scene ≤ entry.scene := by
  have hscenes : (entries.map Registration.scene).Pairwise (· < ·) := List.pairwise_map.mpr h
  have hbetween : Between (entries.map Registration.scene) registration.scene 0 entries.length := by
    refine ⟨Nat.zero_le _, by simp, by simp, fun i hi other hother => ?_⟩
    rw [List.getElem?_eq_none (by simpa using hi)] at hother
    cases hother
  have hfound := hbetween.bisect hscenes
  generalize bisect _ _ _ _ = place at hfound
  have hplace : place ≤ entries.length := by simpa using hfound.le_length
  -- what is found belongs between nothing but itself, so it divides the list
  refine ⟨entries.take place, entries.drop place, (List.take_append_drop _ _).symm, ?_, ?_, ?_⟩
  · rw [List.length_take, Nat.min_eq_left hplace]
  · intro entry hentry
    obtain ⟨i, hi⟩ := List.mem_iff_getElem?.mp hentry
    rw [List.getElem?_take] at hi
    split at hi
    · exact hfound.lt i ‹_› _ (by rw [List.getElem?_map, hi]; rfl)
    · cases hi
  · intro entry hentry
    obtain ⟨i, hi⟩ := List.mem_iff_getElem?.mp hentry
    rw [List.getElem?_drop] at hi
    exact hfound.ge _ (Nat.le_add_right _ _) _ (by rw [List.getElem?_map, hi]; rfl)

/-- **A registration is placed** after those of earlier scenes and before those of later ones. -/
theorem place_eq : place registration entries =
    entries.filter (·.scene < registration.scene) ++
      registration :: entries.filter (registration.scene < ·.scene) := by
  obtain ⟨before, after, rfl, hplace, hbefore, hafter⟩ := exists_divided h registration
  have hnone : ∀ entry ∈ before, ¬registration.scene < entry.scene :=
    fun entry hentry => Int.not_lt.mpr (Int.le_of_lt (hbefore entry hentry))
  have hlate : ∀ entry ∈ after, ¬entry.scene < registration.scene :=
    fun entry hentry => Int.not_lt.mpr (hafter entry hentry)
  rw [List.filter_append, List.filter_append, List.filter_eq_self.mpr (by simpa using hbefore),
    List.filter_eq_nil_iff.mpr (by simpa using hlate), List.append_nil,
    List.filter_eq_nil_iff.mpr (by simpa using hnone), List.nil_append, place, hplace,
    List.getElem?_append_right (Nat.le_refl _), Nat.sub_self]
  -- only the first of the others can be for the same scene, and all after it are later
  cases after with
  | nil => exact insertIdx_length before [] registration
  | cons first rest =>
    have hrest : ∀ entry ∈ rest, first.scene < entry.scene :=
      (List.pairwise_cons.mp (List.pairwise_append.mp h).2.1).1
    have hfirst := hafter first List.mem_cons_self
    by_cases hsame : first.scene = registration.scene
    · have hkept : rest.filter (registration.scene < ·.scene) = rest :=
        List.filter_eq_self.mpr (by simpa [hsame] using hrest)
      rw [if_pos (by simpa using hsame), List.set_append_right _ _ (Nat.le_refl _), Nat.sub_self,
        List.set_cons_zero, List.filter_cons_of_neg (by simp [hsame]), hkept]
    · have hlater : ∀ entry ∈ first :: rest, registration.scene < entry.scene := by
        have hlt : registration.scene < first.scene := by omega
        exact List.forall_mem_cons.mpr
          ⟨hlt, fun entry hentry => Int.lt_trans hlt (hrest entry hentry)⟩
      rw [if_neg (by simpa using hsame), insertIdx_length,
        List.filter_eq_self.mpr (by simpa using hlater)]

theorem place_ascending : Ascending (place registration entries) := by
  rw [place_eq h, Ascending, List.pairwise_append]
  refine ⟨h.filter _, List.pairwise_cons.mpr ⟨?_, h.filter _⟩, ?_⟩
  · intro entry hentry
    simpa using (List.mem_filter.mp hentry).2
  · intro first hfirst second hsecond
    have hbefore : first.scene < registration.scene := by simpa using (List.mem_filter.mp hfirst).2
    rcases List.mem_cons.mp hsecond with rfl | hsecond
    · exact hbefore
    · exact Int.lt_trans hbefore (by simpa using (List.mem_filter.mp hsecond).2)

/-- A registration takes the place of one for the same scene, and of no other. -/
theorem mem_place {entry : Registration α} : entry ∈ place registration entries ↔
    entry = registration ∨ entry ∈ entries ∧ entry.scene ≠ registration.scene := by
  rw [place_eq h]
  simp only [List.mem_append, List.mem_cons, List.mem_filter, decide_eq_true_eq]
  -- two scenes differ when one is before the other
  have hne : entry.scene < registration.scene ∨ registration.scene < entry.scene ↔
      entry.scene ≠ registration.scene := by omega
  rw [← hne]
  constructor
  · rintro (⟨hentry, hbefore⟩ | rfl | ⟨hentry, hafter⟩)
    · exact .inr ⟨hentry, .inl hbefore⟩
    · exact .inl rfl
    · exact .inr ⟨hentry, .inr hafter⟩
  · rintro (rfl | ⟨hentry, hbefore | hafter⟩)
    · exact .inr (.inl rfl)
    · exact .inl ⟨hentry, hbefore⟩
    · exact .inr (.inr ⟨hentry, hafter⟩)

end Entries

end Registry

end Montage
