import Mathlib.Data.Int.Notation
import Mathlib.Data.List.Induction
import Mathlib.Data.List.Sort
import Mathlib.Data.Nat.Notation
import Mathlib.Data.String.Basic
import Montage.Hero
import Montage.Proofs.Table

/-!
# Registries as maps

A registry is a map from keys and scenes to registrations: `Registry.after_shows` says so for all
that can be read from a registry, after any sequence of changes (`Change`). What is kept under a key
ascends by scene, so that a scene has at most one registration (`eq_of_scene_eq`) and each change
fills or empties slots (`Change.find?_apply`).
-/

namespace Montage.Registry

variable {α : Type}

/-! ## Registrations of a hero -/

theorem Ascending.nodup {entries : List (Registration α)} (h : Ascending entries) :
    entries.Nodup :=
  h.imp fun hlt heq => hlt.ne (congrArg Registration.scene heq)

/-- Ascending registrations have one for each scene. -/
theorem eq_of_scene_eq {entries : List (Registration α)} (h : Ascending entries)
    {first second : Registration α} (hfirst : first ∈ entries) (hsecond : second ∈ entries)
    (hscene : first.scene = second.scene) : first = second := by
  have hnodup : (entries.map Registration.scene).Nodup :=
    (List.pairwise_map.mpr h).imp fun hlt => hlt.ne
  exact List.inj_on_of_nodup_map hnodup hfirst hsecond hscene

variable {registry : Registry α}

theorem find?_eq_some_iff {key : String} {scene : ℤ} {entry : Registration α} :
    registry.find? key scene = some entry ↔
      entry ∈ registry.registrations key ∧ entry.scene = scene := by
  rw [find?]
  constructor
  · intro hfound
    exact ⟨List.mem_of_find?_eq_some hfound, by simpa using List.find?_some hfound⟩
  · rintro ⟨hentry, hscene⟩
    -- the scenes ascend, so only one entry is for the scene that is asked for
    cases hfound : (registry.registrations key).find? fun other => other.scene = scene with
    | none =>
      rw [List.find?_eq_none] at hfound
      exact absurd hscene (by simpa using hfound entry hentry)
    | some other =>
      have hother : other.scene = scene := by simpa using List.find?_some hfound
      rw [eq_of_scene_eq (registry.ascending key) (List.mem_of_find?_eq_some hfound) hentry
        (hother.trans hscene.symm)]

/-! ## Changes -/

/-! ### Registration -/

/-- What is kept under a key replaces what was kept there, and nothing else. -/
theorem registrations_keep (registry : Registry α) {key : String}
    {entries : List (Registration α)} (h : Kept key entries) (other : String) :
    (registry.keep key entries h).registrations other =
      if key = other then entries else registry.registrations other := by
  rw [registrations, keep, Table.get?_insert]
  split <;> rfl

/-- A key that is dropped has no registrations left. -/
theorem registrations_drop (registry : Registry α) (key other : String) :
    (registry.drop key).registrations other =
      if key = other then [] else registry.registrations other := by
  rw [registrations, drop, Table.get?_erase]
  split <;> rfl

theorem registrations_register (registration : Registration α) (registry : Registry α)
    (key : String) : (register registration registry).registrations key =
      if registration.key = key then place registration (registry.registrations registration.key)
      else registry.registrations key :=
  registry.registrations_keep (registry.place_kept registration) key

/-- A registration fills the slot of its own key and scene. -/
theorem find?_register (registration : Registration α) (registry : Registry α) (key : String)
    (scene : ℤ) : (register registration registry).find? key scene =
      if registration.key = key ∧ registration.scene = scene then some registration
      else registry.find? key scene := by
  -- the slot of the registration is one of those of its hero, and no other slot changes
  ext entry
  rw [find?_eq_some_iff, registrations_register]
  by_cases hkey : registration.key = key
  · subst hkey
    rw [if_pos rfl, mem_place (registry.ascending _)]
    by_cases hscene : registration.scene = scene
    · rw [if_pos ⟨rfl, hscene⟩, Option.some.injEq]
      constructor
      · rintro ⟨rfl | ⟨-, hother⟩, hentry⟩
        · rfl
        · exact absurd (hentry.trans hscene.symm) hother
      · rintro rfl
        exact ⟨.inl rfl, hscene⟩
    · rw [if_neg (fun hslot => hscene hslot.2), find?_eq_some_iff]
      constructor
      · rintro ⟨rfl | ⟨hentry, -⟩, hother⟩
        · exact absurd hother hscene
        · exact ⟨hentry, hother⟩
      · rintro ⟨hentry, rfl⟩
        exact ⟨.inr ⟨hentry, Ne.symm hscene⟩, rfl⟩
  · rw [if_neg hkey, if_neg (fun hslot => hkey hslot.1), find?_eq_some_iff]

/-! ### Removal -/

section Removal

variable {key : String} {scene : ℤ}

/-- There is nothing to remove just when no registration is for the scene. -/
theorem unregister?_eq_none_iff : registry.unregister? key scene = none ↔
    ∀ entry ∈ registry.registrations key, entry.scene ≠ scene := by
  rw [unregister?]
  simp only [List.length_filter_eq_length_iff, decide_eq_true_eq]
  split
  · simpa
  · rename_i hsome
    split <;> simpa using hsome

/-- What is left of a registry: all of it when nothing is left out, no key when no registration is
left, and else the key with what is left. -/
theorem unregister_cases (registry : Registry α) (key : String) (scene : ℤ)
    {left : List (Registration α)}
    (hleft : (registry.registrations key).filter (·.scene ≠ scene) = left) :
    left = registry.registrations key ∧ registry.unregister key scene = registry ∨
      left = [] ∧ registry.unregister key scene = registry.drop key ∨
      ∃ h : Kept key left, registry.unregister key scene = registry.keep key left h := by
  subst hleft
  rw [unregister, unregister?]
  split
  · rename_i hlength
    rw [List.length_filter_eq_length_iff, ← List.filter_eq_self] at hlength
    exact .inl ⟨hlength, rfl⟩
  · split
    · rename_i hempty
      exact .inr (.inl ⟨hempty, rfl⟩)
    · exact .inr (.inr ⟨registry.filter_kept key _ ‹_›, rfl⟩)

/-- Only the registrations of the hero change, and of them only the one for the scene. -/
theorem registrations_unregister (other : String) :
    (registry.unregister key scene).registrations other =
      if key = other then (registry.registrations key).filter (·.scene ≠ scene)
      else registry.registrations other := by
  generalize hleft : (registry.registrations key).filter (·.scene ≠ scene) = left
  rcases unregister_cases registry key scene hleft with ⟨rfl, hnext⟩ | ⟨rfl, hnext⟩ | ⟨h, hnext⟩
  · rw [hnext]
    split
    · rename_i hkey
      rw [hkey]
    · rfl
  · rw [hnext, registrations_drop]
  · rw [hnext, registrations_keep]

theorem find?_unregister (registry : Registry α) (key : String) (scene : ℤ) (other : String) (place : ℤ) :
    (registry.unregister key scene).find? other place =
      if key = other ∧ scene = place then none else registry.find? other place := by
  ext entry
  rw [find?_eq_some_iff, registrations_unregister]
  -- the slot that is emptied, another scene of its key, and another key
  by_cases hkey : key = other
  · subst hkey
    rw [if_pos rfl, List.mem_filter, decide_eq_true_eq]
    by_cases hscene : scene = place
    · rw [if_pos ⟨rfl, hscene⟩]
      subst hscene
      simp only [reduceCtorEq, iff_false]
      rintro ⟨⟨-, hother⟩, hentry⟩
      exact hother hentry
    · rw [if_neg (fun hslot => hscene hslot.2), find?_eq_some_iff]
      constructor
      · rintro ⟨⟨hentry, -⟩, hplace⟩
        exact ⟨hentry, hplace⟩
      · rintro ⟨hentry, rfl⟩
        exact ⟨⟨hentry, Ne.symm hscene⟩, rfl⟩
  · rw [if_neg hkey, if_neg (fun hslot => hkey hslot.1), find?_eq_some_iff]

end Removal

/-! ## Reading -/

/-- The keys that are listed are those that have registrations. -/
theorem mem_keys {key : String} : key ∈ registry.keys ↔ registry.registrations key ≠ [] := by
  rw [keys, List.mem_mergeSort, Entries.names, List.mem_map]
  constructor
  · rintro ⟨⟨_, entries⟩, hentry, rfl⟩
    rw [registrations, Table.mem_iff.mp hentry]
    exact (registry.kept _ hentry).nonempty
  · intro hkey
    have hget := registry.get?_heroes key
    rw [if_neg hkey] at hget
    exact ⟨_, Table.mem_of_get? hget, rfl⟩

/-- The keys are sorted, each of them being there once. -/
theorem keys_sorted (registry : Registry α) : registry.keys.Pairwise (· < ·) := by
  have hle : registry.keys.Pairwise (· ≤ ·) := by
    have hsorted := @List.pairwise_mergeSort String (fun first second => !(second < first))
    simp only [Bool.not_eq_true', decide_eq_false_iff_not, not_lt, Bool.or_eq_true] at hsorted
    exact hsorted (fun _ _ _ => le_trans) le_total _
  have hnodup : registry.keys.Nodup := (List.mergeSort_perm _ _).nodup_iff.mpr registry.heroes.distinct
  exact (hle.and hnodup).imp fun ⟨hle, hne⟩ => lt_of_le_of_ne hle hne

/-- What is kept under a key is what its slots show. -/
theorem mem_registrations {key : String} {entry : Registration α} :
    entry ∈ registry.registrations key ↔ ∃ scene, registry.find? key scene = some entry := by
  simp only [find?_eq_some_iff, exists_and_left, exists_eq', and_true]

/-- Two registrations of a hero or more are for two different scenes. -/
theorem two_le_length_iff {key : String} : 2 ≤ (registry.registrations key).length ↔
    ∃ first second, first ≠ second ∧
      (registry.find? key first).isSome ∧ (registry.find? key second).isSome := by
  have hascending := registry.ascending key
  -- two slots of a key are two entries, as the scene tells them apart
  simp only [Option.isSome_iff_exists, find?_eq_some_iff]
  constructor
  · intro hlength
    match hentries : registry.registrations key, hlength with
    | first :: second :: rest, _ =>
      rw [hentries] at hascending
      have hlt := (List.pairwise_cons.mp hascending).1 second List.mem_cons_self
      exact ⟨first.scene, second.scene, hlt.ne, ⟨first, List.mem_cons_self, rfl⟩, second,
        List.mem_cons_of_mem _ List.mem_cons_self, rfl⟩
  · rintro ⟨_, _, hne, ⟨first, hfirst, rfl⟩, second, hsecond, rfl⟩
    match hentries : registry.registrations key with
    | [] => simp [hentries] at hfirst
    | [only] =>
      rw [hentries, List.mem_singleton] at hfirst hsecond
      exact absurd (by rw [hfirst, hsecond]) hne
    | _ :: _ :: _ => simp

theorem has_eq (registry : Registry α) (key : String) (scene : ℤ) :
    registry.has key scene = (registry.find? key scene).isSome := by
  rw [has, find?, Bool.eq_iff_iff, List.find?_isSome, List.any_eq_true]

/-- A removal says whether the slot was filled. -/
theorem unregister?_isSome (registry : Registry α) (key : String) (scene : ℤ) :
    (registry.unregister? key scene).isSome = (registry.find? key scene).isSome := by
  rw [Bool.eq_iff_iff, find?, List.find?_isSome, Option.isSome_iff_ne_none, ne_eq,
    unregister?_eq_none_iff]
  simp

/-- A hero moves when it has two registrations, one of them in a scene next to this. -/
theorem hasTransition_iff {key : String} {scene : ℤ} :
    registry.hasTransition key scene ↔ (∃ first second, first ≠ second ∧
      (registry.find? key first).isSome ∧ (registry.find? key second).isSome) ∧
        ((registry.find? key (scene - 1)).isSome ∨ (registry.find? key (scene + 1)).isSome) := by
  rw [← two_le_length_iff, hasTransition, find?, find?, List.find?_isSome, List.find?_isSome]
  simp only [Bool.and_eq_true, decide_eq_true_eq, List.any_eq_true, Bool.or_eq_true, and_or_left,
    exists_or]

/-! ## Runs -/

/-- What there is in each slot: for a hero in a scene a registration, or nothing. -/
abbrev Slots (α : Type) := String → ℤ → Option (Registration α)

/-- A change to a registry. -/
inductive Change (α : Type) where
  | register (registration : Registration α)
  | unregister (key : String) (scene : ℤ)
  | clear

namespace Change

/-- The registry after a change. -/
def apply : Change α → Registry α → Registry α
  | .register registration, registry => Registry.register registration registry
  | .unregister key scene, registry => registry.unregister key scene
  | .clear, _ => empty

/-- The slots after a change: one of them is filled or emptied, or all of them are emptied. -/
def write : Change α → Slots α → Slots α
  | .register registration, slots => fun key scene =>
    if registration.key = key ∧ registration.scene = scene then some registration
    else slots key scene
  | .unregister key scene, slots => fun other place =>
    if key = other ∧ scene = place then none else slots other place
  | .clear, _ => fun _ _ => none

/-- **A change fills or empties slots** of a registry as it should. -/
theorem find?_apply (change : Change α) (registry : Registry α) :
    (change.apply registry).find? = change.write registry.find? := by
  funext key scene
  cases change with
  | register registration => exact find?_register registration registry key scene
  | unregister hero place => exact find?_unregister registry hero place key scene
  | clear => rfl

end Change

/-- The registry after changes to an empty one. -/
def after (changes : List (Change α)) : Registry α :=
  changes.foldl (fun registry change => change.apply registry) empty

/-- The slots after changes to empty ones. -/
def slotsAfter (changes : List (Change α)) : Slots α :=
  changes.foldl (fun slots change => change.write slots) fun _ _ => none

theorem after_concat (changes : List (Change α)) (change : Change α) :
    after (changes ++ [change]) = change.apply (after changes) := by
  rw [after, List.foldl_append]
  rfl

theorem slotsAfter_concat (changes : List (Change α)) (change : Change α) :
    slotsAfter (changes ++ [change]) = change.write (slotsAfter changes) := by
  rw [slotsAfter, List.foldl_append]
  rfl

/-- The slots of a registry are those that its changes have filled and not emptied since. -/
theorem find?_after (changes : List (Change α)) :
    (after changes).find? = slotsAfter changes := by
  induction changes using List.reverseRecOn with
  | nil => rfl
  | append_singleton changes change ih =>
    rw [after_concat, slotsAfter_concat, change.find?_apply, ih]

/-- A registry answers as slots say. -/
structure Shows (registry : Registry α) (slots : Slots α) : Prop where
  find?_eq : ∀ key scene, registry.find? key scene = slots key scene
  has_eq : ∀ key scene, registry.has key scene = (slots key scene).isSome
  /-- The registrations of a hero are those in its slots, by ascending scene. -/
  ascending : ∀ key, Ascending (registry.registrations key)
  mem_registrations : ∀ key entry,
    entry ∈ registry.registrations key ↔ ∃ scene, slots key scene = some entry
  /-- The keys are those of the slots that are filled, in ascending order; no other is kept. -/
  keys_sorted : registry.keys.Pairwise (· < ·)
  mem_keys : ∀ key, key ∈ registry.keys ↔ ∃ scene, (slots key scene).isSome
  nonempty : ∀ hero ∈ registry.heroes, hero.2 ≠ []
  /-- What is in a slot can be removed, and nothing else changes then. -/
  unregister?_isSome : ∀ key scene,
    (registry.unregister? key scene).isSome = (slots key scene).isSome
  unregister_eq : ∀ key scene, slots key scene = none → registry.unregister key scene = registry
  registrations_unregister : ∀ key scene other,
    (registry.unregister key scene).registrations other =
      if key = other then (registry.registrations key).filter (·.scene ≠ scene)
      else registry.registrations other
  /-- A hero with two slots or more moves to a scene or from it when a slot next to it is filled. -/
  hasTransition_iff : ∀ key scene, registry.hasTransition key scene ↔
    (∃ first second, first ≠ second ∧ (slots key first).isSome ∧ (slots key second).isSome) ∧
      ((slots key (scene - 1)).isSome ∨ (slots key (scene + 1)).isSome)

theorem shows (registry : Registry α) : registry.Shows registry.find? where
  find?_eq _ _ := rfl
  has_eq := has_eq registry
  ascending := registry.ascending
  mem_registrations _ _ := mem_registrations
  keys_sorted := registry.keys_sorted
  -- a key has a registration just when one of its slots is filled
  mem_keys key := by
    simp only [mem_keys, Option.isSome_iff_exists]
    constructor
    · intro hkey
      obtain ⟨entry, hentry⟩ := List.exists_mem_of_ne_nil _ hkey
      obtain ⟨scene, hscene⟩ := mem_registrations.mp hentry
      exact ⟨scene, entry, hscene⟩
    · rintro ⟨scene, entry, hscene⟩
      exact List.ne_nil_of_mem (mem_registrations.mpr ⟨scene, hscene⟩)
  nonempty hero hhero := (registry.kept hero hhero).nonempty
  unregister?_isSome := unregister?_isSome registry
  unregister_eq key scene hslot := by
    have hnone := unregister?_isSome registry key scene
    rw [hslot, Option.isSome_none, Option.isSome_eq_false_iff, Option.isNone_iff_eq_none] at hnone
    rw [unregister, hnone]
    rfl
  registrations_unregister _ _ := registrations_unregister
  hasTransition_iff _ _ := hasTransition_iff

/-! ## Order of registration -/

/-- Both registries have the same registrations under the same keys. -/
structure Same (first second : Registry α) : Prop where
  get?_eq : ∀ key, Table.get? key first.heroes = Table.get? key second.heroes
  keys_eq : first.keys = second.keys

/-- The slot of a registration. -/
def slot (registration : Registration α) : String × ℤ :=
  (registration.key, registration.scene)

/-- A registry from a list is what registering one after the other makes. -/
theorem ofList_eq_after (registrations : List (Registration α)) :
    ofList registrations = after (registrations.map Change.register) := by
  rw [after, List.foldl_map]
  rfl

/-- When no two registrations have the same slot, each is in its own. -/
theorem find?_ofList {registrations : List (Registration α)}
    (h : (registrations.map slot).Nodup) {key : String} {scene : ℤ} {entry : Registration α} :
    (ofList registrations).find? key scene = some entry ↔
      entry ∈ registrations ∧ slot entry = (key, scene) := by
  induction registrations using List.reverseRecOn with
  | nil => simp [ofList, find?, registrations, empty, Table.empty, Table.get?, Entries.get?]
  | append_singleton before last ih =>
    have hlast : ofList (before ++ [last]) = register last (ofList before) := by
      rw [ofList, List.foldl_append]
      rfl
    rw [List.map_append, List.nodup_append] at h
    obtain ⟨hbefore, -, hnew⟩ := h
    rw [hlast, find?_register, List.mem_append, List.mem_singleton]
    split
    · rename_i hslot
      have hslot : slot last = (key, scene) := Prod.ext hslot.1 hslot.2
      rw [Option.some.injEq]
      constructor
      · rintro rfl
        exact ⟨.inr rfl, hslot⟩
      · rintro ⟨hentry | rfl, hother⟩
        · -- the slot of the last registration is that of no other
          exact absurd (hother.trans hslot.symm)
            (hnew _ (List.mem_map_of_mem hentry) _ (List.mem_singleton_self _))
        · rfl
    · rename_i hslot
      rw [ih hbefore]
      refine and_congr_left fun hentry => (or_iff_left ?_).symm
      rintro rfl
      exact hslot ⟨congrArg Prod.fst hentry, congrArg Prod.snd hentry⟩

/-- A registry is determined by what is in its slots. -/
theorem same_of_find?_eq {first second : Registry α} (h : first.find? = second.find?) :
    first.Same second := by
  have hregistrations (key : String) : first.registrations key = second.registrations key := by
    have hmem (entry : Registration α) :
        entry ∈ first.registrations key ↔ entry ∈ second.registrations key := by
      rw [mem_registrations, mem_registrations, h]
    -- both lists ascend strictly, so that having the same members makes them equal
    have hperm := (List.perm_ext_iff_of_nodup (first.ascending key).nodup
      (second.ascending key).nodup).mpr hmem
    refine hperm.eq_of_pairwise (fun a b _ _ hab hba => ?_) (first.ascending key)
      (second.ascending key)
    exact absurd hab (Int.not_lt.mpr hba.le)
  refine ⟨fun key => ?_, ?_⟩
  · rw [first.get?_heroes, second.get?_heroes, hregistrations]
  · refine first.keys_sorted.eq_of_mem_iff second.keys_sorted fun key => ?_
    rw [mem_keys, mem_keys, hregistrations]

/-- **A registry is a map** from keys and scenes to registrations, whatever has been registered and
removed. It does not matter in which order registrations are made that are all for different slots.
-/
theorem after_shows :
    (∀ changes : List (Change α), (after changes).Shows (slotsAfter changes)) ∧
      ∀ first second : List (Registration α), first.Perm second → (first.map slot).Nodup →
        (ofList first).Same (ofList second) := by
  refine ⟨fun changes => ?_, fun first second hperm hfirst => ?_⟩
  · rw [← find?_after]
    exact (after changes).shows
  · have hsecond : (second.map slot).Nodup := (hperm.map slot).nodup_iff.mp hfirst
    refine same_of_find?_eq ?_
    ext key scene entry
    rw [find?_ofList hfirst, find?_ofList hsecond, hperm.mem_iff]

/-- The same hero in one scene or another. -/
def logo (scene : ℤ) : Registration Float :=
  ⟨"logo", scene, ⟨0.0, 0.0, 10.0, 10.0⟩, 0.0, 1.0⟩

/-- A hero that is registered in three scenes and removed from the last still moves from the second
to that one. -/
theorem after_shows_logo :
    let changes : List (Change Float) := [.register (logo 2), .register (logo 0),
      .register (logo 1), .unregister "logo" 2]
    (after changes).find? "logo" 2 = none ∧ (after changes).hasTransition "logo" 2 ∧
      (ofList [logo 0, logo 1]).Same (ofList [logo 1, logo 0]) := by
  intro changes
  have hshows := after_shows.1 changes
  refine ⟨(hshows.find?_eq "logo" 2).trans rfl, ?_, ?_⟩
  · exact (hshows.hasTransition_iff "logo" 2).mpr ⟨⟨0, 1, by decide, rfl, rfl⟩, .inl rfl⟩
  · exact after_shows.2 _ _ (.swap _ _ _) (by decide)

end Montage.Registry
