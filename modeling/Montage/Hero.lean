import Montage.Place
import Montage.Report
import Montage.Table

/-!
# Heroes

A hero is an element that appears under the same key in several scenes, and moves from its place in
one scene to its place in the next. A `Registry` has the registrations of each hero under its key,
by ascending scene and at most one for each scene. It is made from an empty one by
`Registry.register` and `Registry.unregister`, which drops a key with its last registration.
`Registry.transition?` is the hero on its way between two scenes.
-/

namespace Montage

variable {α : Type}

/-- A hero on its way between two scenes. -/
structure HeroFrame (α : Type) where
  key : String
  fromScene : Int
  toScene : Int
  progress : α
  bounds : Rect α
  rotation : α
  scale : α
deriving Repr, DecidableEq

/-- What is kept under a key: registrations for it by ascending scene, and at least one. -/
structure Registry.Kept (key : String) (entries : List (Registration α)) : Prop where
  nonempty : entries ≠ []
  key_eq : ∀ entry ∈ entries, entry.key = key
  ascending : Ascending entries

/-- The registrations of heroes under their keys. -/
structure Registry (α : Type) where
  heroes : Table (List (Registration α))
  kept : ∀ hero ∈ heroes, Registry.Kept hero.1 hero.2

namespace Registry

/-! ## Reading -/

section Reading

variable (registry : Registry α) (key : String)

/-- The keys that have a registration, ascending. -/
def keys : List String :=
  registry.heroes.entries.names.mergeSort fun first second => !(second < first)

/-- The registrations of a hero, by ascending scene. -/
def registrations : List (Registration α) :=
  (Table.get? key registry.heroes).getD []

/-- The registration of a hero in a scene. -/
def find? (scene : Int) : Option (Registration α) :=
  (registry.registrations key).find? fun entry => entry.scene = scene

/-- There is a registration for a hero in a scene. -/
def has (scene : Int) : Bool :=
  (registry.registrations key).any fun entry => entry.scene = scene

/-- A hero with two registrations or more has one in the scene before or after a scene. -/
def hasTransition (scene : Int) : Bool :=
  let entries := registry.registrations key
  2 ≤ entries.length && entries.any fun entry => entry.scene = scene - 1 || entry.scene = scene + 1

/-- A key without registrations is not there. -/
theorem get?_heroes : Table.get? key registry.heroes =
    if registry.registrations key = [] then none else some (registry.registrations key) := by
  rw [registrations]
  cases hentries : Table.get? key registry.heroes with
  | none => rfl
  | some entries =>
    exact (if_neg (registry.kept _ (Table.mem_of_get? hentries)).nonempty).symm

theorem kept_registrations (h : registry.registrations key ≠ []) :
    Kept key (registry.registrations key) :=
  registry.kept (key, _) (Table.mem_of_get? (by rw [get?_heroes, if_neg h]))

/-- Whatever is read from a registry ascends by scene, also where there is nothing. -/
theorem ascending : Ascending (registry.registrations key) := by
  by_cases h : registry.registrations key = []
  · rw [h]
    exact .nil
  · exact (registry.kept_registrations key h).ascending

theorem key_eq {entry : Registration α} (h : entry ∈ registry.registrations key) :
    entry.key = key :=
  (registry.kept_registrations key (List.ne_nil_of_mem h)).key_eq entry h

/-- A registration may be placed among those that are kept under its key. -/
theorem place_kept (registration : Registration α) :
    Kept registration.key (place registration (registry.registrations registration.key)) := by
  have hascending := registry.ascending registration.key
  refine ⟨?_, fun entry hentry => ?_, place_ascending hascending registration⟩
  · exact List.ne_nil_of_mem ((mem_place hascending registration).mpr (.inl rfl))
  · rcases (mem_place hascending registration).mp hentry with rfl | ⟨hentry, -⟩
    · rfl
    · exact registry.key_eq _ hentry

theorem filter_kept (p : Registration α → Bool)
    (h : (registry.registrations key).filter p ≠ []) :
    Kept key ((registry.registrations key).filter p) :=
  ⟨h, fun _ hentry => registry.key_eq key (List.mem_filter.mp hentry).1,
    (registry.ascending key).filter p⟩

end Reading

/-! ## Changes -/

def empty : Registry α where
  heroes := .empty
  kept hero hhero := absurd hhero (Table.not_mem_empty hero)

/-- The registry with other registrations under a key. -/
def keep (key : String) (entries : List (Registration α)) (h : Kept key entries)
    (registry : Registry α) : Registry α where
  heroes := Table.insert key entries registry.heroes
  kept := by
    intro hero hhero
    rcases Table.mem_insert hhero with rfl | hhero
    · exact h
    · exact registry.kept hero hhero

/-- The registry without a key. -/
def drop (key : String) (registry : Registry α) : Registry α where
  heroes := Table.erase key registry.heroes
  kept hero hhero := registry.kept hero (List.mem_filter.mp hhero).1

/-- The registry with a registration, in place of any for the same hero in the same scene. -/
def register (registration : Registration α) (registry : Registry α) : Registry α :=
  registry.keep registration.key (place registration (registry.registrations registration.key))
    (registry.place_kept registration)

/-- The registry of a list of registrations, the later ones in place of earlier ones. -/
def ofList (registrations : List (Registration α)) : Registry α :=
  registrations.foldl (fun registry registration => register registration registry) empty

/-- The registry without the registration for a hero in a scene, or nothing when there is none. A
hero without registrations has no key. -/
def unregister? (registry : Registry α) (key : String) (scene : Int) : Option (Registry α) :=
  let entries := registry.registrations key
  let remaining := entries.filter fun entry => entry.scene ≠ scene
  if remaining.length = entries.length then none
  else if h : remaining = [] then some (registry.drop key)
  else some (registry.keep key remaining (registry.filter_kept key _ h))

/-- The registry without the registration for a hero in a scene, if there is any. -/
def unregister (registry : Registry α) (key : String) (scene : Int) : Registry α :=
  (registry.unregister? key scene).getD registry

/-! ## Transitions -/

section Transitions

variable [Scalar α] (registry : Registry α) (key : String) (fromScene toScene : Int) (progress : α)

/-- The hero at a progress from its place in one scene to that in another, if it has at least two
registrations and both scenes have one. -/
def transition? : Except Failure (Option (HeroFrame α)) :=
  if (registry.registrations key).length < 2 then .ok none
  else
    match registry.find? key fromScene, registry.find? key toScene with
    | some source, some target =>
      let t := Scalar.clampUnit progress
      (source.bounds.lerp target.bounds t).map fun bounds => some {
        key := key
        fromScene := fromScene
        toScene := toScene
        progress := t
        bounds := bounds
        rotation := Scalar.mix source.rotation target.rotation t
        scale := Scalar.mix source.scale target.scale t }
    | _, _ => .ok none

/-- The hero at a progress between two scenes, which has to be there. -/
def transition : Except Failure (HeroFrame α) := do
  match ← registry.transition? key fromScene toScene progress with
  | some frame => return frame
  | none => throw (.unresolved (.hero key fromScene toScene))

end Transitions

/-! ## Reports -/

/-- A note that a registration takes the place of another one. -/
def registerNotes (registry : Registry α) (registration : Registration α) : List Log.Entry :=
  if registry.has registration.key registration.scene then
    [⟨.debug, Log.hero, s!"Replacing hero '{registration.key}' in scene {registration.scene}"⟩]
  else []

def reportList (registrations : List (Registration α)) : Report (Registry α) :=
  registrations.foldlM (fun registry registration => do
    Report.tell (registerNotes registry registration)
    return register registration registry) empty

end Registry

end Montage
