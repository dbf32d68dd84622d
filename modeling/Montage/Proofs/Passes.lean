import Mathlib.Data.Int.Notation
import Montage.Proofs.Sync
import Montage.Proofs.Table

/-!
# Passes over tracks

What one pass comes to is decided by the references of a track alone (`Track.resolveSync_outcome`).
A track that names no anchor, or none that can be used, is left as it is; a strict pass stops at the
first anchor that cannot be used; and otherwise the track is placed, unless it would start before
frame 0 or stop before it starts.

A track that has been placed refers to nothing any more, so later passes leave it alone. A track
that was left as it was still refers to everything, and a later pass finds it as if none had been
before. This is what repeated passes come to (`Track.resolveSync_again`).
-/

namespace Montage

/-! ## Larger tables -/

namespace Sync

variable {anchors others : Table Anchor} {sync : Sync}

/-- What can be used in a table can be used in a larger one. -/
theorem Usable.extends (h : sync.Usable anchors) (hextends : others.Extends anchors) :
    sync.Usable others := by
  refine ⟨fun name hname hmissing => ?_, fun name hname => ?_⟩
  · obtain ⟨anchor, hanchor⟩ := Option.ne_none_iff_exists'.mp (h.1 name hname)
    rw [hextends name anchor hanchor] at hmissing
    cases hmissing
  · obtain ⟨anchor, hanchor, hends⟩ := h.2 name hname
    exact ⟨anchor, hextends name anchor hanchor, hends⟩

/-- The start reference stands for the same frame in a larger table, if it could be used before. -/
theorem Usable.startFrame?_eq (h : sync.Usable anchors) (hextends : others.Extends anchors) :
    sync.startFrame? others = sync.startFrame? anchors := by
  rcases hname : sync.startAnchor with _ | name
  · rw [startFrame?, startFrame?, hname]
    rfl
  · obtain ⟨anchor, hanchor⟩ := Option.ne_none_iff_exists'.mp (h.1 name hname)
    rw [startFrame?, startFrame?, hname]
    simp [hanchor, hextends name anchor hanchor]

/-- The end reference stands for the same frame in a larger table, if it could be used before. -/
theorem Usable.stopFrame?_eq (h : sync.Usable anchors) (hextends : others.Extends anchors) :
    sync.stopFrame? others = sync.stopFrame? anchors := by
  rcases hname : sync.endAnchor with _ | name
  · rw [stopFrame?, stopFrame?, hname]
    rfl
  · obtain ⟨anchor, hanchor, -⟩ := h.2 name hname
    rw [stopFrame?, stopFrame?, hname]
    simp [hanchor, hextends name anchor hanchor]

end Sync

/-! ## One pass -/

/-- A timing misplaces a track that is to start at a frame: that frame is before frame 0, or the end
reference stands for a frame before it. -/
def Sync.Misplaces (anchors : Table Anchor) (sync : Sync) (start : ℤ) : Prop :=
  start < 0 ∨ ∃ stop, sync.StopsAt anchors stop ∧ stop < start

namespace Track

variable {anchors others : Table Anchor} {strict again : Bool} {sync : Sync} {track placed : Track}

/-- The frame at which a track is to start: the one that its start reference stands for, or the one
that is authored where the reference cannot be used. -/
def StartsAt (anchors : Table Anchor) (sync : Sync) (track : Track) (start : ℤ) : Prop :=
  sync.StartsAt anchors start ∨ (¬∃ frame, sync.StartsAt anchors frame) ∧ track.start = start

/-- A track has been placed at a frame. It lasts to the frame of its end reference where that can be
used, refers to nothing any more, and is otherwise as it was. -/
structure PlacedAt (anchors : Table Anchor) (sync : Sync) (track own : Track) (start : ℤ) :
    Prop where
  start_eq : track.start = start
  lasts : ∀ stop, sync.StopsAt anchors stop →
    ∃ frames, track.duration = some frames ∧ start + frames = stop
  authored : (¬∃ stop, sync.StopsAt anchors stop) → track.duration = own.duration
  loops : track.loop = true ↔
    own.loop = true ∨ (∃ stop, sync.StopsAt anchors stop) ∧ sync.behavior = .loopToMatch
  kept : track =
    { own with start := track.start, duration := track.duration, loop := track.loop, sync := none }

/-- What a pass over a track comes to. -/
structure Outcome (anchors : Table Anchor) (strict : Bool) (track : Track)
    (result : Except Failure Track) : Prop where
  /-- A track that names no anchor is left as it is. -/
  unnamed : (∀ sync ∈ track.sync, sync.hasReference = false) → result = .ok track
  /-- A strict pass, and no other, stops at an anchor that cannot be used. -/
  unresolved : (∃ reference, result = .error (.unresolved reference)) ↔
    strict = true ∧ ∃ sync ∈ track.sync, ¬sync.Usable anchors
  /-- Otherwise a track none of whose anchors can be used is left as it is, -/
  unusable : ∀ sync ∈ track.sync, (strict = true → sync.Usable anchors) → sync.Unusable anchors →
    result = .ok track
  /-- and any other track is placed at the frame where it is to start, unless that misplaces it. -/
  usable : ∀ sync ∈ track.sync, (strict = true → sync.Usable anchors) → ¬sync.Unusable anchors →
    ∃ start, track.StartsAt anchors sync start ∧
      ((∃ cause, result = .error (.configuration cause)) ↔ sync.Misplaces anchors start) ∧
      (¬sync.Misplaces anchors start →
        ∃ placed, result = .ok placed ∧ placed.PlacedAt anchors sync track start)

/-- A track starts at the frame that its references give, or where it was. -/
theorem startsAt_startFrame : track.StartsAt anchors sync (track.startFrame anchors sync) := by
  rw [StartsAt, startFrame]
  cases hstart : sync.startFrame? anchors with
  | some frame => exact .inl (Sync.startFrame?_eq_some_iff.mp hstart)
  | none =>
    refine .inr ⟨?_, rfl⟩
    rintro ⟨frame, hframe⟩
    rw [Sync.startFrame?_eq_some_iff.mpr hframe] at hstart
    cases hstart

/-- A track is placed where it has been moved to. -/
theorem moved_placedAt (start : ℤ) :
    (track.moved sync start (sync.stopFrame? anchors)).PlacedAt anchors sync track start := by
  -- the frame at which the track stops is read in the three parts of the placement
  have hstops : ∀ stop, sync.StopsAt anchors stop ↔ sync.stopFrame? anchors = some stop :=
    fun _ => Sync.stopFrame?_eq_some_iff.symm
  refine ⟨rfl, ?_, ?_, ?_, rfl⟩
  · intro stop hstop
    rw [hstops] at hstop
    refine ⟨stop - start, ?_, by omega⟩
    rw [moved, hstop]
    rfl
  · intro hnone
    have hstop : sync.stopFrame? anchors = none := by
      rw [Option.eq_none_iff_forall_ne_some]
      exact fun stop hstop => hnone ⟨stop, (hstops stop).mpr hstop⟩
    rw [moved, hstop]
    rfl
  · simp only [hstops, ← Option.isSome_iff_exists]
    simp [moved]

/-- Placing a track fails just where the references misplace it. -/
theorem exists_place_eq_error_iff :
    (∃ cause, track.place sync (sync.startFrame? anchors) (sync.stopFrame? anchors) =
      .error (.configuration cause)) ↔ sync.Misplaces anchors (track.startFrame anchors sync) := by
  simp only [place_eq_error_iff, Sync.Misplaces, ← Sync.stopFrame?_eq_some_iff]
  constructor
  · rintro ⟨cause, ⟨hstart, -⟩ | ⟨-, stop, hstop, hspan, -⟩⟩
    · exact .inl hstart
    · exact .inr ⟨stop, hstop, hspan⟩
  · intro hmisplaced
    by_cases hstart : track.startFrame anchors sync < 0
    · exact ⟨_, .inl ⟨hstart, rfl⟩⟩
    · obtain ⟨stop, hstop, hspan⟩ := hmisplaced.resolve_left hstart
      exact ⟨_, .inr ⟨Int.not_lt.mp hstart, stop, hstop, hspan, rfl⟩⟩

/-- A track whose references do not misplace it is placed. -/
theorem exists_place_eq_ok (h : ¬sync.Misplaces anchors (track.startFrame anchors sync)) :
    ∃ placed, track.place sync (sync.startFrame? anchors) (sync.stopFrame? anchors) = .ok placed ∧
      placed.PlacedAt anchors sync track (track.startFrame anchors sync) := by
  obtain ⟨hstart, hstop⟩ := not_or.mp h
  refine ⟨_, place_of_ordered (Int.not_lt.mp hstart) fun stop hfound => ?_, moved_placedAt _⟩
  by_contra hspan
  exact hstop ⟨stop, Sync.stopFrame?_eq_some_iff.mp hfound, Int.not_le.mp hspan⟩

/-- A track that refers to nothing is left alone. -/
theorem resolveSync_of_no_sync (h : track.sync = none) :
    resolveSync anchors strict track = .ok track := by
  rw [resolveSync_eq, h]

/-- **A pass over a track** leaves it as it is, places it, or fails, as its references have it. -/
theorem resolveSync_outcome (anchors : Table Anchor) (strict : Bool) (track : Track) :
    track.Outcome anchors strict (resolveSync anchors strict track) where
  -- a reference without a name, or one that is not found, leaves the track where it is
  unnamed := by
    intro hunnamed
    rcases hsync : track.sync with _ | sync
    · exact resolveSync_of_no_sync hsync
    · obtain ⟨husable, hunusable⟩ := Sync.hasReference_eq_false_iff.mp (hunnamed sync hsync)
      exact resolveSync_of_unusable hsync (fun _ => husable) hunusable
  unresolved := by
    constructor
    · rintro ⟨reference, hfails⟩
      rw [resolveSync_eq_error_iff] at hfails
      cases hfails with
      | unusable hsync hstrict hname =>
        exact ⟨hstrict, _, hsync, Sync.exists_firstUnusable_iff.mp ⟨_, hname⟩⟩
    · rintro ⟨rfl, sync, hsync, husable⟩
      obtain ⟨name, hname⟩ := Sync.exists_firstUnusable_iff.mpr husable
      exact ⟨_, resolveSync_of_firstUnusable hsync hname⟩
  unusable := fun _ hsync hlisted hunusable => resolveSync_of_unusable hsync hlisted hunusable
  usable := by
    intro sync hsync hlisted husable
    rw [resolveSync_of_usable hsync hlisted husable]
    exact ⟨_, startsAt_startFrame, exists_place_eq_error_iff, exists_place_eq_ok⟩

/-! ## Repeated passes -/

/-- A pass leaves a track as it is or clears its references. -/
theorem eq_or_no_sync (h : resolveSync anchors strict track = .ok placed) :
    placed = track ∨ placed.sync = none := by
  rcases resolveSync_eq_ok h with ⟨rfl, -⟩ | ⟨sync, hplace⟩
  · exact .inl rfl
  · obtain ⟨-, -, rfl⟩ := place_eq_ok_iff.mp hplace
    exact .inr rfl

/-- A pass changes a track only if it can use one of its anchors. -/
theorem exists_sync_of_changed (h : resolveSync anchors strict track = .ok placed)
    (hchanged : placed ≠ track) : ∃ sync ∈ track.sync, ¬sync.Unusable anchors := by
  rcases hsync : track.sync with _ | sync
  · rw [resolveSync_of_no_sync hsync] at h
    exact absurd (Except.ok.inj h).symm hchanged
  · refine ⟨sync, rfl, fun hunusable => hchanged ?_⟩
    have hlisted : strict = true → sync.Usable anchors := by
      rintro rfl
      exact usable_of_strict hsync h
    rw [resolveSync_of_unusable hsync hlisted hunusable] at h
    exact (Except.ok.inj h).symm

/-- A track all of whose anchors can be used is placed alike in a larger table. -/
theorem resolveSync_of_extends (hsync : track.sync = some sync) (husable : sync.Usable anchors)
    (hplaced : ¬sync.Unusable anchors) (hextends : others.Extends anchors) :
    resolveSync others again track = resolveSync anchors strict track := by
  have hstill : ¬sync.Unusable others := by
    rw [Sync.unusable_iff] at hplaced ⊢
    rwa [husable.startFrame?_eq hextends, husable.stopFrame?_eq hextends]
  rw [resolveSync_of_usable hsync (fun _ => husable) hplaced,
    resolveSync_of_usable hsync (fun _ => husable.extends hextends) hstill,
    husable.startFrame?_eq hextends, husable.stopFrame?_eq hextends]

/-- A second pass over the same table changes nothing. -/
theorem resolveSync_resolved (h : resolveSync anchors strict track = .ok placed) :
    resolveSync anchors strict placed = .ok placed := by
  rcases eq_or_no_sync h with rfl | hnone
  · exact h
  · exact resolveSync_of_no_sync hnone

/-- The same holds of all tracks together. -/
theorem resolveAll_resolved {tracks others : List Track}
    (h : resolveAll anchors strict tracks = .ok others) :
    resolveAll anchors strict others = .ok others := by
  rw [resolveAll_eq, mapM_eq_ok_iff] at h ⊢
  rw [List.forall₂_same]
  intro placed hplaced
  obtain ⟨track, -, hof⟩ := exists_mem_of_forall₂ h hplaced
  exact resolveSync_resolved hof

/-- **Repeated passes.** A second pass over the same table changes nothing, and after a pass that
changed a track no pass does. A pass over a larger table comes to the same with and without the pass
before, provided that this one could use none of the anchors of the track or all of them. -/
theorem resolveSync_again (h : resolveSync anchors strict track = .ok placed) :
    resolveSync anchors strict placed = .ok placed ∧
      (placed ≠ track → ∀ others again, resolveSync others again placed = .ok placed) ∧
      ∀ others again, others.Extends anchors →
        (∀ sync ∈ track.sync, sync.Unusable anchors ∨ sync.Usable anchors) →
        resolveSync others again placed = resolveSync others again track := by
  have hsettled : placed ≠ track → ∀ others again, resolveSync others again placed = .ok placed :=
    fun hchanged _ _ => resolveSync_of_no_sync ((eq_or_no_sync h).resolve_left hchanged)
  refine ⟨resolveSync_resolved h, hsettled, fun others again hextends hall => ?_⟩
  by_cases hsame : placed = track
  · rw [hsame]
  · -- the first pass has placed the track, so it could use all of its anchors
    obtain ⟨sync, hsync, husable⟩ := exists_sync_of_changed h hsame
    have hall := (hall sync hsync).resolve_left husable
    rw [hsettled hsame, resolveSync_of_extends hsync hall husable hextends]
    exact h.symm

/-- A track from five frames after one anchor to the end of another. -/
def bridge : Track :=
  ⟨none, ⟨.file, "bridge.wav"⟩, 10, none, 0, none, 1.0, 0, 0, false,
    some ⟨some "verse", some "chorus", 5, 0, .loopToMatch⟩⟩

/-- A table with both anchors of the track. -/
def chart : Table Anchor := .ofEntries [("verse", ⟨30, none⟩), ("chorus", ⟨60, some 90⟩)]

/-- Both anchors are there, so the track stays where the first pass has put it, and a larger table
puts it there as well. -/
theorem resolveSync_again_bridge : ∃ placed, resolveSync chart false bridge = .ok placed ∧
    (placed.start, placed.duration, placed.loop) = (35, some 55, true) ∧
      resolveSync .empty true placed = .ok placed ∧
        resolveSync (Table.insert "coda" ⟨120, none⟩ chart) false placed =
          resolveSync (Table.insert "coda" ⟨120, none⟩ chart) false bridge := by
  obtain ⟨placed, hplaced, hframes⟩ : ∃ placed, resolveSync chart false bridge = .ok placed ∧
      (placed.start, placed.duration, placed.loop) = (35, some 55, true) := ⟨_, rfl, rfl⟩
  have hchanged : placed ≠ bridge := by
    rintro rfl
    cases hframes
  have hall : ∀ sync ∈ bridge.sync, sync.Unusable chart ∨ sync.Usable chart := by
    rintro sync ⟨⟩
    exact .inr (Sync.unusable_eq_nil_iff.mp rfl)
  obtain ⟨-, hsettled, hlarger⟩ := resolveSync_again hplaced
  exact ⟨placed, hplaced, hframes, hsettled hchanged _ _,
    hlarger _ _ (Table.insert_extends rfl _) hall⟩

/-- An anchor that comes after the track has been placed without it is not used any more. -/
example : (do resolveSync chart false (← resolveSync (Table.erase "chorus" chart) false bridge)).toOption.map
    duration = some none :=
  rfl

end Track

end Montage
