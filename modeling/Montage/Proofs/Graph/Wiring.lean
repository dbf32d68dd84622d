import Montage.Proofs.Graph.Layout

/-!
# How a compiled graph is wired

Stage by stage, the invariant of a compilation is `Pending`: the stages so far are linear, and the
labels that are still to be read are known. It is carried along with a bound on the numbers that
have been handed out (`Numbered`), which makes the next label a new one. Over the clips the only
label to be read is that of the picture (`overlayStages_pending`); the sounds add one label each
(`chainStages_pending`), which the mix reads again.

So the labels of a layout never collide, and a compilation fails for no other reason than filters
that cannot be computed (`compile_eq_ok_iff`).
-/

namespace Montage

open Ledger Layout

/-! ## Labels that are still to be read -/

/-- The stages are linear, and the given labels are those that no stage has read. -/
structure Pending (stages : List Stage) (labels : List String) : Prop where
  linear : Linear stages
  mem_iff : ∀ label, label ∈ labels ↔
    label ∈ stages.map Stage.output ∧ label ∉ fed (stages.flatMap Stage.inputs)

theorem Pending.nil : Pending [] [] :=
  ⟨⟨by simp, by simp, by simp⟩, by simp⟩

/-- What is read from other stages has been written by one. -/
theorem Linear.mem_outputs_of_fed {stages : List Stage} (h : Linear stages) {label : String}
    (hlabel : label ∈ fed (stages.flatMap Stage.inputs)) : label ∈ stages.map Stage.output := by
  obtain ⟨hread, hpad⟩ := mem_fed.mp hlabel
  obtain ⟨stage, hstage, hread⟩ := List.mem_flatMap.mp hread
  obtain ⟨i, hi⟩ := List.mem_iff_getElem?.mp hstage
  obtain ⟨writer, hwriter, hout⟩ := List.mem_map.mp (h.read_later i stage hi label hread hpad)
  exact List.mem_map.mpr ⟨writer, List.mem_of_mem_take hwriter, hout⟩

/-- A stage that writes a new label may read any labels that are still to be read. -/
theorem Pending.concat {stages : List Stage} {labels : List String} (h : Pending stages labels)
    {stage : Stage} {rest : List String} (hfresh : stage.output ∉ stages.map Stage.output)
    (hread : ∀ label ∈ fed stage.inputs, label ∈ labels) (hnodup : (fed stage.inputs).Nodup)
    (hrest : ∀ label, label ∈ rest ↔
      label = stage.output ∨ label ∈ labels ∧ label ∉ fed stage.inputs) :
    Pending (stages ++ [stage]) rest := by
  refine ⟨(linear_concat_iff stages stage).mpr ⟨h.linear, hfresh,
    fun label hlabel => (h.mem_iff label).mp (hread label hlabel), hnodup⟩, fun label => ?_⟩
  rw [hrest, h.mem_iff, List.map_append, List.mem_append, List.flatMap_append, fed_append,
    List.mem_append, List.map_singleton, List.mem_singleton, List.flatMap_singleton, not_or]
  constructor
  · -- what is read has been written before, so the new label has not been read
    rintro (rfl | ⟨⟨hout, hunread⟩, hkept⟩)
    · exact ⟨.inr rfl, fun hfed => hfresh (h.linear.mem_outputs_of_fed hfed),
        fun hfed => hfresh ((h.mem_iff _).mp (hread _ hfed)).1⟩
    · exact ⟨.inl hout, hunread, hkept⟩
  · rintro ⟨hout | hout, hunread, hkept⟩
    · exact .inr ⟨⟨hout, hunread⟩, hkept⟩
    · exact .inl hout

/-! ## Labels that have been handed out -/

/-- Apart from that of a picture without clips, all labels have numbers below a bound. -/
def Numbered (stages : List Stage) (count : ℕ) : Prop :=
  ∀ label ∈ stages.map Stage.output,
    label = Graph.videoLabel ∨ ∃ number < count, serial? label = some number

theorem Numbered.nil : Numbered [] 0 := by
  simp [Numbered]

/-- One more stage keeps the labels numbered, if its own number is the next. -/
theorem Numbered.concat {stages : List Stage} {count : ℕ} (h : Numbered stages count)
    {stage : Stage} (hserial : serial? stage.output = some count) :
    Numbered (stages ++ [stage]) (count + 1) := by
  intro label hlabel
  rw [List.map_append, List.mem_append, List.map_singleton, List.mem_singleton] at hlabel
  rcases hlabel with hlabel | rfl
  · rcases h label hlabel with hvideo | ⟨number, hlt, hnumber⟩
    · exact .inl hvideo
    · exact .inr ⟨number, Nat.lt_succ_of_lt hlt, hnumber⟩
  · exact .inr ⟨count, Nat.lt_succ_self count, hserial⟩

/-- A label with the next number is a new one. -/
theorem Numbered.not_mem {stages : List Stage} {count : ℕ} (h : Numbered stages count)
    {label : String} (hserial : serial? label = some count) :
    label ∉ stages.map Stage.output := by
  intro hlabel
  rcases h label hlabel with rfl | ⟨number, hlt, hnumber⟩
  · revert hserial
    simp [show serial? Graph.videoLabel = none by decide +kernel]
  · rw [hserial, Option.some.injEq] at hnumber
    omega

/-- The label of the finished sound has no number and is a new one. -/
theorem Numbered.audioLabel_not_mem {stages : List Stage} {count : ℕ} (h : Numbered stages count) :
    Graph.audioLabel ∉ stages.map Stage.output := by
  intro hlabel
  have hnone : serial? Graph.audioLabel = none := by decide +kernel
  rcases h _ hlabel with hvideo | ⟨number, -, hnumber⟩
  · revert hvideo
    decide
  · rw [hnone] at hnumber
    simp at hnumber

/-! ### The labels of a layout -/

/-- The pictures that are laid take the even numbers. -/
theorem serial?_pictureLabel (count : ℕ) :
    serial? (Timeline.pictureLabel count) = some (2 * count) := by
  rw [Timeline.pictureLabel]
  split
  · rename_i hzero
    subst hzero
    decide +kernel
  · exact serial?_append (2 * count) (by decide +kernel)

/-- The pictures that are prepared take the odd numbers. -/
theorem serial?_preparedLabel (before : ℕ) :
    serial? (preparedLabel before) = some (2 * before + 1) :=
  serial?_append (2 * before + 1) (by decide +kernel)

@[simp] theorem isPad_pictureLabel (count : ℕ) : isPad (Timeline.pictureLabel count) = false := by
  rw [Timeline.pictureLabel]
  split
  · decide +kernel
  · exact isPad_append _ rfl (by decide)

@[simp] theorem isPad_preparedLabel (before : ℕ) : isPad (preparedLabel before) = false :=
  isPad_append _ rfl (by decide)

/-- A sound is read from a pad and has one of the two stems. -/
structure HeardSound.Proper (heard : HeardSound) : Prop where
  pad : isPad heard.pad = true
  stem : heard.stem = "a_embed" ∨ heard.stem = "a_track"

/-! ## Stage by stage -/

/-- A stage that only reads pads leaves its own label to be read. -/
theorem Pending.concat_source {stages : List Stage} {labels : List String}
    (h : Pending stages labels) {stage : Stage} (hfresh : stage.output ∉ stages.map Stage.output)
    (hpads : fed stage.inputs = []) : Pending (stages ++ [stage]) (labels ++ [stage.output]) := by
  refine h.concat hfresh (by simp [hpads]) (by simp [hpads]) fun label => ?_
  rw [List.mem_append, List.mem_singleton, hpads]
  simp [or_comm]

/-- One clip is prepared and laid over the picture, and only the new picture is left to be read. -/
theorem Pending.concat_clip {stages : List Stage} {before : ℕ}
    (h : Pending stages [Timeline.pictureLabel before]) (hnumber : Numbered stages (2 * before + 1))
    (laid : LaidClip) :
    Pending (stages ++ [preparedStage before laid] ++ [overlaidStage before laid])
        [Timeline.pictureLabel (before + 1)] ∧
      Numbered (stages ++ [preparedStage before laid] ++ [overlaidStage before laid])
        (2 * (before + 1) + 1) := by
  have hprepared : Numbered (stages ++ [preparedStage before laid]) (2 * before + 2) :=
    hnumber.concat (serial?_preparedLabel before)
  have hpending : Pending (stages ++ [preparedStage before laid])
      [Timeline.pictureLabel before, preparedLabel before] :=
    h.concat_source (hnumber.not_mem (serial?_preparedLabel before))
      (fed_cons_of_pad (isPad_videoPad _) [])
  -- one of the two has an even number and the other an odd one
  have hne : Timeline.pictureLabel before ≠ preparedLabel before := fun heq => by
    have hserial := serial?_pictureLabel before
    rw [heq, serial?_preparedLabel, Option.some.injEq] at hserial
    omega
  have hfed : fed (overlaidStage before laid).inputs =
      [Timeline.pictureLabel before, preparedLabel before] := by
    simp [overlaidStage, fed]
  refine ⟨hpending.concat (hprepared.not_mem (serial?_pictureLabel (before + 1))) ?_ ?_ ?_,
    hprepared.concat (serial?_pictureLabel (before + 1))⟩
  · rw [hfed]
    exact fun _ hlabel => hlabel
  · rw [hfed]
    simp [hne]
  · intro label
    rw [hfed, List.mem_singleton]
    exact ⟨.inl, fun h => h.elim id fun h => absurd h.1 h.2⟩

/-- Clips are laid over the picture one after the other, and only its label is left to be read. -/
theorem overlayStages_pending (laid : List LaidClip) {before : ℕ} {done : List Stage}
    (h : Pending done [Timeline.pictureLabel before]) (hnumber : Numbered done (2 * before + 1)) :
    Pending (done ++ overlayStages before laid) [Timeline.pictureLabel (before + laid.length)] ∧
      Numbered (done ++ overlayStages before laid) (2 * (before + laid.length) + 1) := by
  induction laid generalizing before done with
  | nil => simpa [overlayStages] using ⟨h, hnumber⟩
  | cons clip rest ih =>
    obtain ⟨hclip, hclipNumber⟩ := h.concat_clip hnumber clip
    have hrest := ih hclip hclipNumber
    rw [List.append_assoc, List.append_assoc] at hrest
    rw [overlayStages, List.length_cons, Nat.add_comm rest.length 1, ← Nat.add_assoc]
    exact hrest

/-- The label of one of several sounds ends in its number and is no pad. -/
theorem HeardSound.Proper.label {heard : HeardSound} (h : heard.Proper) (number : ℕ) :
    serial? (chainStage number heard).output = some number ∧
      isPad (chainStage number heard).output = false := by
  rw [chainStage]
  refine ⟨serial?_append number (by simp), ?_⟩
  rcases h.stem with hstem | hstem <;> rw [hstem]
  · exact @isPad_append ("a_embed" ++ "_") 'a' _ _ rfl (by decide)
  · exact @isPad_append ("a_track" ++ "_") 'a' _ _ rfl (by decide)

/-- Each of several sounds adds its label to those that are left to be read. -/
theorem chainStages_pending (sounds : List HeardSound) (hproper : ∀ heard ∈ sounds, heard.Proper)
    {number : ℕ} {done : List Stage} {labels : List String} (h : Pending done labels)
    (hnumber : Numbered done number) :
    Pending (done ++ chainStages number sounds)
        (labels ++ (chainStages number sounds).map Stage.output) ∧
      Numbered (done ++ chainStages number sounds) (number + sounds.length) := by
  -- each chain reads a pad, so it leaves what is pending and adds its own label
  induction sounds generalizing number done labels with
  | nil => simpa [chainStages] using ⟨h, hnumber⟩
  | cons heard rest ih =>
    obtain ⟨hheard, hproper⟩ := List.forall_mem_cons.mp hproper
    obtain ⟨hserial, -⟩ := hheard.label number
    have hfirst : Pending (done ++ [chainStage number heard])
        (labels ++ [(chainStage number heard).output]) :=
      h.concat_source (hnumber.not_mem hserial) (fed_cons_of_pad hheard.pad [])
    have hrest := ih hproper hfirst (hnumber.concat hserial)
    rw [List.append_assoc, List.append_assoc] at hrest
    rw [chainStages, List.map_cons, List.length_cons, Nat.add_comm rest.length 1,
      ← Nat.add_assoc]
    exact hrest

/-- The chains put out labels, and no pads. -/
theorem isPad_of_mem_chainStages {sounds : List HeardSound}
    (hproper : ∀ heard ∈ sounds, heard.Proper) {number : ℕ} {label : String}
    (hlabel : label ∈ (chainStages number sounds).map Stage.output) : isPad label = false := by
  induction sounds generalizing number with
  | nil => simp [chainStages] at hlabel
  | cons heard rest ih =>
    obtain ⟨hheard, hproper⟩ := List.forall_mem_cons.mp hproper
    rw [chainStages, List.map_cons, List.mem_cons] at hlabel
    rcases hlabel with rfl | hlabel
    · exact (hheard.label number).2
    · exact ih hproper hlabel

/-- The mix reads the labels of all sounds, and leaves its own to be read. -/
theorem Pending.concat_mix {stages : List Stage} {labels sounds : List String}
    (h : Pending stages (labels ++ sounds)) (hpads : ∀ label ∈ sounds, isPad label = false)
    (hnodup : (labels ++ sounds).Nodup) (hfresh : Graph.audioLabel ∉ stages.map Stage.output) :
    Pending (stages ++ [.mix sounds]) (labels ++ [Graph.audioLabel]) := by
  have hfed : fed sounds = sounds := List.filter_eq_self.mpr fun label hlabel => by
    simp [hpads label hlabel]
  -- the mix reads all sounds and nothing else, so the other labels stay pending
  obtain ⟨-, hsounds, hdisjoint⟩ := List.nodup_append'.mp hnodup
  refine h.concat hfresh ?_ ?_ fun label => ?_
  · rw [Stage.mix, hfed]
    exact fun label hlabel => List.mem_append_right _ hlabel
  · rw [Stage.mix, hfed]
    exact hsounds
  · rw [Stage.mix, hfed, List.mem_append, List.mem_append, List.mem_singleton]
    constructor
    · rintro (hlabel | hlabel)
      · exact .inr ⟨.inl hlabel, fun hsound => hdisjoint hlabel hsound⟩
      · exact .inl hlabel
    · rintro (hlabel | ⟨hlabel | hlabel, hread⟩)
      · exact .inr hlabel
      · exact .inl hlabel
      · exact absurd hlabel hread

/-- All sounds together leave one label to be read, or none when there are none. -/
theorem soundStages_pending (sounds : List HeardSound) (hproper : ∀ heard ∈ sounds, heard.Proper)
    {number : ℕ} {done : List Stage} {label : String} (h : Pending done [label])
    (hnumber : Numbered done number) :
    Pending (done ++ soundStages number sounds)
      (label :: if sounds.isEmpty then [] else [Graph.audioLabel]) := by
  match sounds, hproper with
  | [], _ => simpa [soundStages] using h
  | [heard], hproper =>
    exact h.concat_source hnumber.audioLabel_not_mem
      (fed_cons_of_pad (hproper heard (by simp)).pad [])
  | first :: second :: rest, hproper =>
    obtain ⟨hchains, hchainsNumber⟩ := chainStages_pending _ hproper h hnumber
    -- the labels of the sounds are new, so they differ from the label of the picture too
    have hnodup := hchains.linear.outputs_nodup
    rw [List.map_append, List.nodup_append'] at hnodup
    obtain ⟨-, hsounds, hdisjoint⟩ := hnodup
    have hlabel : label ∈ done.map Stage.output := ((h.mem_iff label).mp (by simp)).1
    rw [soundStages_cons_cons, ← List.append_assoc]
    exact hchains.concat_mix (fun _ => isPad_of_mem_chainStages hproper)
      (List.nodup_cons.mpr ⟨fun hsound => hdisjoint hlabel hsound, hsounds⟩)
      hchainsNumber.audioLabel_not_mem

/-! ## Whole layouts -/

namespace Timeline

variable (timeline : Timeline) (encoding : Encoding)

/-- The frames leave the picture to be read: the first of a series of labels when clips follow, and
the label of the finished picture otherwise. -/
theorem frameStage_pending (fps : ℤ) (pixelFormat : String) (covered : Bool) :
    Pending [frameStage fps pixelFormat covered]
        [if covered then pictureLabel 0 else Graph.videoLabel] ∧
      Numbered [frameStage fps pixelFormat covered] (if covered then 1 else 0) := by
  refine ⟨Pending.nil.concat_source (by simp) (fed_cons_of_pad (isPad_videoPad 0) []), ?_⟩
  cases covered
  · simp [Numbered, frameStage]
  · exact Numbered.nil.concat (serial?_pictureLabel 0)

/-- The label of the picture is the only one that is left to be read before the sounds. -/
theorem picture_pending (laid : List LaidClip) :
    Pending (frameStage timeline.fps encoding.pixelFormat (!laid.isEmpty) :: overlayStages 0 laid)
        [if laid.isEmpty then Graph.videoLabel else pictureLabel laid.length] ∧
      Numbered (frameStage timeline.fps encoding.pixelFormat (!laid.isEmpty) ::
        overlayStages 0 laid) (if laid.isEmpty then 0 else 2 * laid.length + 1) := by
  obtain ⟨hframes, hnumber⟩ :=
    frameStage_pending timeline.fps encoding.pixelFormat (!laid.isEmpty)
  cases laid with
  | nil => exact ⟨hframes, hnumber⟩
  | cons first rest =>
    have hlaid := @overlayStages_pending (first :: rest) 0 _ hframes hnumber
    rw [Nat.zero_add] at hlaid
    exact hlaid

/-- **The stages of a layout are linear, and leave the labels of the finished picture and sound.** -/
theorem layout_pending (laid : List LaidClip) {heard : List HeardSound}
    (hproper : ∀ sound ∈ heard, sound.Proper) :
    Pending (timeline.layout encoding laid heard)
      ((if laid.isEmpty then Graph.videoLabel else pictureLabel laid.length) ::
        if heard.isEmpty then [] else [Graph.audioLabel]) := by
  obtain ⟨hpicture, hnumber⟩ := timeline.picture_pending encoding laid
  exact soundStages_pending heard hproper hpicture hnumber

/-! ## Compilation -/

/-- All sounds of a timeline are read from pads. -/
theorem proper_of_sounds {heard : List HeardSound}
    (h : List.Forall₂ HeardSound.Of (timeline.sounds encoding) heard) :
    ∀ sound ∈ heard, sound.Proper := by
  intro sound hsound
  obtain ⟨source, hsource, hpad, hstem, -⟩ := exists_mem_of_forall₂ h hsound
  rw [Timeline.sounds, List.mem_append, List.mem_map, List.mem_map] at hsource
  rcases hsource with ⟨⟨clip, input⟩, -, rfl⟩ | ⟨⟨track, input⟩, -, rfl⟩
  · exact ⟨hpad ▸ isPad_audioPad input, .inl hstem⟩
  · exact ⟨hpad ▸ isPad_audioPad input, .inr hstem⟩

/-- The picture is put out under the label of the last overlay. -/
theorem videoOut_eq {laid : List LaidClip}
    (h : List.Forall₂ (LaidClip.Of timeline.fps) (timeline.overlays encoding) laid) :
    timeline.videoOut encoding =
      if laid.isEmpty then Graph.videoLabel else pictureLabel laid.length := by
  rw [videoOut, h.length_eq]
  cases laid <;> rfl

/-- There is an audio output when something is heard. -/
theorem audioOut_eq {heard : List HeardSound}
    (h : List.Forall₂ HeardSound.Of (timeline.sounds encoding) heard) :
    timeline.audioOut encoding = if heard.isEmpty then none else some Graph.audioLabel := by
  rw [audioOut]
  generalize timeline.sounds encoding = sounds at h ⊢
  cases h <;> rfl

/-- The labels that are left to be read are the ones that are delivered. -/
theorem layout_delivered {laid : List LaidClip} {heard : List HeardSound}
    (hlaid : List.Forall₂ (LaidClip.Of timeline.fps) (timeline.overlays encoding) laid)
    (hheard : List.Forall₂ HeardSound.Of (timeline.sounds encoding) heard) :
    Pending (timeline.layout encoding laid heard)
      (timeline.videoOut encoding :: (timeline.audioOut encoding).toList) := by
  have hpending :=
    timeline.layout_pending encoding laid (timeline.proper_of_sounds encoding hheard)
  rw [timeline.videoOut_eq encoding hlaid, timeline.audioOut_eq encoding hheard]
  cases heard <;> exact hpending

/-- The ledger of pending labels has nothing left over when these labels are delivered. -/
theorem checkDangling_of_pending {stages : List Stage} {labels : List String}
    (h : Pending stages labels) : (Ledger.ofStages stages).checkDangling labels = .ok () := by
  rw [Ledger.checkDangling_eq_ok_iff]
  intro label hlabel
  by_cases hread : label ∈ fed (stages.flatMap Stage.inputs)
  · exact .inl (List.mem_reverse.mpr hread)
  · exact .inr ((h.mem_iff label).mpr ⟨List.mem_reverse.mp hlabel, hread⟩)

/-- When all filters can be computed, the graph is built: the labels are never in the way. -/
theorem build_eq_ok {laid : List LaidClip} {heard : List HeardSound}
    (hlaid : List.Forall₂ (LaidClip.Of timeline.fps) (timeline.overlays encoding) laid)
    (hheard : List.Forall₂ HeardSound.Of (timeline.sounds encoding) heard) :
    (timeline.build encoding).2 = .ok ⟨timeline.inputs encoding,
      timeline.layout encoding laid heard, timeline.videoOut encoding,
      timeline.audioOut encoding⟩ := by
  have hpending := timeline.layout_delivered encoding hlaid hheard
  have hyields := (timeline.steps_yield_iff encoding _).mpr ⟨laid, heard, hlaid, hheard, rfl⟩
  obtain ⟨labels, hrun⟩ := Workbench.run_of_yields hyields Workbench.empty
  rw [(Workbench.addAll_empty_iff _ _).mpr ⟨hpending.linear, rfl⟩] at hrun
  rw [build_eq, hrun]
  dsimp only
  rw [checkDangling_of_pending hpending]
  rfl

/-- A graph is built exactly when all filters can be computed, and it is then a layout of them. -/
theorem build_eq_ok_iff (graph : Graph) :
    (timeline.build encoding).2 = .ok graph ↔
      ∃ laid heard, List.Forall₂ (LaidClip.Of timeline.fps) (timeline.overlays encoding) laid ∧
        List.Forall₂ HeardSound.Of (timeline.sounds encoding) heard ∧
        graph = ⟨timeline.inputs encoding, timeline.layout encoding laid heard,
          timeline.videoOut encoding, timeline.audioOut encoding⟩ := by
  constructor
  · intro hbuild
    have hrun : ∃ bench, Workbench.empty.run (timeline.steps encoding) = (bench, none) := by
      rw [build_eq] at hbuild
      rcases hrun : Workbench.empty.run (timeline.steps encoding) with ⟨bench, _ | failure⟩
      · exact ⟨bench, rfl⟩
      · rw [hrun] at hbuild
        cases hbuild
    -- no label can be at fault, so the filters of all stages have been computed
    obtain ⟨bench, hrun⟩ := hrun
    obtain ⟨stages, hyields⟩ := Workbench.yields_of_run hrun
    obtain ⟨laid, heard, hlaid, hheard, -⟩ := (timeline.steps_yield_iff encoding _).mp hyields
    rw [timeline.build_eq_ok encoding hlaid hheard, Except.ok.injEq] at hbuild
    exact ⟨laid, heard, hlaid, hheard, hbuild.symm⟩
  · rintro ⟨laid, heard, hlaid, hheard, rfl⟩
    exact timeline.build_eq_ok encoding hlaid hheard

end Timeline

/-- **A compilation gives a layout of clips and sounds, or no graph at all.** -/
theorem Graph.compile_eq_ok_iff (timeline : Timeline) (encoding : Encoding) (graph : Graph) :
    Graph.compile timeline encoding = .ok graph ↔
      timeline.checkEncoding encoding = .ok () ∧
        ∃ laid heard, List.Forall₂ (LaidClip.Of timeline.fps) (timeline.overlays encoding) laid ∧
          List.Forall₂ HeardSound.Of (timeline.sounds encoding) heard ∧
          graph = ⟨timeline.inputs encoding, timeline.layout encoding laid heard,
            timeline.videoOut encoding, timeline.audioOut encoding⟩ := by
  rw [← Timeline.build_eq_ok_iff, Graph.compile_eq]
  rcases timeline.checkEncoding encoding with failure | ⟨⟨⟩⟩
  · simp [bind, Except.bind]
  · simp [bind, Except.bind]

end Montage
