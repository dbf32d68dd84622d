import Montage.Graph.Compilation
import Montage.Proofs.Lists
import Montage.Proofs.Report

/-!
# The steps of a compilation

What the work on a graph adds to its workbench can be told beforehand: `Timeline.steps` lists the
steps with all their labels, whose numbers follow from how many clips and sounds come before. The
work takes these steps (`Work.Takes`), with the count of labels kept by the workbench, so the graph
is the one that they lead to (`Timeline.build_eq`).
-/

namespace Montage

/-! ## Steps -/

/-- A step of a compilation: how many labels have been handed out when it is done or has failed, and
the stage that it adds, if that can be computed. -/
structure Step where
  labels : Nat
  stage : Except Failure Stage

namespace Workbench

/-- The workbench after one step. -/
def step (bench : Workbench) (step : Step) : Workbench × Option Failure :=
  let counted := { bench with labels := step.labels }
  match step.stage with
  | .ok stage => counted.add stage
  | .error failure => (counted, some failure)

/-- The workbench after steps, up to the first that fails. -/
def run (bench : Workbench) : List Step → Workbench × Option Failure
  | [] => (bench, none)
  | first :: rest =>
    match bench.step first with
    | (next, none) => next.run rest
    | stopped => stopped

end Workbench

namespace Timeline

variable (timeline : Timeline) (encoding : Encoding)

/-! ### Picture -/

/-- The label of the picture after a number of clips has been laid over it. -/
def pictureLabel (count : Nat) : String :=
  if count = 0 then "v_base_0" else s!"v_embed_{2 * count}"

/-- The label of the picture when all clips have been laid over it. -/
def videoOut : String :=
  let count := (timeline.overlays encoding).length
  if count = 0 then Graph.videoLabel else pictureLabel count

/-- How many labels the picture takes. -/
def pictureLabels : Nat :=
  let count := (timeline.overlays encoding).length
  if count = 0 then 0 else 2 * count + 1

/-- The step that reads the frames. -/
def frameStep : Step :=
  let covered := !(timeline.overlays encoding).isEmpty
  let filters := [.plain "fps" [toString timeline.fps], .plain "format" [encoding.pixelFormat]]
  { labels := if covered then 1 else 0
    stage := .ok ⟨["0:v"], if covered then pictureLabel 0 else Graph.videoLabel, filters⟩ }

/-- The step that prepares the picture of a clip, after `before` others. No label is handed out when
its filters cannot be computed. -/
def pictureStep (source : ClipSource) (input before : Nat) : Step :=
  let output := s!"v_embed_src_{2 * before + 1}"
  match source.pictureFilters timeline.fps with
  | .ok filters =>
    { labels := 2 * before + 2
      stage := .ok ⟨[s!"{input}:v"], output, filters⟩ }
  | .error failure =>
    { labels := 2 * before + 1
      stage := .error failure }

/-- The step that lays a clip over the picture, after `before` others. -/
def overlayStep (source : ClipSource) (before : Nat) : Step where
  labels := 2 * before + 3
  stage := do
    let filter ← source.overlayFilter timeline.fps
    let inputs := [pictureLabel before, s!"v_embed_src_{2 * before + 1}"]
    return ⟨inputs, pictureLabel (before + 1), [filter]⟩

/-- The steps that make the picture. -/
def pictureSteps : List Step :=
  timeline.frameStep encoding ::
    (timeline.overlays encoding).zipIdx.flatMap fun ((source, input), before) =>
      [timeline.pictureStep source input before, timeline.overlayStep source before]

/-! ### Sound -/

/-- The label of a sound with a number. -/
def soundLabel (sound : Chain.Sound) (number : Nat) : String :=
  s!"{sound.stem}_{number}"

/-- The steps that make the sound, after `labels` labels have been handed out. The filters of all
sounds are computed before the first stage is added. -/
def soundSteps (labels : Nat) (sounds : List Chain.Sound) : List Step :=
  match sounds.mapM Chain.Sound.filters with
  | .error failure => [⟨labels, .error failure⟩]
  | .ok filters =>
    match sounds.zip filters with
    | [] => []
    | [(sound, filters)] => [⟨labels, .ok ⟨[sound.pad], Graph.audioLabel, filters⟩⟩]
    | several =>
      let numbered := several.zipIdx labels
      numbered.map (fun ((sound, filters), number) =>
        ⟨number + 1, .ok ⟨[sound.pad], soundLabel sound number, filters⟩⟩) ++
      [⟨labels + several.length, .ok (.mix (numbered.map fun ((sound, _), number) =>
        soundLabel sound number))⟩]

/-- The label of the sound, if there is any. -/
def audioOut : Option String :=
  if (timeline.sounds encoding).isEmpty then none else some Graph.audioLabel

/-! ### All together -/

/-- The steps of the compilation. -/
def steps : List Step :=
  timeline.pictureSteps encoding ++
    soundSteps (timeline.pictureLabels encoding) (timeline.sounds encoding)

end Timeline

/-! ## Work in steps -/

namespace Workbench

/-- Steps are carried out one part after the other, as long as none of them fails. -/
theorem run_append (bench : Workbench) (first second : List Step) :
    bench.run (first ++ second) =
      match bench.run first with
      | (next, none) => next.run second
      | stopped => stopped := by
  induction first generalizing bench with
  | nil => rfl
  | cons step rest ih =>
    rw [List.cons_append, run, run]
    rcases bench.step step with ⟨next, _ | failure⟩
    · exact ih next
    · rfl

/-- The ledger gives no labels, so adding a stage leaves their count. -/
theorem add_labels (bench : Workbench) (stage : Stage) :
    (bench.add stage).1.labels = bench.labels := by
  rw [add]
  rcases bench.ledger.add stage.inputs stage.output with ⟨ledger, _ | failure⟩ <;> rfl

end Workbench

namespace Work

variable {α β : Type} {bench : Workbench} {value : α} {other : β} {first second : List Step}
  {labels total : Nat}

/-- The outcome of work that gives a value when nothing has stopped it. -/
def outcome (value : α) : Workbench × Option Failure → EStateM.Result Failure Workbench α
  | (bench, none) => .ok value bench
  | (bench, some failure) => .error failure bench

/-- Work takes the steps of a list at a workbench. When all of them succeed it gives a value, and a
number of labels has been handed out. -/
structure Takes (work : Work α) (bench : Workbench) (steps : List Step) (value : α)
    (labels : Nat) : Prop where
  run_eq : work.run bench = outcome value (bench.run steps)
  labels_eq : ∀ after, bench.run steps = (after, none) → after.labels = labels

theorem takes_pure (value : α) (h : bench.labels = labels) :
    (pure value : Work α).Takes bench [] value labels where
  run_eq := rfl
  labels_eq after hafter := by
    cases hafter
    exact h

/-- Work that goes on takes its further steps, at a workbench that has handed out the labels of the
ones before. -/
theorem Takes.bind {work : Work α} {next : α → Work β} (h : work.Takes bench first value labels)
    (hnext : ∀ after : Workbench, after.labels = labels →
      (next value).Takes after second other total) :
    (work >>= next).Takes bench (first ++ second) other total := by
  have hrun := h.run_eq
  constructor
  all_goals
    rw [Workbench.run_append]
    rcases hfirst : bench.run first with ⟨after, _ | failure⟩
    all_goals rw [hfirst] at hrun
  · rw [EStateM.run_bind, hrun]
    exact (hnext after (h.labels_eq after hfirst)).run_eq
  · rw [EStateM.run_bind, hrun]
    rfl
  · exact (hnext after (h.labels_eq after hfirst)).labels_eq
  · rintro _ ⟨⟩

/-- A function on the value changes nothing about the steps. -/
theorem Takes.map {work : Work α} (f : α → β) (h : work.Takes bench first value labels) :
    (f <$> work).Takes bench first (f value) labels where
  run_eq := by
    have hrun := h.run_eq
    rw [EStateM.run] at hrun
    show EStateM.map f work bench = _
    rw [EStateM.map, hrun]
    rcases bench.run first with ⟨after, _ | failure⟩ <;> rfl
  labels_eq := h.labels_eq

/-- A stage is added by one step, which leaves the count of labels as it is. -/
theorem takes_add (stage : Stage) (h : bench.labels = labels) :
    (add stage).Takes bench [⟨labels, .ok stage⟩] stage.output labels := by
  subst h
  have hrun : bench.run [⟨bench.labels, .ok stage⟩] = bench.add stage := by
    rw [Workbench.run, Workbench.step]
    dsimp only
    -- the workbench is returned with the failure too, so both cases have to agree on it
    rcases bench.add stage with ⟨next, _ | failure⟩ <;> rfl
  have hlabels := bench.add_labels stage
  constructor
  all_goals rw [hrun]
  · show add stage bench = _
    rw [add]
    rcases bench.add stage with ⟨next, _ | failure⟩ <;> rfl
  · intro after hafter
    rw [hafter] at hlabels
    exact hlabels

/-- A stage with a label of its own is added by one step, which counts the label. -/
theorem takes_addLabelled (stem : String) (inputs : List String) (filters : List Filter)
    (h : bench.labels = labels) :
    (addLabelled stem inputs filters).Takes bench
      [⟨labels + 1, .ok ⟨inputs, s!"{stem}_{labels}", filters⟩⟩] s!"{stem}_{labels}" (labels + 1) := by
  subst h
  let counted : Workbench := { bench with labels := bench.labels + 1 }
  have hadd : (add ⟨inputs, s!"{stem}_{bench.labels}", filters⟩).Takes counted _ _ _ :=
    takes_add _ rfl
  exact ⟨hadd.run_eq, hadd.labels_eq⟩

end Work

namespace Timeline

variable (timeline : Timeline) (encoding : Encoding) {bench : Workbench} {labels : Nat}

/-! ### Picture -/

/-- The frames take one step, with a label of their own if something is laid over them. -/
theorem frameWork_takes (h : bench.labels = 0) :
    (timeline.frameWork encoding).Takes bench [timeline.frameStep encoding]
      (if (timeline.overlays encoding).isEmpty then Graph.videoLabel else pictureLabel 0)
      (if (timeline.overlays encoding).isEmpty then 0 else 1) := by
  rw [frameWork, frameStep]
  cases (timeline.overlays encoding).isEmpty
  · exact Work.takes_addLabelled "v_base" _ _ h
  · exact Work.takes_add _ h

/-- A clip is laid over the picture by one step, which counts the label also when it fails. -/
theorem placing_takes (source : ClipSource) (picture prepared : String)
    (h : bench.labels = labels) :
    Work.Takes (do
        let output ← Work.label "v_embed"
        let filter ← source.overlayFilter timeline.fps
        Work.add ⟨[picture, prepared], output, [filter]⟩)
      bench
      [⟨labels + 1, do
        let filter ← source.overlayFilter timeline.fps
        return ⟨[picture, prepared], s!"v_embed_{labels}", [filter]⟩⟩]
      s!"v_embed_{labels}" (labels + 1) := by
  rcases source.overlayFilter timeline.fps with failure | filter
  · subst h
    exact ⟨rfl, fun _ hafter => nomatch hafter⟩
  · have hadd := Work.takes_addLabelled "v_embed" [picture, prepared] [filter] h
    exact ⟨hadd.run_eq, hadd.labels_eq⟩

/-- A clip takes two steps, and both of their labels are counted. -/
theorem overlayWork_takes (source : ClipSource) (input before : Nat)
    (h : bench.labels = 2 * before + 1) :
    (timeline.overlayWork (pictureLabel before) source input).Takes bench
      [timeline.pictureStep source input before, timeline.overlayStep source before]
      (pictureLabel (before + 1)) (2 * (before + 1) + 1) := by
  rw [overlayWork, pictureStep]
  rcases source.pictureFilters timeline.fps with failure | filters
  · -- nothing is counted, and the steps say so by the count from before
    obtain ⟨ledger, stages, labels⟩ := bench
    cases h
    exact ⟨rfl, fun _ hafter => nomatch hafter⟩
  · have hprepared := Work.takes_addLabelled "v_embed_src" [s!"{input}:v"] filters h
    exact hprepared.bind fun after hafter => timeline.placing_takes source _ _ hafter

/-- The clips are laid one after the other, by induction with the count of labels so far. -/
theorem overlays_take (entries : List (ClipSource × Nat)) (before : Nat)
    (h : bench.labels = 2 * before + 1) :
    Work.Takes (entries.foldlM
        (fun picture (source, input) => timeline.overlayWork picture source input)
        (pictureLabel before))
      bench
      ((entries.zipIdx before).flatMap fun ((source, input), before) =>
        [timeline.pictureStep source input before, timeline.overlayStep source before])
      (pictureLabel (before + entries.length)) (2 * (before + entries.length) + 1) := by
  induction entries generalizing before bench with
  | nil => exact Work.takes_pure _ h
  | cons entry rest ih =>
    obtain ⟨source, input⟩ := entry
    have hfirst := timeline.overlayWork_takes source input before h
    have hcount : before + (rest.length + 1) = before + 1 + rest.length := by omega
    rw [List.length_cons, hcount]
    exact hfirst.bind fun after hafter => ih (before + 1) hafter

/-- The picture takes the steps of the frames and those of the overlays. -/
theorem pictureWork_takes (h : bench.labels = 0) :
    (timeline.pictureWork encoding).Takes bench (timeline.pictureSteps encoding)
      (timeline.videoOut encoding) (timeline.pictureLabels encoding) := by
  have hframe := timeline.frameWork_takes encoding h
  rw [pictureWork, pictureSteps, videoOut, pictureLabels]
  cases hoverlays : timeline.overlays encoding with
  | nil =>
    rw [hoverlays] at hframe
    exact hframe.bind fun after hafter => Work.takes_pure _ hafter
  | cons entry rest =>
    rw [hoverlays] at hframe
    have hcount : 0 + (entry :: rest).length = (entry :: rest).length := Nat.zero_add _
    have hrest (after : Workbench) (hafter : after.labels = 1) :=
      timeline.overlays_take (entry :: rest) 0 hafter
    rw [hcount] at hrest
    exact hframe.bind hrest

/-! ### Sound -/

/-- The chains are added in order, each with the next number in its label. -/
theorem chains_take (chains : List (Chain.Sound × List Filter)) (h : bench.labels = labels) :
    Work.Takes (chains.mapM fun (sound, filters) =>
        Work.addLabelled sound.stem [sound.pad] filters)
      bench
      ((chains.zipIdx labels).map fun ((sound, filters), number) =>
        ⟨number + 1, .ok ⟨[sound.pad], soundLabel sound number, filters⟩⟩)
      ((chains.zipIdx labels).map fun ((sound, _), number) => soundLabel sound number)
      (labels + chains.length) := by
  induction chains generalizing bench labels with
  | nil => exact Work.takes_pure _ h
  | cons chain rest ih =>
    obtain ⟨sound, filters⟩ := chain
    have hfirst := Work.takes_addLabelled sound.stem [sound.pad] filters h
    have hcount : labels + (rest.length + 1) = labels + 1 + rest.length := by omega
    rw [List.mapM_cons, List.length_cons, hcount]
    exact hfirst.bind fun after hafter => (ih hafter).map _

/-- The sound takes its steps, and there is a label in the end if there is a sound. -/
theorem soundWork_takes (sounds : List Chain.Sound) (h : bench.labels = labels) :
    ∃ total, (soundWork sounds).Takes bench (soundSteps labels sounds)
      (if sounds.isEmpty then none else some Graph.audioLabel) total := by
  rw [soundWork, soundSteps]
  rcases hfilters : sounds.mapM Chain.Sound.filters with failure | filters
  · subst h
    exact ⟨0, rfl, fun _ hafter => nomatch hafter⟩
  · have hlength := ((mapM_eq_ok_iff _ _ _).mp hfilters).length_eq
    match sounds, filters, hlength with
    | [], [], _ => exact ⟨labels, Work.takes_pure _ h⟩
    | [sound], [filters], _ => exact ⟨labels, (Work.takes_add _ h).map some⟩
    | first :: second :: sounds, filters :: others :: rest, _ =>
      have hchains := chains_take ((first :: second :: sounds).zip (filters :: others :: rest)) h
      exact ⟨_, hchains.bind fun after hafter => (Work.takes_add (.mix _) hafter).map some⟩

/-! ### All together -/

/-- **A compilation ends with the workbench that its steps lead to, and with what stopped the first
of them that failed, or else with the graph of all stages.** -/
theorem build_eq :
    timeline.build encoding =
      match Workbench.empty.run (timeline.steps encoding) with
      | (bench, some failure) => (bench, .error failure)
      | (bench, none) =>
        let videoOut := timeline.videoOut encoding
        let audioOut := timeline.audioOut encoding
        let checked := bench.ledger.checkDangling (videoOut :: audioOut.toList)
        (bench, checked.map fun _ =>
          ⟨timeline.inputs encoding, bench.stages, videoOut, audioOut⟩) := by
  have hpicture : (timeline.pictureWork encoding).Takes Workbench.empty _ _ _ :=
    timeline.pictureWork_takes encoding rfl
  have hrun := hpicture.run_eq
  rw [build, graphWork, steps, Workbench.run_append, EStateM.run_bind, hrun]
  rcases hfirst : Workbench.empty.run (timeline.pictureSteps encoding) with ⟨after, _ | failure⟩
  · obtain ⟨total, hsound⟩ :=
      soundWork_takes (timeline.sounds encoding) (hpicture.labels_eq after hfirst)
    dsimp only [Work.outcome]
    rw [EStateM.run_bind, hsound.run_eq]
    rcases after.run _ with ⟨bench, _ | failure⟩
    · -- both parts are done, and the ledger decides
      dsimp only [Work.outcome, audioOut]
      rw [EStateM.run_bind]
      dsimp only [EStateM.run_get]
      rw [EStateM.run_bind]
      rcases bench.ledger.checkDangling _ with failure | checked <;> rfl
    · rfl
  · rfl

end Timeline

/-- A graph is what was built, when the settings agree with the timeline. -/
theorem Graph.compile_eq (timeline : Timeline) (encoding : Encoding) :
    Graph.compile timeline encoding =
      timeline.checkEncoding encoding >>= fun _ => (timeline.build encoding).2 := by
  have hbuild : (reportBuild timeline encoding).result = (timeline.build encoding).2 := by
    rw [reportBuild]
    rcases timeline.build encoding with ⟨bench, failure | graph⟩ <;> rfl
  rw [compile, reportCompile, Report.result_bind, hbuild]
  rfl

end Montage
