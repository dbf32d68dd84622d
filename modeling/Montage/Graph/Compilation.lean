import Montage.Graph.Chain
import Montage.Graph.Ledger
import Montage.Report

/-!
# Compilation of filter graphs

A timeline is compiled at a `Workbench`: first the frames, then a pair of stages for each clip that is
laid over them, then a stage for each sound, and a mix when there are several. The workbench hands
out labels by the next number and checks every label of a stage, and `Graph.compile` is the graph
that it ends up with.
-/

namespace Montage

/-! ## The workbench -/

/-- The stages of a graph so far, their labels, and how many labels have been handed out. -/
structure Workbench where
  ledger : Ledger
  stages : List Stage
  labels : Nat
deriving Repr, DecidableEq

namespace Workbench

/-- A workbench with nothing on it. -/
def empty : Workbench where
  ledger := .empty
  stages := []
  labels := 0

/-- The workbench with a stage added, with what stopped that if anything did. -/
def add (bench : Workbench) (stage : Stage) : Workbench × Option Failure :=
  match bench.ledger.add stage.inputs stage.output with
  | (ledger, none) => ({ bench with ledger := ledger, stages := bench.stages ++ [stage] }, none)
  | (ledger, some failure) => ({ bench with ledger := ledger }, some failure)

/-- A label with the next number, and the workbench that has handed it out. -/
def nextLabel (bench : Workbench) (stem : String) : String × Workbench :=
  (s!"{stem}_{bench.labels}", { bench with labels := bench.labels + 1 })

end Workbench

/-! ## Work -/

/-- Work at a workbench: a result, or the failure that stopped it, and the workbench in either case.
-/
abbrev Work := EStateM Failure Workbench

namespace Work

/-- Takes a label with the next number. -/
def label (stem : String) : Work String :=
  modifyGet fun bench => bench.nextLabel stem

/-- Adds a stage and gives its output. -/
def add (stage : Stage) : Work String := fun bench =>
  match bench.add stage with
  | (next, none) => .ok stage.output next
  | (next, some failure) => .error failure next

/-- Adds a stage with a label of its own, and gives that. -/
def addLabelled (stem : String) (inputs : List String) (filters : List Filter) : Work String := do
  add ⟨inputs, ← label stem, filters⟩

/-- A result that needs no workbench. -/
def ofResult {α : Type} : Except Failure α → Work α
  | .ok value => return value
  | .error failure => throw failure

instance : MonadLift (Except Failure) Work where
  monadLift := ofResult

end Work

/-! ## Timelines -/

/-- The label of the finished picture, when no clip is laid over it. -/
def Graph.videoLabel : String := "v_out"

/-- The label of the finished sound. -/
def Graph.audioLabel : String := "a_out"

/-- A sound on its way into the graph: the pad it is read from, the stem of its label, and its
filters. -/
structure Chain.Sound where
  pad : String
  stem : String
  filters : Except Failure (List Filter)

/-- The stage that mixes labels. -/
def Stage.mix (labels : List String) : Stage :=
  ⟨labels, Graph.audioLabel, [.mix labels.length]⟩

namespace Timeline

variable (timeline : Timeline) (encoding : Encoding)

/-! ### Picture -/

/-- The clips that are laid over the frames, each with the number of its input. -/
def overlays : List (ClipSource × Nat) :=
  (timeline.clipInputs encoding).filter fun (source, _) => source.overlaid

/-- Reads the frames, under clips or alone. -/
def frameWork : Work String :=
  let filters := [.plain "fps" [toString timeline.fps], .plain "format" [encoding.pixelFormat]]
  if (timeline.overlays encoding).isEmpty then Work.add ⟨["0:v"], Graph.videoLabel, filters⟩
  else Work.addLabelled "v_base" ["0:v"] filters

/-- Lays a clip over the picture. No label is taken when the filters of its own picture cannot be
computed, and both are when it cannot be placed. -/
def overlayWork (picture : String) (source : ClipSource) (input : Nat) : Work String := do
  let filters ← source.pictureFilters timeline.fps
  let prepared ← Work.addLabelled "v_embed_src" [s!"{input}:v"] filters
  let output ← Work.label "v_embed"
  let filter ← source.overlayFilter timeline.fps
  Work.add ⟨[picture, prepared], output, [filter]⟩

/-- Makes the picture. -/
def pictureWork : Work String := do
  (timeline.overlays encoding).foldlM
    (fun picture (source, input) => timeline.overlayWork picture source input)
    (← timeline.frameWork encoding)

/-! ### Sound -/

/-- The sounds of clips and then of tracks. -/
def sounds : List Chain.Sound :=
  ((timeline.clipInputs encoding).filter fun (source, _) => source.heard).map
    (fun (source, input) => ⟨s!"{input}:a", "a_embed", source.soundFilters timeline.fps⟩) ++
  (timeline.trackInputs encoding).map
    (fun (source, input) => ⟨s!"{input}:a", "a_track", source.soundFilters timeline.fps⟩)

/-- Makes the sound, if there is any. The filters of all sounds are computed before the first stage
is added. -/
def soundWork (sounds : List Chain.Sound) : Work (Option String) := do
  let filters ← (sounds.mapM Chain.Sound.filters : Except Failure (List (List Filter)))
  match sounds.zip filters with
  | [] => return none
  | [(sound, filters)] => some <$> Work.add ⟨[sound.pad], Graph.audioLabel, filters⟩
  | several =>
    let labels ← several.mapM fun (sound, filters) =>
      Work.addLabelled sound.stem [sound.pad] filters
    some <$> Work.add (.mix labels)

/-! ### All together -/

/-- Makes the graph. -/
def graphWork : Work Graph := do
  let videoOut ← timeline.pictureWork encoding
  let audioOut ← soundWork (timeline.sounds encoding)
  let bench ← get
  -- all that was produced has been consumed, or is put out
  bench.ledger.checkDangling (videoOut :: audioOut.toList)
  return ⟨timeline.inputs encoding, bench.stages, videoOut, audioOut⟩

/-- The workbench after the compilation, and the graph or what stopped it. -/
def build : Workbench × Except Failure Graph :=
  match (timeline.graphWork encoding).run .empty with
  | .ok graph bench => (bench, .ok graph)
  | .error failure bench => (bench, .error failure)

/-- Fails when the settings are for another rate or size than the timeline. -/
def checkEncoding : Except Failure Unit :=
  if encoding.fps ≠ timeline.fps then
    .error (.configuration (.fpsMismatch encoding.fps timeline.fps))
  else if (encoding.width, encoding.height) ≠ (timeline.width, timeline.height) then
    .error (.configuration
      (.sizeMismatch encoding.width encoding.height timeline.width timeline.height))
  else .ok ()

end Timeline

/-! ## Graphs -/

namespace Graph

/-- A note on a stage that was added. -/
def stageNotes (stage : Stage) : List Log.Entry :=
  [⟨.debug, Log.graph, s!"Filter stage: {stage.render}"⟩]

/-- A note on a finished graph. -/
def finishedNotes (graph : Graph) : List Log.Entry :=
  let sound := if graph.audioOut.isSome then "yes" else "no"
  [⟨.info, Log.graph, s!"Compiled filter graph: {graph.inputs.length} inputs, " ++
    s!"{graph.stages.length} stages, audio={sound}"⟩]

/-- The report of a compilation: on the contributions, on all stages that were added, and on the
graph when it was finished. -/
def reportBuild (timeline : Timeline) (encoding : Encoding) : Report Graph := do
  Report.tell (timeline.sourceNotes encoding)
  let (bench, result) := timeline.build encoding
  Report.tell (bench.stages.flatMap stageNotes)
  let graph ← result
  Report.tell (finishedNotes graph)
  return graph

/-- The report of a compilation with settings that have to agree with the timeline. -/
def reportCompile (timeline : Timeline) (encoding : Encoding) : Report Graph := do
  timeline.checkEncoding encoding
  reportBuild timeline encoding

/-- The filter graph of a timeline. -/
def compile (timeline : Timeline) (encoding : Encoding) : Except Failure Graph :=
  (reportCompile timeline encoding).result

end Graph

end Montage
