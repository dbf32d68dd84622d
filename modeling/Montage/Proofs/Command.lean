import Mathlib.Data.Nat.Notation
import Montage.Proofs.Graph.Pads
import Montage.Proofs.Results

/-!
# The arguments of a command

The command of a timeline lists the input files of its graph in the order of their numbers, so a pad
of the graph is read from the file it stands for, and delivers the labels of the graph. There are
options for sound exactly when something is heard.
-/

namespace Montage

/-! ## The text of a graph -/

theorem Stage.toList_render_ne_nil (stage : Stage) : stage.render.toList ≠ [] := by
  simp [render, bracket]

/-- A graph with a stage has a text. -/
theorem Graph.isEmpty_render {graph : Graph} (h : graph.stages ≠ []) :
    graph.render.isEmpty = false := by
  obtain ⟨stage, rest, hstages⟩ := List.exists_cons_of_ne_nil h
  rw [String.isEmpty_eq_false_iff, ne_eq, ← String.toList_eq_nil_iff, render, hstages,
    String.toList_intercalate]
  have hstage := stage.toList_render_ne_nil
  cases rest <;> simp [hstage]

/-! ## Commands of timelines -/

namespace Command

variable (program : String) (timeline : Timeline) (encoding : Encoding) (outputPath : String)

/-- A timeline has a command just when it has a graph. -/
theorem ofTimeline_eq_ok_iff (command : Command) :
    ofTimeline program timeline encoding outputPath = .ok command ↔
      ∃ graph, Graph.compile timeline encoding = .ok graph ∧
        ofGraph program encoding outputPath graph = command := by
  rw [ofTimeline_eq]
  rcases Graph.compile timeline encoding with failure | graph
  · simp [Except.map]
  · simp [Except.map]

/-- The options in front of an input file: only the pipe of frames has any. -/
def optionsAt (index : ℕ) : List String :=
  if index = 0 then frameOptions encoding else []

/-- The arguments that only a command with sound has. -/
def ifHeard (arguments : List String) : List String :=
  if timeline.voices.isEmpty then [] else arguments

/-- An input file of a graph has the number of its place, and becomes an input with its options. -/
theorem input_eq {graph : Graph} (h : timeline.PadsAgree encoding graph) {index : ℕ} {file : Input}
    (hfile : graph.inputs[index]? = some file) :
    file.index = index ∧ input encoding file = ⟨file.path, optionsAt encoding index⟩ := by
  rw [h.inputs_eq, List.getElem?_map, List.getElem?_zipIdx, Option.map_map,
    Option.map_eq_some_iff] at hfile
  obtain ⟨medium, hmedium, rfl⟩ := hfile
  refine ⟨Nat.zero_add index, ?_⟩
  cases medium with
  | frames =>
    obtain rfl := (timeline.media_getElem?_eq_frames_iff encoding index).mp hmedium
    rfl
  | clip clip =>
    -- only input 0 holds the frames
    have hne : index ≠ 0 := fun hzero => by simp [hzero, Timeline.media] at hmedium
    rw [optionsAt, if_neg hne]
    rfl
  | track track =>
    have hne : index ≠ 0 := fun hzero => by simp [hzero, Timeline.media] at hmedium
    rw [optionsAt, if_neg hne]
    rfl

/-- A compiled graph has sound exactly when there are voices. -/
theorem audioOut_eq_of_compile {graph : Graph} (h : Graph.compile timeline encoding = .ok graph) :
    graph.audioOut = if timeline.voices.isEmpty then none else some Graph.audioLabel := by
  obtain ⟨-, -, -, -, -, rfl⟩ := (Graph.compile_eq_ok_iff _ _ _).mp h
  exact timeline.audioOut_eq_of_voices encoding

/-- **The command of a timeline reads and delivers what its graph does.** Its inputs are the input
files of the graph in the order of their numbers, the pads of the graph agree with them, and the
picture is mapped to the output, with the sound exactly when something is heard. -/
theorem ofTimeline_arguments {command : Command}
    (h : ofTimeline program timeline encoding outputPath = .ok command) :
    ∃ graph, Graph.compile timeline encoding = .ok graph ∧ timeline.PadsAgree encoding graph ∧
      command.inputs.length = graph.inputs.length ∧
      (∀ (index : ℕ) (file : Input), graph.inputs[index]? = some file → file.index = index ∧
        command.inputs[index]? = some ⟨file.path, optionsAt encoding index⟩) ∧
      graph.audioOut = (if timeline.voices.isEmpty then none else some Graph.audioLabel) ∧
      command.arguments = [program, "-y"] ++
        command.inputs.flatMap (fun file => file.options ++ ["-i", file.path]) ++
        ["-filter_complex", graph.render, "-map", "[" ++ graph.videoOut ++ "]"] ++
        ifHeard timeline ["-map", "[" ++ Graph.audioLabel ++ "]"] ++
        ["-c:v", encoding.videoCodec, "-preset", encoding.preset.name, "-crf",
          toString encoding.crf, "-pix_fmt", encoding.pixelFormat] ++
        ifHeard timeline ["-c:a", encoding.audioCodec, "-b:a", encoding.audioBitrate] ++
        (if encoding.faststart then ["-movflags", "+faststart"] else []) ++ [outputPath] := by
  obtain ⟨graph, hgraph, rfl⟩ := (ofTimeline_eq_ok_iff _ _ _ _ _).mp h
  have hpads := Timeline.padsAgree_of_compile hgraph
  have haudio := audioOut_eq_of_compile timeline encoding hgraph
  refine ⟨graph, hgraph, hpads, List.length_map _, fun index file hfile => ?_, haudio, ?_⟩
  · obtain ⟨hindex, hinput⟩ := input_eq timeline encoding hpads hfile
    refine ⟨hindex, ?_⟩
    show (graph.inputs.map (input encoding))[index]? = _
    rw [List.getElem?_map, hfile, ← hinput]
    rfl
  · -- the text of the graph is not empty, so it is not left out of the arguments
    have hrender : graph.render.isEmpty = false := by
      apply Graph.isEmpty_render
      intro hnil
      obtain ⟨-, laids, heard, -, -, rfl⟩ := (Graph.compile_eq_ok_iff _ _ _).mp hgraph
      simp [Timeline.layout] at hnil
    show (ofGraph program encoding outputPath graph).arguments = _
    rw [arguments, ofGraph, hrender, Graph.outputMaps, outputOptionsFor, haudio, ifHeard, ifHeard]
    cases timeline.voices.isEmpty <;> simp [Stage.bracket] <;> rfl

/-- The pipe of frames, the clip that is seen and heard, and the track are numbered in this order. -/
theorem ofTimeline_arguments_duet : ∃ command,
    ofTimeline "ffmpeg" duet (.standard "192k" .medium 640 360 30) "out.mp4" = .ok command ∧
      command.inputs[1]? = some ⟨"intro.mp4", []⟩ ∧
      command.inputs[2]? = some ⟨"music.mp3", []⟩ := by
  obtain ⟨graph, hgraph⟩ := @Graph.exists_compile duet (.standard "192k" .medium 640 360 30)
    duet_valid rfl rfl rfl fun clip hclip => (duet_clips clip hclip).2
  have hcommand := (ofTimeline_eq_ok_iff "ffmpeg" duet _ "out.mp4" _).mpr ⟨graph, hgraph, rfl⟩
  obtain ⟨other, -, hpads, -, hinputs, -⟩ := ofTimeline_arguments _ _ _ _ hcommand
  refine ⟨_, hcommand, (hinputs 1 ⟨1, .clip, "intro.mp4", some "intro"⟩ ?_).2,
    (hinputs 2 ⟨2, .audio, "music.mp3", none⟩ ?_).2⟩
  · rw [hpads.inputs_eq]
    decide +kernel
  · rw [hpads.inputs_eq]
    decide +kernel

end Command

end Montage
