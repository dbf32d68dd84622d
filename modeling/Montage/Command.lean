import Montage.Graph.Compilation
import Montage.Manifest
import Montage.Resolution
import Montage.Settings
import Montage.Text.Shell

/-!
# Encoder commands

A command is the argument vector that starts the encoder on a pipe of rendered frames. It is put
together from a timeline and encoder settings (`Command.ofTimeline`), or straight from a manifest
(`Manifest.compile`), and can be written as one line for a shell.
-/

namespace Montage

/-- An input of a command, with the options that come before it. -/
structure CommandInput where
  path : String
  options : List String
deriving Repr, DecidableEq

namespace CommandInput

/-- The arguments for an input. -/
def arguments (input : CommandInput) : List String :=
  input.options ++ ["-i", input.path]

end CommandInput

/-- A command that starts the encoder. -/
structure Command where
  program : String
  globalOptions : List String
  inputs : List CommandInput
  filterGraph : String
  outputMaps : List String
  outputOptions : List String
  outputFile : String
deriving Repr, DecidableEq

namespace Command

/-- The argument vector. An empty filter graph is left out. -/
def arguments (command : Command) : List String :=
  command.program :: command.globalOptions ++
    command.inputs.flatMap CommandInput.arguments ++
    (if command.filterGraph.isEmpty then [] else ["-filter_complex", command.filterGraph]) ++
    command.outputMaps.flatMap (fun label => ["-map", label]) ++
    command.outputOptions ++ [command.outputFile]

/-- The command as a line for a shell. -/
def shell (command : Command) : String :=
  Shell.join command.arguments

/-! ## From a timeline -/

def frameOptions (encoding : Encoding) : List String :=
  let rate := ["-framerate", toString encoding.fps]
  match encoding.frameFormat with
  | .png => ["-f", "image2pipe", "-c:v", "png"] ++ rate
  | .rawRgba =>
    ["-f", "rawvideo", "-pixel_format", "rgba",
      "-video_size", s!"{encoding.width}x{encoding.height}"] ++ rate

/-- An input of a graph as an input of the command. -/
def input (encoding : Encoding) (input : Input) : CommandInput :=
  match input.kind with
  | .frames => ⟨input.path, frameOptions encoding⟩
  | _ => ⟨input.path, []⟩

def outputOptionsFor (encoding : Encoding) (graph : Graph) : List String :=
  ["-c:v", encoding.videoCodec,
    "-preset", encoding.preset.name,
    "-crf", toString encoding.crf,
    "-pix_fmt", encoding.pixelFormat] ++
  (if graph.audioOut.isSome then
    ["-c:a", encoding.audioCodec, "-b:a", encoding.audioBitrate]
  else []) ++
  (if encoding.faststart then ["-movflags", "+faststart"] else [])

/-- The command for a graph. -/
def ofGraph (program : String) (encoding : Encoding) (outputPath : String) (graph : Graph) :
    Command where
  program := program
  globalOptions := ["-y"]
  inputs := graph.inputs.map (input encoding)
  filterGraph := graph.render
  outputMaps := graph.outputMaps
  outputOptions := outputOptionsFor encoding graph
  outputFile := outputPath

def reportTimeline (program : String) (timeline : Timeline) (encoding : Encoding)
    (outputPath : String) : Report Command := do
  return ofGraph program encoding outputPath (← Graph.reportCompile timeline encoding)

/-- The command for a timeline. -/
def ofTimeline (program : String) (timeline : Timeline) (encoding : Encoding)
    (outputPath : String) : Except Failure Command :=
  (reportTimeline program timeline encoding outputPath).result

/-! ## Failed commands -/

/-- The report of a command that has ended. It failed when its exit code is not zero. -/
def reportExit (command : List String) (exitCode : Int) (stderr : String) : Report Unit := do
  if exitCode ≠ 0 then
    let line := Shell.join command
    Report.tell [⟨.error, Log.command, s!"Encoder exited with code {exitCode}; command: {line}"⟩]
    unless stderr.isEmpty do
      Report.tell [⟨.error, Log.command, s!"Encoder stderr: {Text.strip stderr}"⟩]
    Report.ofResult (.error (.encoder command exitCode stderr))

end Command

namespace Manifest

variable (settings : Settings) (extra : Table Anchor) (program : String) (strict : Bool)
  (manifest : Manifest)

/-- The anchors given with a manifest, with those of a caller written over them. -/
def givenAnchors : Table Anchor :=
  Table.merge manifest.anchors extra

/-- The timeline of a manifest. -/
def timeline : Except Failure Timeline :=
  manifest.composition.resolve (manifest.givenAnchors extra) strict

/-- The report of the command that renders a manifest. An empty program is the one in the settings.
-/
def reportCompile : Report Command := do
  let timeline ← manifest.composition.reportResolve (manifest.givenAnchors extra) strict
  Command.reportTimeline (Text.orElse program settings.encoder) timeline
    (manifest.resolvedEncoding settings.audioBitrate) manifest.outputPath

/-- The command that renders a manifest. -/
def compile : Except Failure Command :=
  (manifest.reportCompile settings extra program strict).result

end Manifest

end Montage
