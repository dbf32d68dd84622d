/-!
# Filter graphs

A filter graph is a list of stages. A stage reads labelled streams, passes them through a chain of
filters, and writes one labelled stream. Streams of input files are read from pads, whose label is
the number of the file and the kind of the stream. `Graph.render` is the text that the encoder is
given.
-/

namespace Montage

/-! ## Filters -/

/-- One argument of a filter, with a key or by position. -/
structure Argument where
  key : Option String
  value : String
deriving Repr, DecidableEq

namespace Argument

def render (argument : Argument) : String :=
  match argument.key with
  | none => argument.value
  | some key => key ++ "=" ++ argument.value

end Argument

structure Filter where
  name : String
  arguments : List Argument
deriving Repr, DecidableEq

namespace Filter

/-- A filter with arguments by position. -/
def plain (name : String) (values : List String) : Filter :=
  ⟨name, values.map fun value => ⟨none, value⟩⟩

/-- A filter with arguments by key. -/
def keyed (name : String) (values : List (String × String)) : Filter :=
  ⟨name, values.map fun (key, value) => ⟨some key, value⟩⟩

def render (filter : Filter) : String :=
  if filter.arguments.isEmpty then filter.name
  else filter.name ++ "=" ++ ":".intercalate (filter.arguments.map Argument.render)

end Filter

/-! ## Stages -/

/-- A chain of filters between labelled streams. -/
structure Stage where
  inputs : List String
  output : String
  filters : List Filter
deriving Repr, DecidableEq

namespace Stage

/-- A label in brackets. -/
def bracket (label : String) : String :=
  "[" ++ label ++ "]"

def render (stage : Stage) : String :=
  String.join (stage.inputs.map bracket) ++ ",".intercalate (stage.filters.map Filter.render) ++
    bracket stage.output

end Stage

/-! ## Graphs -/

inductive InputKind where
  /-- The rendered frames. -/
  | frames
  | clip
  | audio
deriving Repr, DecidableEq

namespace InputKind

def name : InputKind → String
  | frames => "frames"
  | clip => "embedded_video"
  | audio => "audio"

end InputKind

structure Input where
  index : Nat
  kind : InputKind
  path : String
  sourceId : Option String
deriving Repr, DecidableEq

/-- A whole filter graph with the inputs it reads and the labels it delivers. -/
structure Graph where
  inputs : List Input
  stages : List Stage
  videoOut : String
  audioOut : Option String
deriving Repr, DecidableEq

namespace Graph

def render (graph : Graph) : String :=
  ";".intercalate (graph.stages.map Stage.render)

/-- The labels that go into the output file, in brackets. -/
def outputMaps (graph : Graph) : List String :=
  Stage.bracket graph.videoOut :: (graph.audioOut.map Stage.bracket).toList

/-- The stages that write sound. -/
def audioStages (graph : Graph) : List Stage :=
  graph.stages.filter fun stage => stage.output.startsWith "a_"

/-- The stage that writes a label. -/
def stageFor? (graph : Graph) (label : String) : Option Stage :=
  graph.stages.find? fun stage => stage.output = label

end Graph

end Montage
