import Montage.Number.Quantity
import Montage.Text.Blank
import Montage.Text.Quoted

/-!
# Failures

Everything that can go wrong is a value of `Failure`. A failure states its cause; the wording is in
one place, `Failure.message`. Faults found in data carry the path to where they were found, and all
faults of one piece of data are reported together.
-/

namespace Montage

/-! ## Faults in data -/

/-- One step of a path into data. -/
inductive Segment where
  | field (name : String)
  | item (index : Nat)
deriving Repr, DecidableEq

/-- A rule that ties several fields of one record together. -/
inductive Rule where
  | rangeOrder (start stop : Int)
  | anchorOrder
  | trimOrder
  | heroBounds
  | knownPreset (name : String) (known : List String)
deriving Repr, DecidableEq

namespace Rule

def message : Rule → String
  | rangeOrder start stop => s!"FrameRange end ({stop}) must be >= start ({start})"
  | anchorOrder => "Anchor end_frame must be >= start_frame"
  | trimOrder => "trim_end_frame must be greater than trim_start_frame"
  | heroBounds => "Leaf with a hero_key must declare bounds"
  | knownPreset name known =>
    s!"Unknown encoder preset '{name}', expected one of " ++ ", ".intercalate known

end Rule

/-- Why a piece of data is refused. -/
inductive Cause where
  | missing
  | notInteger
  | fractionalInteger
  | unreadableInteger
  | notNumber
  | unreadableNumber
  | notBoolean
  | unreadableBoolean
  | notText
  | emptyText
  | notChoice (names : List String)
  | notLiteral (names : List String)
  | notRecord (name : String)
  | notList
  | notTable
  | notVariant
  | noTag
  | unknownTag (tag : String) (known : List String)
  | below (bound : Int)
  | notAbove (bound : Int)
  | above (bound : Int)
  | broken (rule : Rule)
deriving Repr, DecidableEq

namespace Cause

def kind : Cause → String
  | missing => "missing"
  | notInteger => "int_type"
  | fractionalInteger => "int_from_float"
  | unreadableInteger => "int_parsing"
  | notNumber => "float_type"
  | unreadableNumber => "float_parsing"
  | notBoolean => "bool_type"
  | unreadableBoolean => "bool_parsing"
  | notText => "string_type"
  | emptyText => "string_too_short"
  | notChoice _ => "enum"
  | notLiteral _ => "literal_error"
  | notRecord _ => "model_type"
  | notList => "tuple_type"
  | notTable => "dict_type"
  | notVariant => "model_attributes_type"
  | noTag => "union_tag_not_found"
  | unknownTag .. => "union_tag_invalid"
  | below _ => "greater_than_equal"
  | notAbove _ => "greater_than"
  | above _ => "less_than_equal"
  | broken _ => "value_error"

def message : Cause → String
  | missing => "Field required"
  | notInteger => "Input should be a valid integer"
  | fractionalInteger => "Input should be a valid integer, got a number with a fractional part"
  | unreadableInteger => "Input should be a valid integer, unable to parse string as an integer"
  | notNumber => "Input should be a valid number"
  | unreadableNumber => "Input should be a valid number, unable to parse string as a number"
  | notBoolean => "Input should be a valid boolean"
  | unreadableBoolean => "Input should be a valid boolean, unable to interpret input"
  | notText => "Input should be a valid string"
  | emptyText => "String should have at least 1 character"
  | notChoice names => s!"Input should be {Text.choices names}"
  | notLiteral names => s!"Input should be {Text.choices names}"
  | notRecord name => s!"Input should be a valid dictionary or instance of {name}"
  | notList => "Input should be a valid tuple"
  | notTable => "Input should be a valid dictionary"
  | notVariant => "Input should be a valid dictionary or object to extract fields from"
  | noTag => "Unable to extract tag using discriminator 'kind'"
  | unknownTag tag known =>
    s!"Input tag '{tag}' found using 'kind' does not match any of the expected tags: " ++
      ", ".intercalate (known.map fun name => s!"'{name}'")
  | below bound => s!"Input should be greater than or equal to {bound}"
  | notAbove bound => s!"Input should be greater than {bound}"
  | above bound => s!"Input should be less than or equal to {bound}"
  | broken rule => s!"Value error, {rule.message}"

end Cause

/-- A fault in data: where it is and why. -/
structure Fault where
  path : List Segment
  cause : Cause
deriving Repr, DecidableEq

/-! ## Failures of an operation -/

/-- What is placed on the timeline. -/
inductive Placed where
  | clip (name : String)
  | anchor (name : String)
  | track (name : String)
deriving Repr, DecidableEq

namespace Placed

/-- The placed thing as the subject of a sentence. -/
def subject : Placed → String
  | clip name => s!"Embedded video {name}"
  | anchor name => s!"Anchor '{name}'"
  | track name => s!"Track {name}"

end Placed

/-- A configuration that cannot be used. -/
inductive Misconfiguration where
  | negativeDuration (duration : Int)
  | fpsNotPositive (fps : Int)
  | endBeforeStart (start stop : Quantity)
  | tooFewKeyframes (count : Int)
  | frameOutside (frame start stop : Int)
  | negativeStart (what : Placed) (start : Int)
  | negativeSpan (what : Placed) (start stop : Int)
  | fpsMismatch (encoding timeline : Int)
  | sizeMismatch (encodingWidth encodingHeight timelineWidth timelineHeight : Int)
  | invalidManifest (faults : List Fault)
  | invalidAnchors (faults : List Fault)
  | fileNotFound (path : String)
  | invalidJson (path : String)
  | notAnObject (path : String)

namespace Misconfiguration

def message : Misconfiguration → String
  | negativeDuration duration => s!"Duration must be >= 0, got {duration}"
  | fpsNotPositive fps => s!"fps must be positive, got {fps}"
  | endBeforeStart start stop => s!"End time {stop.text}s is before start time {start.text}s"
  | tooFewKeyframes count => s!"keyframes requires count >= 2, got {count}"
  | frameOutside frame start stop => s!"Frame {frame} is outside {start}..{stop}"
  | negativeStart what start => s!"{what.subject} resolves to negative start frame {start}"
  | negativeSpan what start stop =>
    s!"{what.subject} resolves to negative duration ({start} -> {stop})"
  | fpsMismatch encoding timeline =>
    s!"Encoding fps ({encoding}) does not match timeline fps ({timeline})"
  | sizeMismatch ew eh tw th =>
    s!"Encoding size {ew}x{eh} does not match timeline size {tw}x{th}"
  | invalidManifest _ => "Invalid render manifest"
  | invalidAnchors _ => "Invalid anchors table"
  | fileNotFound path => s!"File not found: {path}"
  | invalidJson path => s!"Invalid JSON in {path}"
  | notAnObject path => s!"Expected a JSON object in {path}"

end Misconfiguration

/-- A name that refers to something unknown. -/
inductive Reference where
  | anchor (name : String)
  | hero (key : String) (fromScene toScene : Int)
deriving Repr, DecidableEq

namespace Reference

def kind : Reference → String
  | anchor _ => "anchor"
  | hero .. => "hero"

def name : Reference → String
  | anchor name => name
  | hero key _ _ => key

def message : Reference → String
  | anchor name => s!"Unresolved anchor reference: {name}"
  | hero key fromScene toScene =>
    s!"No hero registrations for '{key}' between scenes {fromScene} and {toScene}"

end Reference

/-- How the use of a label breaks the rules of a filter graph. -/
inductive LabelFault where
  | assignedTwice
  | consumedEarly
  | consumedTwice
  | neverConsumed
deriving Repr, DecidableEq

namespace LabelFault

def reason : LabelFault → String
  | assignedTwice => "assigned twice"
  | consumedEarly => "consumed before it was produced"
  | consumedTwice => "consumed twice"
  | neverConsumed => "is never consumed"

end LabelFault

/-- A text that is not the name of what it should name. -/
inductive Unnamed where
  | curve (text : String)
  | quality (text : String)
  | logLevel (text : String)
deriving Repr, DecidableEq

namespace Unnamed

def message : Unnamed → String
  | curve text => s!"{Text.quoted text} is not a valid EasingCurve"
  | quality text => s!"{Text.quoted text} is not a valid RenderQuality"
  | logLevel text => s!"Unknown level: {Text.quoted text}"

end Unnamed

/-- Why an operation failed. -/
inductive Failure where
  | configuration (cause : Misconfiguration)
  | unresolved (reference : Reference)
  | label (name : String) (fault : LabelFault)
  | encoder (command : List String) (exitCode : Int) (stderr : String)
  | arithmetic (fault : ArithmeticFault)
  | unnamed (name : Unnamed)
  | invalid (faults : List Fault)

namespace Failure

/-- The text of a failure. Faults in data have no text of their own beyond their details. -/
def message : Failure → String
  | configuration cause => cause.message
  | unresolved reference => reference.message
  | label name fault => s!"Filter label '{name}' {fault.reason}"
  | encoder _ exitCode stderr =>
    let tail := Text.orElse (Text.lastLine (Text.strip stderr)) "no output"
    s!"Encoder exited with code {exitCode}: {tail}"
  | arithmetic fault => fault.message
  | unnamed name => name.message
  | invalid _ => "Invalid data"

def faults : Failure → List Fault
  | invalid faults => faults
  | configuration (.invalidManifest faults) => faults
  | configuration (.invalidAnchors faults) => faults
  | _ => []

end Failure

/-- Arithmetic faults are failures of the operation they occur in. -/
instance : MonadLift (Except ArithmeticFault) (Except Failure) where
  monadLift
    | .ok value => .ok value
    | .error fault => .error (.arithmetic fault)

end Montage
