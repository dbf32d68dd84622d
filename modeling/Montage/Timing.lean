import Montage.Log
import Montage.Scene

/-!
# Timing contexts

A timing context is the window of frames that a scene or a group opens for its children, with the
lengths of its entry and exit phases. Its inherited offset is the sum of the offsets of all groups
around it, so the innermost context of a chain says all that is needed to place a child. Offsets may
be negative and let a child begin before its parent has entered.
-/

namespace Montage

/-- A window of frames with entry and exit phases; without a stop it is open. -/
structure TimingContext where
  start : Int
  entryDuration : Int
  exitDuration : Int
  stop : Option Int
  inheritedOffset : Int
deriving Repr, DecidableEq

namespace TimingContext

variable (context : TimingContext)

/-- The frame at which the entry phase is complete. -/
def entryComplete : Int :=
  context.start + context.entryDuration

/-- The frame at which the exit phase begins. -/
def exitStart : Option Int :=
  context.stop.map (· - context.exitDuration)

/-- The frame from which the window's children are placed: its start, or the end of its entry. -/
def base (afterEntry : Bool) : Int :=
  if afterEntry then context.entryComplete else context.start

/-- The frame at which a child starts that is placed at an offset from the base. -/
def effectiveStart (offset : Int) (afterEntry : Bool) : Int :=
  context.base afterEntry + offset + context.inheritedOffset

/-- The frame at which a child ends, an offset before the window's end or before its exit. -/
def effectiveStop (offset : Int) (beforeExit : Bool) : Option Int :=
  (if beforeExit then context.exitStart else context.stop).map (· - offset)

def inEntry (frame : Int) : Bool :=
  context.start ≤ frame && frame < context.entryComplete

def inExit (frame : Int) : Bool :=
  match context.exitStart, context.stop with
  | some exitStart, some stop => exitStart ≤ frame && frame < stop
  | _, _ => false

/-! ## Windows inside a window -/

/-- The frame at which a group starts, without the offsets inherited around it. -/
def groupStart (group : Group) : Int :=
  context.base group.afterParentEntry + group.start

/-- The frame at which a group would end by its own duration and the end of its parent. -/
def groupLimit (group : Group) : Option Int :=
  match group.duration, context.stop with
  | none, stop => stop
  | some duration, none => some (context.groupStart group + duration)
  | some duration, some stop => some (min (context.groupStart group + duration) stop)

/-- The group starts after its parent has ended. -/
def startsLate (group : Group) : Bool :=
  match context.groupLimit group with
  | none => false
  | some limit => limit < context.groupStart group

/-- The window that a group opens. It does not outlive its parent, but for an empty one that starts
after its parent has ended. -/
def child (group : Group) : TimingContext where
  start := context.groupStart group
  entryDuration := group.entryDuration
  exitDuration := group.exitDuration
  stop := (context.groupLimit group).map fun limit => max limit (context.groupStart group)
  inheritedOffset := context.inheritedOffset + group.offset

def groupNotes (group : Group) : List Log.Entry :=
  match context.groupLimit group with
  | none => []
  | some limit =>
    if context.startsLate group then
      [⟨.debug, Log.timing, s!"Container '{group.name}' starts at {context.groupStart group} " ++
        s!"after its parent ends at {limit}"⟩]
    else []

/-- The same window with an offset added to the inherited one. -/
def shifted (offset : Int) : TimingContext :=
  { context with inheritedOffset := context.inheritedOffset + offset }

/-- The chain of contexts that one offset after the other opens inside a root, innermost first. -/
def nest (root : TimingContext) (offsets : List Int) : List TimingContext :=
  offsets.foldl
    (fun chain offset =>
      match chain with
      | innermost :: rest => innermost.shifted offset :: innermost :: rest
      | [] => [])
    [root]

end TimingContext

/-! ## Chains of contexts -/

namespace Chain

variable (chain : List TimingContext)

/-- The start of a child of the innermost context; without a context, its offset. -/
def effectiveStart (offset : Int) (afterEntry : Bool) : Int :=
  match chain with
  | [] => offset
  | innermost :: _ => innermost.effectiveStart offset afterEntry

/-- The end of a child of the innermost context, or nothing when it is open. -/
def effectiveStop (offset : Int) (beforeExit : Bool) : Option Int :=
  match chain with
  | [] => none
  | innermost :: _ => innermost.effectiveStop offset beforeExit

/-- The window of a child, or nothing when the context is open or the window would be inverted. -/
def window (startOffset stopOffset : Int) (afterEntry beforeExit : Bool) : Option FrameRange := do
  let start := effectiveStart chain startOffset afterEntry
  let stop ← effectiveStop chain stopOffset beforeExit
  if h : start ≤ stop then some ⟨start, stop, h⟩ else none

end Chain

end Montage
