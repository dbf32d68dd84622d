import Montage.Schema.Record
import Montage.Timing

/-!
# Stored ranges and timing contexts
-/

namespace Montage

open Schema

namespace FrameRange

def ofData : Data → Checked FrameRange :=
  record "FrameRange" fun fields =>
    (Prod.mk <$> field fields "start" integer <*> field fields "end" integer).andThen
      fun (start, stop) =>
        if h : start ≤ stop then pure ⟨start, stop, h⟩
        else Checked.refuse (.broken (.rangeOrder start stop))

def toData (range : FrameRange) : Data :=
  .object [("start", .int range.start), ("end", .int range.stop)]

end FrameRange

namespace TimingContext

def ofData : Data → Checked TimingContext :=
  record "TimingContext" fun fields =>
    TimingContext.mk
      <$> fieldOr fields "context_start" 0 integer
      <*> fieldOr fields "entry_duration" 0 (integerFrom 0)
      <*> fieldOr fields "exit_duration" 0 (integerFrom 0)
      <*> fieldOption fields "context_end" integer
      <*> fieldOr fields "inherited_offset" 0 integer

def toData (context : TimingContext) : Data :=
  .object [
    ("context_start", .int context.start),
    ("entry_duration", .int context.entryDuration),
    ("exit_duration", .int context.exitDuration),
    ("context_end", .ofOption .int context.stop),
    ("inherited_offset", .int context.inheritedOffset)]

end TimingContext

end Montage
