import Montage.Main
import Montage.Proofs.Command
import Montage.Proofs.Content.Start
import Montage.Proofs.Content.Window
import Montage.Proofs.Cue
import Montage.Proofs.Graph.Legible
import Montage.Proofs.Graph.Pruning
import Montage.Proofs.Graph.Sound
import Montage.Proofs.Graph.Window
import Montage.Proofs.Manifest
import Montage.Proofs.Refusal
import Montage.Proofs.Registry
import Montage.Proofs.Schema.Model
import Montage.Proofs.Tiling
import Montage.Schema.Frames
import Montage.Schema.Hero
import Montage.Schema.Timeline
import Montage.Proofs.Graph.Readers
import Montage.Proofs.Content.Complete
import Montage.Proofs.Graph.Cuts
import Montage.Proofs.Graph.Succession
import Montage.Proofs.Graph.Unison
import Montage.Proofs.Passes
import Montage.Proofs.Number.Canonical
import Montage.Proofs.FrameRange.Keyframes
import Montage.Proofs.FrameRange.Algebra
import Montage.Proofs.Number.Unpacked
import Montage.Proofs.Shell
import Montage.Proofs.Number.Order
import Montage.Proofs.Number.Sum
import Montage.Proofs.FrameRange.Seconds
import Montage.Proofs.Timing
import Montage.Proofs.Transition
import Montage.Proofs.Hero
import Montage.Proofs.Fade
