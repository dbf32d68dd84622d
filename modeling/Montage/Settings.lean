import Montage.Path
import Montage.Table

/-!
# Settings from the environment

Every setting has a variable of its own. Blanks around a value are dropped, and a blank value counts
as none.
-/

namespace Montage

/-- The settings that are in force. -/
structure Settings where
  encoder : String
  audioBitrate : String
  strictSync : Bool
  logFile : Option Path
deriving Repr, DecidableEq

namespace Settings

/-- The value of a variable without the blanks around it, or nothing when it is blank. -/
def value? (environment : Table String) (name : String) : Option String :=
  match Text.strip ((Table.get? name environment).getD "") with
  | "" => none
  | value => some value

/-- The words that switch a setting on, in any case. -/
def truthy : List String :=
  ["1", "true", "yes", "on"]

/-- The settings of an environment. A relative log file is inside the home directory. -/
def ofEnvironment (home : Path) (environment : Table String) : Settings where
  encoder := (value? environment "FFMPEG_BIN").getD "ffmpeg"
  audioBitrate := (value? environment "FRAMEGRAPH_AUDIO_BITRATE").getD "192k"
  strictSync := ((value? environment "FRAMEGRAPH_STRICT_SYNC").map Text.small).any (· ∈ truthy)
  logFile := (value? environment "FRAMEGRAPH_LOG_FILE").map fun value =>
    home.append (Path.ofText value)

end Settings

end Montage
