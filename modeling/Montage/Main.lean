import Montage.Program

/-!
# The command line

Reads the environment and the files that the arguments name, runs the program, and writes what it
has to say.
-/

namespace Montage

/-- The variables of the environment that have an effect. -/
def environmentNames : List String :=
  ["FFMPEG_BIN", "FRAMEGRAPH_AUDIO_BITRATE", "FRAMEGRAPH_STRICT_SYNC", "FRAMEGRAPH_LOG_FILE"]

/-- The environment as far as it has an effect. -/
def readEnvironment : IO (Table String) :=
  return Table.ofEntries (← environmentNames.filterMapM fun name => do
    return (← IO.getEnv name).map fun value => (name, value))

/-- The files that the arguments name, as far as they can be read. -/
def readFiles (arguments : List String) : IO (Table String) := do
  match Options.parse false arguments with
  | .error _ => return .empty
  | .ok options =>
    let paths := options.manifest :: options.anchors.toList
    return Table.ofEntries (← paths.filterMapM fun (path : String) => do
      try
        let document ← IO.FS.readFile path
        return some (path, document)
      catch _ => return none)

/-- Adds lines to the end of a file, in a directory that is made when it is not there. -/
def appendLines (path : String) (lines : List String) : IO Unit := do
  IO.FS.createDirAll (Path.ofText path).directory.text
  let handle ← IO.FS.Handle.mk path .append
  lines.forM handle.putStrLn

end Montage

open Montage in
/-- Compiles a render manifest into an encoder command. -/
def main (arguments : List String) : IO UInt32 := do
  let home := Path.ofText (toString (← IO.currentDir))
  let settings := Settings.ofEnvironment home (← readEnvironment)
  let files ← readFiles arguments
  match Program.run settings (Table.get? · files) .fresh arguments with
  | .usage .help =>
    IO.println s!"usage: {Program.name} --manifest MANIFEST [options]"
    return 0
  | .usage usage =>
    IO.eprintln (Program.usageLine usage)
    return 2
  | .stopped failure =>
    IO.eprintln failure.message
    return 1
  | .finished exitCode stdout logging =>
    logging.console.forM fun line => IO.eprintln line
    logging.files.entries.forM fun (path, lines) => appendLines path lines
    IO.print stdout
    return exitCode.toUInt32
