import Montage.Command
import Montage.Data.Printer
import Montage.Logging
import Montage.Options
import Montage.Schema.Manifest

/-!
# The program

The command line program reads a manifest, compiles it, and prints the command. `Program.run` is the
whole of it as a function of its arguments, its settings and the files it may read; what it writes
is part of its result.
-/

namespace Montage

/-- How the program ends. -/
inductive Outcome where
  /-- The command line was not carried out. -/
  | usage (usage : Usage)
  /-- It ended with an exit code, a text on standard output, and log entries. -/
  | finished (exitCode : Nat) (stdout : String) (logging : Logging)
  /-- It was stopped by a failure that it does not report itself. -/
  | stopped (failure : Failure)

namespace Program

/-- The name of the program. -/
def name : String := "framegraph-compile"

/-- The line on standard error for a wrong command line. -/
def usageLine (usage : Usage) : String :=
  s!"{name}: error: {usage.message}"

/-- The exit code for a failure to compile, and for a wrong command line. -/
def failureCode : Nat := 2

/-- The fields of the object in a file. -/
def load (read? : String → Option String) (path : String) : Except Failure (Entries Data) :=
  match read? path with
  | none => .error (.configuration (.fileNotFound path))
  | some document =>
    match Data.parse? document with
    | none => .error (.configuration (.invalidJson path))
    | some data =>
      match data with
      | .object fields => .ok fields
      | _ => .error (.configuration (.notAnObject path))

/-- A text that is given and not empty. -/
def given (text : Option String) : Option String :=
  text.filter (!·.isEmpty)

variable (settings : Settings) (read? : String → Option String) (options : Options)

/-- The manifest that the options name, with the output path that they give. -/
def manifest : Except Failure Manifest := do
  let fields ← load read? options.manifest
  -- before the check, as a manifest may leave its path to the options
  let fields := match given options.output with
    | none => fields
    | some path => Entries.insert "output_path" (.text path) fields
  Manifest.load settings.audioBitrate (.object fields)

/-- The anchors that the options name. -/
def anchors : Except Failure (Table Anchor) :=
  match given options.anchors with
  | none => .ok .empty
  | some path => do Anchor.tableOfFields (← load read? path)

/-- The manifest and the anchors that the options name. -/
def loadAll : Except Failure (Manifest × Table Anchor) := do
  let manifest ← manifest settings read? options
  let anchors ← anchors read? options
  return (manifest, anchors)

/-- The report of the command that the options ask for. -/
def reportCommand : Report Command := do
  let (manifest, anchors) ← loadAll settings read? options
  manifest.reportCompile settings anchors "" options.strictSync

/-- A command in a format. -/
def print (format : OutputFormat) (command : Command) : String :=
  match format with
  | .args => "\n".intercalate command.arguments ++ "\n"
  | .shell => command.shell ++ "\n"
  | .json => Data.renderLines command.arguments ++ "\n"

/-- The failure is reported by the program. -/
def isReported : Failure → Bool
  | .configuration _ | .unresolved _ => true
  | _ => false

/-- Compiles what the options name. -/
def compile (logging : Logging) : Outcome :=
  let report := reportCommand settings read? options
  let told := logging.writeAll report.entries
  match report.result with
  | .ok command => .finished 0 (print options.format command) told
  | .error failure =>
    if isReported failure then
      .finished failureCode ""
        (told.write ⟨.error, Log.program, s!"Compilation failed: {failure.message}"⟩)
    else .stopped failure

/-- Runs the program. -/
def run (logging : Logging) (arguments : List String) : Outcome :=
  match Options.parse settings.strictSync arguments with
  | .error usage => .usage usage
  | .ok options =>
    match logging.configure options.logLevel settings.logFile with
    | (_, some failure) => .stopped failure
    | (configured, none) => compile settings read? options configured

end Program

end Montage
