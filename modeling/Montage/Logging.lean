import Montage.Failure
import Montage.Log
import Montage.Path
import Montage.Table
import Montage.Text.Capital

/-!
# Where log entries go

A `Logging` state holds the outlets that are open and what has been written to them. Until it is
configured, only warnings and worse are written, to the console and without their level. Configuring
opens the console for all loggers at a level, the first time only, and a log file for the loggers of
the library. Their level is set anew whenever a file is asked for.
-/

namespace Montage

/-- Open outlets and what was written to them. -/
structure Logging where
  consoleOpen : Bool
  /-- The least rank that is written for loggers outside the library. -/
  rootRank : Nat
  /-- The least rank that is written for loggers of the library; zero stands for the rank of others.
  -/
  libraryRank : Nat
  /-- The log files that are attached, each as often as it was attached. -/
  outlets : List Path
  console : List String
  /-- The texts in each log file, by path. -/
  files : Table (List String)

namespace Logging

/-- The state before anything is configured. -/
def fresh : Logging where
  consoleOpen := false
  rootRank := Log.Level.warning.rank
  libraryRank := 0
  outlets := []
  console := []
  files := .empty

/-! ## Configuration -/

/-- The state with a log file attached. An attached file has no points in its path, so one that is
asked for with points is attached each time. -/
def attach (logging : Logging) (path : Path) : Logging :=
  if logging.outlets.any fun outlet => outlet.text = path.text then logging
  else
    let file := path.collapsed
    let texts := (Table.get? file.text logging.files).getD []
    { logging with
      outlets := logging.outlets ++ [file]
      files := Table.insert file.text texts logging.files }

/-- The state with the console open and possibly a log file attached, at the level of a name in any
case. An unknown name is refused where a level has to be set, after the console was opened. -/
def configure (logging : Logging) (level : Option String) (path : Option Path) :
    Logging × Option Failure :=
  let name := Text.capitals (Text.orElse (level.getD "") Log.Level.info.name)
  let unknown := some (Failure.unnamed (.logLevel name))
  let opened := { logging with consoleOpen := true }
  match Log.Level.rankOf? name, path with
  | some rank, path =>
    -- the first configuration decides about the console
    let opened := if logging.consoleOpen then opened else { opened with rootRank := rank }
    match path with
    | none => (opened, none)
    | some path => ({ opened with libraryRank := rank }.attach path, none)
  | none, none => (opened, if logging.consoleOpen then none else unknown)
  | none, some _ => (opened, unknown)

/-! ## Writing -/

/-- The logger belongs to the library. -/
def isLibrary (logger : String) : Bool :=
  logger = Log.program || logger.startsWith (Log.program ++ ".")

/-- The least rank that is written for a logger. -/
def rankFor (logging : Logging) (logger : String) : Nat :=
  if isLibrary logger && logging.libraryRank ≠ 0 then logging.libraryRank else logging.rootRank

def entryText (entry : Log.Entry) : String :=
  s!"{entry.level.name} [{entry.logger}] {entry.text}"

/-- The log files with a text at the end of one. -/
def appendText (text : String) (files : Table (List String)) (path : Path) : Table (List String) :=
  Table.insert path.text ((Table.get? path.text files).getD [] ++ [text]) files

def write (logging : Logging) (entry : Log.Entry) : Logging :=
  let text := entryText entry
  let outlets := if isLibrary entry.logger then logging.outlets else []
  if entry.level.rank < logging.rankFor entry.logger then logging
  else if logging.consoleOpen || !outlets.isEmpty then
    { logging with
      console := if logging.consoleOpen then logging.console ++ [text] else logging.console
      files := outlets.foldl (appendText text) logging.files }
  -- nothing is open, so the text goes to the console of last resort
  else if Log.Level.warning.rank ≤ entry.level.rank then
    { logging with console := logging.console ++ [entry.text] }
  else logging

/-- The state after entries, one after the other. -/
def writeAll (logging : Logging) (entries : List Log.Entry) : Logging :=
  entries.foldl write logging

end Logging

end Montage
