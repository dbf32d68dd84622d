import Montage.Text.Digit
import Montage.Text.Quoted

/-!
# Command line options

`Options.parse` reads an argument list. A long option may be cut short as long as it is not
ambiguous, and may have its value behind an equals sign; the last of a repeated option is kept.
Every argument is classified first, so an ambiguous one is reported before anything else; what
belongs to no option is reported last.
-/

namespace Montage

/-- How a command is printed. -/
inductive OutputFormat where
  | args
  | shell
  | json
deriving Repr, DecidableEq

namespace OutputFormat

def all : List OutputFormat :=
  [args, shell, json]

def name : OutputFormat → String
  | args => "args"
  | shell => "shell"
  | json => "json"

end OutputFormat

/-- What a command line asks for. -/
structure Options where
  manifest : String
  output : Option String
  anchors : Option String
  format : OutputFormat
  strictSync : Bool
  logLevel : Option String
deriving Repr, DecidableEq

/-- An option of the command line. -/
inductive Flag where
  | help
  | manifest
  | output
  | anchors
  | format
  | strictSync
  | logLevel
deriving Repr, DecidableEq

namespace Flag

def all : List Flag :=
  [help, manifest, output, anchors, format, strictSync, logLevel]

/-- How an option is written. -/
def spellings : Flag → List String
  | help => ["-h", "--help"]
  | manifest => ["--manifest"]
  | output => ["--output"]
  | anchors => ["--anchors"]
  | format => ["--format"]
  | strictSync => ["--strict-sync"]
  | logLevel => ["--log-level"]

/-- The option is followed by a value. -/
def takesValue : Flag → Bool
  | help | strictSync => false
  | _ => true

def shown (flag : Flag) : String :=
  "/".intercalate flag.spellings

def table : List (String × Flag) :=
  all.flatMap fun flag => flag.spellings.map fun spelling => (spelling, flag)

/-- The option with a spelling. -/
def ofSpelling? (text : String) : Option Flag :=
  (table.find? fun (spelling, _) => spelling = text).map Prod.snd

end Flag

/-- Why a command line is not carried out: it asks for help, or it is wrong. -/
inductive Usage where
  | help
  | ambiguous (text : String) (spellings : List String)
  | valueExpected (flag : Flag)
  | valueIgnored (flag : Flag) (value : String)
  | unknownFormat (value : String)
  | manifestMissing
  | unrecognized (texts : List String)
deriving Repr, DecidableEq

namespace Usage

def message : Usage → String
  | help => ""
  | ambiguous text spellings =>
    s!"ambiguous option: {text} could match " ++ ", ".intercalate spellings
  | valueExpected flag => s!"argument {flag.shown}: expected one argument"
  | valueIgnored flag value =>
    s!"argument {flag.shown}: ignored explicit argument {Text.quoted value}"
  | unknownFormat value =>
    s!"argument {Flag.format.shown}: invalid choice: {Text.quoted value} (choose from " ++
      ", ".intercalate (OutputFormat.all.map fun format => Text.quoted format.name) ++ ")"
  | manifestMissing => s!"the following arguments are required: {Flag.manifest.shown}"
  | unrecognized texts => "unrecognized arguments: " ++ " ".intercalate texts

end Usage

/-! ## Classification -/

/-- What an argument is. -/
inductive Word where
  | plain (text : String)
  | option (flag : Flag) (value : Option String)
  | unknown (text : String)
  /-- Two dashes, after which every argument is plain. -/
  | separator
deriving Repr, DecidableEq

namespace Word

/-- A text is a negative number: a dash, digits, and possibly a point with digits after it. A line
break at the end is overlooked. -/
def isNegativeNumber (cs : List Char) : Bool :=
  match cs with
  | '-' :: body =>
    let body := if body.getLast? = some '\n' then body.dropLast else body
    let rest := body.dropWhile Text.isDecimalDigit
    match rest with
    | [] => !body.isEmpty
    | '.' :: places => !places.isEmpty && places.all Text.isDecimalDigit
    | _ => false
  | _ => false

/-- The parts of a text before and after its first equals sign. -/
def splitValue (cs : List Char) : String × Option String :=
  let value := match cs.dropWhile (· ≠ '=') with
    | [] => none
    | _ :: rest => some (String.ofList rest)
  (String.ofList (cs.takeWhile (· ≠ '=')), value)

/-- The options that a text with two dashes may be short for, and the value behind it. -/
def longMatches (cs : List Char) : List (String × Word) :=
  let (name, value) := splitValue cs
  (Flag.table.filter fun (spelling, _) => spelling.startsWith name).map fun (spelling, flag) =>
    (spelling, option flag value)

/-- The options with one dash and one letter that a text begins with; what follows is the value. -/
def shortMatches (cs : List Char) : List (String × Word) :=
  (Flag.table.filter fun (spelling, _) => spelling = String.ofList (cs.take 2)).map
    fun (spelling, flag) => (spelling, option flag (some (String.ofList (cs.drop 2))))

/-- An argument that is not written in full as an option. -/
def guess (text : String) : Except Usage Word :=
  let cs := text.toList
  match if text.startsWith "--" then longMatches cs else shortMatches cs with
  | [(_, word)] => .ok word
  | [] =>
    -- these may be values that only look like options
    if isNegativeNumber cs || cs.contains ' ' then .ok (plain text) else .ok (unknown text)
  | several => .error (.ambiguous text (several.map Prod.fst))

/-- What an argument is. -/
def ofText (text : String) : Except Usage Word :=
  if !text.startsWith "-" || text = "-" then .ok (plain text)
  else
    let (name, value) := splitValue text.toList
    match Flag.ofSpelling? text, Flag.ofSpelling? name with
    | some flag, _ => .ok (option flag none)
    | none, some flag => .ok (option flag value)
    | none, none => guess text

/-- What each of the arguments is. -/
def ofList : List String → Except Usage (List Word)
  | [] => .ok []
  | text :: rest =>
    -- everything behind it is plain, also another one
    if text = "--" then .ok (separator :: rest.map plain)
    else do
      let word ← ofText text
      let words ← ofList rest
      return word :: words

end Word

/-! ## Reading -/

/-- The options that have been read so far, and the arguments that belong to none. -/
structure Progress where
  manifest : Option String
  output : Option String
  anchors : Option String
  format : OutputFormat
  strictSync : Bool
  logLevel : Option String
  extras : List String

namespace Progress

/-- Nothing has been read. -/
def start (strictSync : Bool) : Progress where
  manifest := none
  output := none
  anchors := none
  format := .shell
  strictSync := strictSync
  logLevel := none
  extras := []

/-- An option with its value. -/
def set (progress : Progress) (flag : Flag) (value : String) : Except Usage Progress :=
  match flag with
  | .manifest => .ok { progress with manifest := some value }
  | .output => .ok { progress with output := some value }
  | .anchors => .ok { progress with anchors := some value }
  | .logLevel => .ok { progress with logLevel := some value }
  | .format =>
    match OutputFormat.all.find? fun format => format.name = value with
    | some format => .ok { progress with format := format }
    | none => .error (.unknownFormat value)
  | .help | .strictSync => .ok progress

def switch (progress : Progress) (flag : Flag) : Except Usage Progress :=
  if flag = .help then .error .help else .ok { progress with strictSync := true }

/-- An argument that belongs to no option. -/
def leave (progress : Progress) (text : String) : Progress :=
  { progress with extras := progress.extras ++ [text] }

/-- Reads arguments one after the other. -/
def read (progress : Progress) : List Word → Except Usage Progress
  | [] => .ok progress
  | .plain text :: rest => (progress.leave text).read rest
  | .unknown text :: rest => (progress.leave text).read rest
  | .separator :: rest => (progress.leave "--").read rest
  | .option flag (some value) :: rest =>
    if flag.takesValue then do
      let next ← progress.set flag value
      next.read rest
    else .error (.valueIgnored flag value)
  | .option flag none :: .plain value :: rest =>
    if flag.takesValue then do
      let next ← progress.set flag value
      next.read rest
    else do
      let next ← progress.switch flag
      (next.leave value).read rest
  | .option flag none :: rest =>
    if flag.takesValue then .error (.valueExpected flag)
    else do
      let next ← progress.switch flag
      next.read rest

/-- The options, when the one that has to be there is, and no argument is left. -/
def finish (progress : Progress) : Except Usage Options :=
  match progress.manifest with
  | none => .error .manifestMissing
  | some manifest =>
    if progress.extras.isEmpty then
      .ok {
        manifest := manifest
        output := progress.output
        anchors := progress.anchors
        format := progress.format
        strictSync := progress.strictSync
        logLevel := progress.logLevel }
    else .error (.unrecognized progress.extras)

end Progress

namespace Options

/-- Reads an argument list, with the strictness that is in force without an option. -/
def parse (strictSync : Bool) (arguments : List String) : Except Usage Options := do
  let words ← Word.ofList arguments
  let progress ← (Progress.start strictSync).read words
  progress.finish

end Options

end Montage
