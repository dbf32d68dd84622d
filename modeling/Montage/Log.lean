/-!
# Log entries

What an operation has to tell besides its result is a list of entries, in the order in which they
are made. When an operation fails, its entries are those up to the failure.
-/

namespace Montage.Log

/-- How serious an entry is. -/
inductive Level where
  | debug
  | info
  | warning
  | error
  | critical
deriving Repr, DecidableEq

namespace Level

def all : List Level :=
  [debug, info, warning, error, critical]

def name : Level → String
  | debug => "DEBUG"
  | info => "INFO"
  | warning => "WARNING"
  | error => "ERROR"
  | critical => "CRITICAL"

/-- The rank of a level. Rank zero is below every level. -/
def rank : Level → Nat
  | debug => 10
  | info => 20
  | warning => 30
  | error => 40
  | critical => 50

def rankOf? (name : String) : Option Nat :=
  if name = "NOTSET" then some 0
  else if name = "WARN" then some warning.rank
  else if name = "FATAL" then some critical.rank
  else (all.find? fun level => level.name = name).map rank

def nameOfRank (rank : Nat) : String :=
  ((all.find? fun level => level.rank = rank).map name).getD "NOTSET"

end Level

/-- One thing that was told: how serious it is, who tells it, and its text. -/
structure Entry where
  level : Level
  logger : String
  text : String
deriving Repr, DecidableEq

/-! ## Loggers -/

/-- The logger above all others of the library. -/
def program : String := "framegraph"

def timing : String := "framegraph.operators.timing_operator"

def timeline : String := "framegraph.operators.timeline_operator"

def sync : String := "framegraph.operators.sync_operator"

def hero : String := "framegraph.operators.hero_operator"

def graph : String := "framegraph.utils.filter_graph"

def command : String := "framegraph.utils.ffmpeg_builder"

/-- The entries at a level or above. -/
def atLeast (level : Level) (entries : List Entry) : List Entry :=
  entries.filter fun entry => level.rank ≤ entry.level.rank

end Montage.Log
