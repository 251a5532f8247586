import Keyspace.Error
import Keyspace.Text.Uppercase

/-!
The journal: lines with a level, and which of them a sink keeps.

Lines are values that operations answer beside their result. A message is put into words only where
a sink takes it, so an operation may fail for its line, but only where the line would be kept.
-/

namespace Keyspace.Journal

/-- How grave a line is. -/
inductive Level where
  | trace
  | debug
  | info
  | success
  | warning
  | error
  | critical
  deriving DecidableEq

namespace Level

/-- Every level. -/
def all : List Level := [.trace, .debug, .info, .success, .warning, .error, .critical]

/-- The levels as numbers, in their order. -/
def severity : Level → Nat
  | .trace => 5
  | .debug => 10
  | .info => 20
  | .success => 25
  | .warning => 30
  | .error => 40
  | .critical => 50

/-- The name of a level. -/
def name : Level → Text
  | .trace => Text.lit "TRACE"
  | .debug => Text.lit "DEBUG"
  | .info => Text.lit "INFO"
  | .success => Text.lit "SUCCESS"
  | .warning => Text.lit "WARNING"
  | .error => Text.lit "ERROR"
  | .critical => Text.lit "CRITICAL"

/-- The level with a name. -/
def ofName? (t : Text) : Option Level := all.find? (·.name = t)

/-- The level that a configuration names, in letters of either case. -/
def configured (t : Text) : Except Error Level :=
  match ofName? (Text.upper t) with
  | some level => .ok level
  | none => .error (.unknownLevel (Text.upper t))

/-- Whether a sink with this level keeps lines of another. -/
def admits (threshold level : Level) : Bool := threshold.severity ≤ level.severity

end Level

/-- A message and its level. -/
structure Line where
  level : Level
  message : Text

/-- The lines that a sink with the given level keeps, in their order. -/
def kept (threshold : Level) (lines : List Line) : List Line :=
  lines.filter fun line => threshold.admits line.level

/-- A result and the lines written on the way to it. -/
structure Noted (α : Type) where
  result : α
  lines : List Line
  deriving Inhabited

/-- What a run of operations comes to: their results, and the lines that the sink kept. -/
structure Recording (α : Type) where
  results : List α
  lines : List Line

/-- The recording of a run, by a sink with a level or without a sink. -/
def record {α : Type} (sink : Option Level) (run : List (Noted α)) : Recording α :=
  let written := run.flatMap (·.lines)
  ⟨run.map (·.result), match sink with | some level => kept level written | none => []⟩

end Keyspace.Journal
