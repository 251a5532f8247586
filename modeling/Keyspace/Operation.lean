import Keyspace.Assignment
import Keyspace.Distribution
import Keyspace.Journal
import Keyspace.Sampling

/-!
The operations of the library together with the lines that they write.

All lines are at the debug level, and a line is written only when nothing can fail any more but the
line itself: an operation that fails writes none of its own. One line alone can fail, that of a
batch, since it shows the count, whatever its size; the others show lengths of lists.
-/

namespace Keyspace.Operation

open Journal (Level Line Noted)

/-- A line at the debug level. -/
def debug (message : Text) : Line := ⟨.debug, message⟩

/-- A result whose lines depend on it only if it is one. -/
def noted {α : Type} (result : Except Error α) (lines : α → List Line) : Noted (Except Error α) :=
  match result with
  | .ok a => ⟨.ok a, lines a⟩
  | .error e => ⟨.error e, []⟩

theorem result_noted {α : Type} (result : Except Error α) (lines : α → List Line) :
    (noted result lines).result = result := by
  cases result <;> rfl

/-- The line for a pattern that was parsed into pieces. -/
def compiledLine (pattern : Text) (pieces : List Pattern.Piece) : Line :=
  debug (Text.lit "Compiled pattern " ++ Text.quoted pattern ++ Text.lit " into " ++
    Text.ofNat pieces.length ++ Text.lit " pieces")

/-- The message about generated keys. -/
def generatedMessage (pattern : Text) (count : Nat) : Text :=
  Text.lit "Generated " ++ Text.ofNat count ++ Text.lit " keys from pattern " ++ Text.quoted pattern

/-- Parses a pattern. -/
def compile (pattern : Text) : Noted (Except Error (List Pattern.Piece)) :=
  noted ((Pattern.parse pattern).mapError .pattern) fun pieces => [compiledLine pattern pieces]

theorem compile_result (pattern : Text) :
    (compile pattern).result = (Pattern.parse pattern).mapError .pattern :=
  result_noted _ _

/-- Generates keys. The line about the pattern comes before the line about the keys. -/
def generate {σ : Type} (source : Sampling.Source σ) (pattern : Text) (count : Value) (s : σ) :
    Noted (Except Error (List Text)) × σ :=
  let compiled := compile pattern
  match compiled.result with
  | .error e => (⟨.error e, compiled.lines⟩, s)
  | .ok pieces =>
    let (keys, s) := Sampling.generateMany source pieces count s
    (⟨.ok keys, compiled.lines ++ [debug (generatedMessage pattern keys.length)]⟩, s)

/-- The line for a batch that was assigned to `n` partitions. -/
def analyzedLine (n : Nat) (records : List Assignment) : Line :=
  debug (Text.lit "Analyzed " ++ Text.ofNat records.length ++ Text.lit " partition keys across " ++
    Text.ofNat n ++ Text.lit " partitions")

/-- The line for a batch over a count, unless the count has too many digits. -/
def analyzedLine? (count : Value) (records : List Assignment) : Except Error Line := do
  let n ← PartitionCount.normalize count
  if Text.isWritable n then return analyzedLine n records else throw .integerTooLong

/-- A result, and a line for it that may fail. The line is put into words only where a sink keeps
lines of the debug level, and there it fails the whole operation. -/
def announced {α : Type} (threshold : Level) (result : Except Error α)
    (line? : α → Except Error Line) : Noted (Except Error α) :=
  match result with
  | .error e => ⟨.error e, []⟩
  | .ok a =>
    match line? a with
    | .ok line => ⟨.ok a, [line]⟩
    | .error e => ⟨if threshold.admits .debug then .error e else .ok a, []⟩

/-- Assigns keys by a given digest; beside the records, the keys that the digest was asked for. -/
def analyzeWith (threshold : Level) (digest : Text → Except Error Value) (keys : List Text)
    (count : Value) : Noted (Except Error (List Assignment)) × List Text :=
  let batch := Assignment.analyzeWith digest keys count
  (announced threshold batch.outcome (analyzedLine? count), batch.asked)

/-- Assigns keys. -/
def analyze (threshold : Level) (keys : List Text) (count : Value) :
    Noted (Except Error (List Assignment)) :=
  (analyzeWith threshold HashKey.digestOf keys count).1

/-- The line for indexes outside the table, if there are any. -/
def droppedLines (count : Value) (indexes : List Int) : List Line :=
  match PartitionCount.normalize count with
  | .error _ => []
  | .ok n =>
    let dropped := Distribution.dropped n indexes
    if dropped = 0 then []
    else [debug (Text.lit "Ignored " ++ Text.ofNat dropped ++
      Text.lit " out-of-range partition indexes")]

/-- Summarizes partition indexes. -/
def summarize (count : Value) (indexes : List Int) : Noted (Except Error Distribution) :=
  noted (Distribution.summarize count indexes) fun _ => droppedLines count indexes

end Keyspace.Operation
