import Keyspace.KeyList
import Keyspace.Operation

/-!
Sessions: steps that build on one another.

A session collects keys, assigns them, and looks at their distribution. A step that fails leaves the
session as it was, but decisions that it took stay taken.
-/

namespace Keyspace

/-- What the steps of a session have come to. -/
structure Session where
  keys : List Text
  records : List Assignment
  summary : Distribution
  pieces : List Pattern.Piece

namespace Session

/-- The distribution of no keys over no partitions. -/
def noSummary : Distribution := ⟨0, 0, [], 0, 0, 0.0, 0.0⟩

/-- A session before its first step. -/
def empty : Session := ⟨[], [], noSummary, []⟩

/-- One step. -/
inductive Step where
  /-- Parses a pattern for the steps that draw single keys. -/
  | compile (pattern : Text)
  /-- Adds one key of the parsed pattern. -/
  | generateOne
  /-- Adds keys of a pattern of their own. -/
  | generateMany (pattern : Text) (count : Value)
  /-- Adds the keys that a text lists. -/
  | addRaw (raw : Text)
  /-- Forgets the keys. -/
  | clear
  /-- Assigns all keys. -/
  | analyze (count : Value)
  /-- Summarizes the assignment, possibly over another count. -/
  | summarize (count : Value)
  /-- Lists the hot partitions of the summary. -/
  | hot (factor : Value)
  /-- Tells the share of a partition. -/
  | share (index : Int)
  /-- Tells how many decisions were taken so far. -/
  | draws

/-- What a step answers. -/
inductive Result where
  | number (n : Nat)
  | key (key : Text)
  | keys (keys : List Text)
  | records (records : List Assignment)
  | summary (summary : Distribution)
  | hot (partitions : List Distribution.HotPartition)
  | share (share : Float)

/-- What comes of a step: its result and lines, the session after it, and the state of the source
with the number of decisions taken. -/
structure Outcome (σ : Type) where
  noted : Journal.Noted (Except Error Result)
  session : Session
  state : σ × Nat

/-- The outcome of a step whose operation has come to an end: if it failed, the session stays. -/
def conclude {σ α : Type} (session : Session) (state : σ × Nat)
    (operation : Journal.Noted (Except Error α)) (after : α → Result × Session) : Outcome σ :=
  match operation.result with
  | .error e => ⟨⟨.error e, operation.lines⟩, session, state⟩
  | .ok a =>
    let (result, session) := after a
    ⟨⟨.ok result, operation.lines⟩, session, state⟩

/-- An operation that writes no lines. -/
def silent {α : Type} (result : Except Error α) : Journal.Noted (Except Error α) := ⟨result, []⟩

/-- One step taken, lines being kept from a level on. -/
def step {σ : Type} (source : Sampling.Source σ) (threshold : Journal.Level) (session : Session)
    (state : σ × Nat) : Step → Outcome σ
  | .compile pattern =>
    conclude session state (Operation.compile pattern) fun pieces =>
      (.number pieces.length, { session with pieces })
  | .generateOne =>
    let (key, state) := Sampling.generateOne source.counted session.pieces state
    conclude session state (silent (.ok key)) fun key =>
      (.key key, { session with keys := session.keys ++ [key] })
  | .generateMany pattern count =>
    let (generated, state) := Operation.generate source.counted pattern count state
    conclude session state generated fun added =>
      let keys := session.keys ++ added
      (.keys keys, { session with keys })
  | .addRaw raw =>
    let keys := session.keys ++ KeyList.parse raw
    conclude session state (silent (.ok keys)) fun keys => (.keys keys, { session with keys })
  | .clear =>
    conclude session state (silent (.ok ())) fun _ => (.number 0, { session with keys := [] })
  | .analyze count =>
    conclude session state (Operation.analyze threshold session.keys count) fun records =>
      (.records records, { session with records })
  | .summarize count =>
    let indexes := session.records.map fun r => (r.partition : Int)
    conclude session state (Operation.summarize count indexes) fun summary =>
      (.summary summary, { session with summary })
  | .hot factor =>
    conclude session state (silent (session.summary.hotPartitions factor)) fun hot =>
      (.hot hot, session)
  | .share index =>
    conclude session state (silent (session.summary.share index)) fun share =>
      (.share share, session)
  | .draws => conclude session state (silent (.ok ())) fun _ => (.number state.2, session)

/-- Takes steps in order; `results` holds what came before, last first. -/
def runFrom {σ : Type} (source : Sampling.Source σ) (threshold : Journal.Level)
    (results : List (Journal.Noted (Except Error Result))) (session : Session) (state : σ × Nat) :
    List Step → List (Journal.Noted (Except Error Result))
  | [] => results.reverse
  | s :: rest =>
    let outcome := step source threshold session state s
    runFrom source threshold (outcome.noted :: results) outcome.session outcome.state rest

/-- What each step of a fresh session comes to. -/
def run {σ : Type} (source : Sampling.Source σ) (threshold : Journal.Level) (s : σ)
    (steps : List Step) : List (Journal.Noted (Except Error Result)) :=
  runFrom source threshold [] empty (s, 0) steps

end Session

end Keyspace
