import Keyspace.Decimal.Fixed
import Keyspace.HashKeyRange
import Keyspace.Operation
import Keyspace.Settings.Basic

/-!
The showcase: a printed tour of the library.

Each part prints a heading and then what it shows. A part that fails has printed what came before
the failure, and ends the tour.
-/

namespace Keyspace

/-- The tour over a number of partitions, lines being kept from a level on. -/
structure Showcase where
  settings : Settings
  partitionCount : Value
  threshold : Journal.Level

namespace Showcase

/-- A tour; no count, and a count of zero, stand for the default. -/
def ofCount (settings : Settings) (threshold : Journal.Level) (count : Value) : Showcase :=
  let default := Value.int settings.partitioning.defaultPartitionCount
  let given : Bool := match count with
    | .absent => false
    | .int n => n != 0
    | .real x => x != 0.0
    | .bool b => b
    | .text t => !t.isEmpty
    | .list items => !items.isEmpty
  ⟨settings, if given then count else default, threshold⟩

/-- What was printed, line by line, what was written to the journal, and what went wrong, if
anything did. -/
structure Part where
  printed : List Text
  lines : List Journal.Line
  failure : Option Error

namespace Part

/-- Lines printed without fail. -/
def say (printed : List Text) : Part := ⟨printed, [], none⟩

/-- One part after another, unless the first fails. -/
def andThen (p q : Part) : Part :=
  match p.failure with
  | some e => ⟨p.printed, p.lines, some e⟩
  | none => ⟨p.printed ++ q.printed, p.lines ++ q.lines, q.failure⟩

/-- What goes on from the result of an operation, if it has one. -/
def after {α : Type} (operation : Journal.Noted (Except Error α)) (next : α → Part) : Part :=
  match operation.result with
  | .error e => ⟨[], operation.lines, some e⟩
  | .ok a =>
    let rest := next a
    ⟨rest.printed, operation.lines ++ rest.lines, rest.failure⟩

/-- What goes on from a result that no lines are written for. -/
def afterResult {α : Type} (result : Except Error α) (next : α → Part) : Part :=
  after ⟨result, []⟩ next

/-- All that was printed, every line with its end. -/
def output (p : Part) : Text := p.printed.flatMap (· ++ [cp '\n'])

end Part

/-- A heading: an empty line, the title and a rule. -/
def heading (title : Text) : Part := .say [[], title, Text.repeated 40 (Text.lit "-")]

/-- A heading that shows a value between two texts, if the value can be shown. -/
def headingWith (before : Text) (shown : Value) (behind : Text) : Part :=
  match shown.display? with
  | some t => heading (before ++ t ++ behind)
  | none => ⟨[], [], some .integerTooLong⟩

/-- A share in hundredths, with two places. -/
def percent (x : Float) : Text := Decimal.fixed 2 (x * 100.0) ++ Text.lit "%"

/-- Where the ranges of hash keys begin and end. -/
def ranges (tour : Showcase) : Part :=
  (headingWith (Text.lit "📐 ") tour.partitionCount (Text.lit " 个分区的哈希键范围")).andThen <|
  .afterResult (HashKeyRange.tableFor tour.partitionCount) fun table =>
    .say (table.map fun r =>
      Text.lit "  #" ++ Text.ofInt r.index ++ Text.lit ": " ++ HashKey.hex r.first.toNat ++
        Text.lit " - " ++ HashKey.hex r.last.toNat)

/-- Where given keys go. -/
def handwritten (tour : Showcase) (keys : List Text) : Part :=
  (heading (Text.lit "🔑 固定分区键")).andThen <|
  .after (Operation.analyze tour.threshold keys tour.partitionCount) fun records =>
    .say (records.map fun r =>
      Text.lit "  " ++ Text.padRight 10 r.key ++ Text.lit " md5=" ++ r.digest ++
        Text.lit " -> 分区 #" ++ Text.ofNat r.partition)

/-- The bar of a count: thirty blocks for the widest, others in proportion, a half block going to
the even number. -/
def bar (count widest : Int) : Text :=
  let blocks := match Binary64.rational? (Binary64.quotient (30 * count) widest) with
    | some q => Decimal.roundHalfEven q
    | none => 0
  Text.repeated blocks.toNat (Text.lit "█")

/-- The line of one partition. -/
def partitionLine (d : Distribution) (widest : Int) (entry : Int × Nat) : Text :=
  Text.lit "  #" ++ Text.padRight 3 (Text.ofNat entry.2) ++ Text.lit " " ++
    Text.padLeft 6 (Text.ofInt entry.1) ++ Text.lit " " ++
    Text.padLeft 8 (percent (d.portion entry.1)) ++ Text.lit " " ++ bar entry.1 widest

/-- The hot partitions in one line. -/
def hotLine (hot : List Distribution.HotPartition) : Text :=
  if hot.isEmpty then Text.lit "  ✅ 没有热点分区"
  else
    Text.lit "  ⚠️  热点分区: [" ++ Text.join (Text.lit ", ") (hot.map fun h => Text.ofNat h.index) ++
      Text.lit "]"

/-- The figures of a distribution, its partitions and the hot ones among them. -/
def distribution (tour : Showcase) (d : Distribution) : Part :=
  let widest := if d.maxCount = 0 then 1 else d.maxCount
  .afterResult d.maxShare fun maxShare =>
  .say <|
    [Text.lit "  总键数: " ++ Text.ofInt d.totalKeys ++ Text.lit "  平均: " ++
        Decimal.fixed 2 d.average ++ Text.lit "  标准差: " ++ Decimal.fixed 2 d.stddev,
      Text.lit "  最大分区: #" ++ Text.ofInt d.maxPartition ++ Text.lit " (" ++
        Text.ofInt d.maxCount ++ Text.lit ", " ++ percent maxShare ++ Text.lit ")"] ++
    d.counts.zipIdx.map (partitionLine d widest) ++
    [hotLine (d.hotBy tour.settings.partitioning.hotPartitionFactor)]

/-- How the keys of a pattern are distributed. -/
def generated {σ : Type} (tour : Showcase) (source : Sampling.Source σ) (pattern : Text)
    (count : Value) (s : σ) : Part × σ :=
  let (keys, s) := Operation.generate source pattern count s
  let part :=
    (headingWith (Text.lit "🎲 随机键 " ++ Text.quoted pattern ++ Text.lit " x ") count
      []).andThen <|
    .after keys fun keys =>
    (Part.say [Text.lit "  样例: " ++ Text.join (Text.lit ", ") (keys.take 3)]).andThen <|
    .after (Operation.analyze tour.threshold keys tour.partitionCount) fun records =>
    .after (Operation.summarize tour.partitionCount
      (records.map fun r => (r.partition : Int))) fun d =>
    tour.distribution d
  (part, s)

/-- Patterns that do not parse, one for each way to go wrong that the tour shows. -/
def faultyPatterns : List Text :=
  [Text.lit "(a|b)", Text.lit "a\x7b3,2\x7d", Text.lit "[z-a]", Text.lit "\\", Text.lit "*a",
    Text.lit "[^a]"]

/-- What is said about each of the patterns that do not parse. -/
def errors : Part :=
  (heading (Text.lit "🚫 不支持的模式")).andThen <|
  faultyPatterns.foldl (fun part pattern =>
    let compiled := Operation.compile pattern
    let said := match compiled.result with
      | .ok _ => Text.lit "编译成功"
      | .error e =>
        match e.report? with
        | some report => report.code ++ Text.lit " - " ++ report.message
        | none => e.message
    part.andThen ⟨[Text.lit "  " ++ Text.quoted pattern ++ Text.lit ": " ++ said],
      compiled.lines, none⟩) (.say [])

/-- The keys that the tour assigns. -/
def sampleKeys : List Text :=
  ["user-1", "user-2", "user-3", "user-4", "user-5"].map Text.lit

/-- The whole tour. -/
def all {σ : Type} (tour : Showcase) (source : Sampling.Source σ) (s : σ) : Part :=
  let keygen := tour.settings.keygen
  let before := ((Part.say [Text.lit "🎯 shardscope - 分区键分布演示",
      Text.repeated 60 (Text.lit "=")]).andThen tour.ranges).andThen
    (tour.handwritten sampleKeys)
  let (first, s) := tour.generated source keygen.defaultPattern (.int keygen.defaultCount) s
  let (second, _) := tour.generated source Preset.vehiclePattern (.int keygen.defaultCount) s
  (((before.andThen first).andThen second).andThen errors).andThen
    (.say [[], Text.lit "🎉 演示完成"])

end Showcase

end Keyspace
