import Keyspace.HashKeyRange
import Keyspace.KeyList
import Keyspace.Service.Reply
import Keyspace.Service.Request

/-!
The service: requests answered one after the other.

A reply depends on the settings, the request and the source of decisions; only the reply about the
service's health depends on the counters. Every request is counted before it is answered, its
failure or rejection after it. A request that is sent on to another path has been answered with
that; if its caller asks there, another request comes.
-/

namespace Keyspace.Service

open Journal (Line)

/-- The pattern of a request for generated keys. -/
def GenerateRequest.resolve (settings : Settings) (r : GenerateRequest) : Except Reply Text :=
  match r.preset with
  | some name =>
    match Preset.find? name with
    | some preset => .ok preset.pattern
    | none => .error (.rejected (.unknownPreset name))
  | none =>
    match r.pattern with
    | some pattern => .ok pattern
    | none =>
      .ok (if settings.keygen.defaultPattern.isEmpty then Preset.defaultPattern
        else settings.keygen.defaultPattern)

/-- The report on keys: the count is checked, also against its limit, before any key is hashed. -/
def report (settings : Settings) (keys : List Text) (count : Number) (includeRecords : Bool) :
    Except Reply Report := do
  let limit := settings.partitioning.maxPartitionCount
  let n ← (PartitionCount.normalize count.value).mapError .ofError
  if (limit : Int) < n then throw (.rejected (.tooManyPartitions n limit))
  let records ← (Assignment.analyze keys (.int n)).mapError .ofError
  let told := if includeRecords then some records else none
  if records.isEmpty then
    return ⟨n, 0, none, [], told⟩
  else
    let indexes := records.map fun r => (r.partition : Int)
    let summary := Distribution.ofIndexes n indexes
    let maxShare ← summary.maxShare.mapError .ofError
    let hot := summary.hotBy settings.partitioning.hotPartitionFactor
    return ⟨n, records.length, some (summary, maxShare), hot, told⟩

/-- The reply to a demand for an assignment. -/
def analyze (settings : Settings) (r : AnalyzeRequest) : Reply :=
  let keys := r.keys.getD [] ++ KeyList.parse (r.rawKeys.getD [])
  match report settings keys r.partitionCount r.includeRecords with
  | .ok report => .met (.analysis report)
  | .error reply => reply

/-- The reply to a demand for ranges. -/
def ranges (settings : Settings) (count : Number) : Reply :=
  let limit := settings.partitioning.maxListedRanges
  match PartitionCount.normalize count.value with
  | .error e => .ofError e
  | .ok n =>
    if (limit : Int) < n then .rejected (.tooManyRanges limit)
    else .met (.ranges n (HashKeyRange.table n))

section

variable {σ : Type} (settings : Settings) (source : Sampling.Source σ)

/-- The keys of a request and the pattern that they are generated from. -/
def GenerateRequest.keys (r : GenerateRequest) (s : σ) : Except Reply (Text × List Text) × σ :=
  match r.resolve settings with
  | .error reply => (.error reply, s)
  | .ok pattern =>
    match Sampling.generate source pattern r.count.value s with
    | (.error e, s) => (.error (.ofError e), s)
    | (.ok keys, s) => (.ok (pattern, keys), s)

/-- The reply to a demand for keys. -/
def generate (r : GenerateRequest) (s : σ) : Reply × σ :=
  match r.keys settings source s with
  | (.error reply, s) => (reply, s)
  | (.ok (pattern, keys), s) => (.met (.keys pattern keys), s)

/-- The reply to a demand for a simulation. -/
def simulate (r : SimulateRequest) (s : σ) : Reply × σ :=
  match r.generation.keys settings source s with
  | (.error reply, s) => (reply, s)
  | (.ok (pattern, keys), s) =>
    match report settings keys r.partitionCount r.includeRecords with
    | .error reply => (reply, s)
    | .ok report => (.met (.simulation report pattern), s)

/-- The reply to a request; `counters` already count the request itself. -/
def reply (counters : Counters) (r : Request) (s : σ) : Reply × σ :=
  match r.demand settings with
  | .error refusal => (.refused refusal, s)
  | .ok .overview => (.met (.overview settings), s)
  | .ok .health => (.met (.health counters), s)
  | .ok (.analyze request) => (analyze settings request, s)
  | .ok (.ranges count) => (ranges settings count, s)
  | .ok (.generate request) => generate settings source request s
  | .ok (.simulate request) => simulate settings source request s

/-- A response and the lines written for it. -/
structure Answer where
  response : Response
  lines : List Line

/-- Answers a request. -/
def answer (counters : Counters) (r : Request) (s : σ) : Answer × Counters × σ :=
  let r := r.normal
  let counters := { counters with requests := counters.requests + 1 }
  let (reply, s) := reply settings source counters r s
  let response := if r.isHead then reply.response.head else reply.response
  let counters :=
    { counters with
      failures := counters.failures + if response.status ≥ 500 then 1 else 0
      rejections := counters.rejections + if reply.isCounted then 1 else 0 }
  (⟨response, reply.lines⟩, counters, s)

/-- Answers requests in order. `answers` holds those before them, last first. -/
def serveFrom (answers : List Answer) (counters : Counters) : List Request → σ → List Answer × σ
  | [], s => (answers.reverse, s)
  | r :: rest, s =>
    let (a, counters, s) := answer settings source counters r s
    serveFrom (a :: answers) counters rest s

/-- Answers the requests to a fresh service in order. -/
def serve (requests : List Request) (s : σ) : List Answer × σ :=
  serveFrom settings source [] .zero requests s

/-- The lines from the start of a service to its end, with those of its answers between. -/
def journal (answers : List Answer) : List Line :=
  ⟨.info, Text.lit "Starting " ++ settings.appName ++ Text.lit " " ++ version ++ Text.lit " on " ++
    settings.apiHost ++ Text.lit ":" ++ Text.ofInt settings.apiPort⟩ ::
  answers.flatMap (·.lines) ++ [⟨.info, settings.appName ++ Text.lit " stopped"⟩]

end

end Keyspace.Service
