import Keyspace.Journal
import Keyspace.Operation
import Keyspace.Preset
import Keyspace.Results
import Keyspace.Service.Request
import Keyspace.Settings.Basic

/-!
Replies: what a request comes to, and the response that tells it.

A reply is one of four: the demand was met, it was rejected by a rule of the service, it failed
unexpectedly, or the request was turned away before it asked for anything. Only rejections for a
domain error and for too many partitions are counted and noted in the journal.
-/

namespace Keyspace.Service

open Journal (Line)

/-- The version that the service tells. -/
def version : Text := Text.lit "1.0.0"

/-- Why a demand is rejected. -/
inductive Rejection where
  | domain (report : ErrorReport)
  | unknownPreset (name : Text)
  | tooManyPartitions (count : Nat) (limit : Figure)
  | tooManyRanges (limit : Figure)

namespace Rejection

/-- The code that a rejection goes by. -/
def code : Rejection → Text
  | .domain report => report.code
  | .unknownPreset _ => Text.lit "UnknownPreset"
  | .tooManyPartitions _ _ => Text.lit "TooManyPartitions"
  | .tooManyRanges _ => Text.lit "TooManyRanges"

/-- The wording of a rejection. -/
def message : Rejection → Text
  | .domain report => report.message
  | .unknownPreset name =>
    Text.lit "Unknown preset " ++ Text.quoted name ++ Text.lit ", expected one of [" ++
      Text.join (Text.lit ", ") (Preset.all.map fun p => Text.quoted p.name) ++ Text.lit "]"
  | .tooManyPartitions _ limit =>
    Text.lit "Cannot summarize more than " ++ Text.ofInt limit ++ Text.lit " partitions"
  | .tooManyRanges limit =>
    Text.lit "Cannot list more than " ++ Text.ofInt limit ++ Text.lit " hash key ranges"

/-- Whether the rejection is counted. -/
def isCounted : Rejection → Bool
  | .domain _ | .tooManyPartitions _ _ => true
  | .unknownPreset _ | .tooManyRanges _ => false

/-- The line that notes the rejection, if one does. -/
def lines : Rejection → List Line
  | .domain report =>
    [⟨.warning, Text.lit "Request rejected: " ++ report.message ++ Text.lit " (" ++ report.code ++
      Text.lit ")"⟩]
  | .tooManyPartitions count limit =>
    [⟨.warning, Text.lit "Request rejected: " ++ Text.ofNat count ++
      Text.lit " partitions exceeds limit " ++ Text.ofInt limit⟩]
  | .unknownPreset _ | .tooManyRanges _ => []

end Rejection

/-- How many requests came, failed and were rejected. -/
structure Counters where
  requests : Nat
  failures : Nat
  rejections : Nat

/-- The counters of a service that was asked nothing. -/
def Counters.zero : Counters := ⟨0, 0, 0⟩

/-- The assignment of keys and what it comes to. Without keys there is no summary, and records are
told only on demand. -/
structure Report where
  partitionCount : Nat
  totalKeys : Nat
  summary : Option (Distribution × Float)
  hot : List Distribution.HotPartition
  records : Option (List Assignment)

/-- The members of a report. -/
def Report.members (r : Report) : List (String × Json) :=
  [("partition_count", .nat r.partitionCount), ("total_keys", .nat r.totalKeys),
    ("summary", match r.summary with
      | none => .null
      | some (d, maxShare) => d.toJson maxShare),
    ("hot_partitions", .array (r.hot.map (·.toJson)))] ++
  match r.records with
  | none => []
  | some records => [("records", .array (records.map (·.toJson)))]

/-- What a met demand answers. -/
inductive Payload where
  | overview (settings : Settings)
  | analysis (report : Report)
  | ranges (count : Nat) (table : List HashKeyRange)
  | keys (pattern : Text) (generated : List Text)
  | simulation (report : Report) (pattern : Text)
  | health (counters : Counters)

namespace Payload

/-- The data of a payload. -/
def data : Payload → Json
  | .overview settings =>
    .record [("system_name", .text settings.appName), ("version", .text version),
      ("defaults", .record [
        ("partition_count", .int settings.partitioning.defaultPartitionCount),
        ("pattern", .text settings.keygen.defaultPattern),
        ("count", .int settings.keygen.defaultCount)]),
      ("presets", .object (Preset.all.map fun p => (p.name, .text p.pattern))),
      ("limits", .record [("max_generate_count", .nat Sampling.maxCount),
        ("max_partition_count", .int settings.partitioning.maxPartitionCount)])]
  | .analysis report => .record report.members
  | .ranges count table =>
    .record [("partition_count", .nat count), ("ranges", .array (table.map (·.toJson)))]
  | .keys pattern generated =>
    .record [("pattern", .text pattern), ("count", .nat generated.length),
      ("keys", .array (generated.map .text))]
  | .simulation report pattern => .record (report.members ++ [("pattern", .text pattern)])
  | .health c =>
    .record [("overall", .lit "healthy"), ("requests_total", .nat c.requests),
      ("errors_total", .nat c.failures), ("rejected_total", .nat c.rejections),
      ("error_rate", .real (Binary64.quotient c.failures (max c.requests 1)))]

/-- The message that goes with a payload. -/
def message : Payload → Text
  | .overview _ => Text.lit "服务运行正常"
  | .analysis report => if report.totalKeys = 0 then Text.lit "没有分区键" else Text.lit "分区映射完成"
  | .ranges _ _ => Text.lit "哈希键范围获取成功"
  | .keys _ _ => Text.lit "随机键生成成功"
  | .simulation _ _ => Text.lit "模拟完成"
  | .health _ => Text.lit "系统健康检查完成"

/-- The line that notes a payload, if one does. -/
def lines : Payload → List Line
  | .analysis report =>
    [⟨.info, Text.lit "Analyzed " ++ Text.ofNat report.totalKeys ++ Text.lit " keys across " ++
      Text.ofNat report.partitionCount ++ Text.lit " partitions"⟩]
  | .keys pattern generated => [⟨.info, Operation.generatedMessage pattern generated.length⟩]
  | .overview _ | .ranges _ _ | .simulation _ _ | .health _ => []

end Payload

/-- What a request comes to. -/
inductive Reply where
  | met (payload : Payload)
  | rejected (rejection : Rejection)
  | failed
  | refused (refusal : Refusal)

/-- The reply to a demand that an error stops: a domain error rejects it, any other fails it. -/
def Reply.ofError (e : Error) : Reply :=
  match e.report? with
  | some report => .rejected (.domain report)
  | none => .failed

/-- What goes back to the caller: content, the names of fields that cannot be read, the path to ask
at instead, or no more than a status. The pages of documentation are not written here, so no more
than their status is told. -/
inductive Response where
  | content (status : Nat) (body : Json)
  | invalid (fields : List Text)
  | moved (path : Text)
  | bare (status : Nat)

namespace Response

/-- The response when something fails unexpectedly. -/
def failure : Response := .bare 500

/-- A body, unless it cannot be sent. -/
def ofBody (status : Nat) (body : Json) : Response :=
  if body.encodable then .content status body else failure

/-- The names of the fields with a fault, in order and each once. What was given comes back with
them, so there is no such response if it cannot be sent. -/
def ofFaults (faults : List Field.Fault) : Response :=
  if faults.all (·.given.encodable) then
    .invalid ((faults.map (·.name)).mergeSort Text.precedes).eraseReps
  else failure

/-- The status of a response. -/
def status : Response → Nat
  | .content status _ => status
  | .invalid _ => 422
  | .moved _ => 307
  | .bare status => status

/-- The response without its body; where to ask instead is told in front of the body. -/
def head : Response → Response
  | .moved path => .moved path
  | r => .bare r.status

end Response

namespace Reply

/-- The response that tells a reply. -/
def response : Reply → Response
  | .met payload =>
    .ofBody 200 (.record [("success", .bool true), ("data", payload.data),
      ("message", .text payload.message)])
  | .rejected rejection =>
    .ofBody 400 (.record [("detail", .record [("error_code", .text rejection.code),
      ("message", .text rejection.message)])])
  | .failed => Response.failure
  | .refused .notFound => .ofBody 404 (.record [("detail", .lit "Not Found")])
  | .refused .methodNotAllowed => .ofBody 405 (.record [("detail", .lit "Method Not Allowed")])
  | .refused .unreadable =>
    .ofBody 400 (.record [("detail", .lit "There was an error parsing the body")])
  | .refused (.invalid faults) => .ofFaults faults
  | .refused (.moved path) => .moved path
  | .refused .documentation => .bare 200

/-- Whether the reply counts as a rejection. -/
def isCounted : Reply → Bool
  | .rejected rejection => rejection.isCounted
  | _ => false

/-- The lines that note a reply. -/
def lines : Reply → List Line
  | .met payload => payload.lines
  | .rejected rejection => rejection.lines
  | .failed | .refused _ => []

end Reply

end Keyspace.Service
