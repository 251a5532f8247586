import Keyspace.Field
import Keyspace.Json.Encoding
import Keyspace.Json.Parser
import Keyspace.Service.Target
import Keyspace.Settings.Basic
import Keyspace.Text.Uppercase

/-!
Requests, and what each of them asks for.

A request is validated as a whole before anything is done: either every field can be read, or the
answer names the fields that cannot. The empty name stands for the body itself. A body that is not
in the notation is a fault of the request, one that goes beyond the limits of reading is refused.

Beside the endpoints there are pages that document them. A path with slashes too many at its end is
not looked up under the path without them: the caller is told to ask there.
-/

namespace Keyspace.Service

/-- A request as it comes in, the target standing for its path. A request without a body has an
empty one. -/
structure Request where
  method : Text
  path : Text
  query : List (Text × Text)
  body : Text

/-- Keys to be assigned: those of a list, then those of a text with one key a line. -/
structure AnalyzeRequest where
  keys : Option (List Text)
  rawKeys : Option Text
  partitionCount : Number
  includeRecords : Bool

/-- Keys to be generated: a preset comes before a pattern. -/
structure GenerateRequest where
  pattern : Option Text
  preset : Option Text
  count : Number

/-- Keys to be generated and assigned at once. -/
structure SimulateRequest where
  generation : GenerateRequest
  partitionCount : Number
  includeRecords : Bool

/-- What a validated request asks for. -/
inductive Demand where
  | overview
  | analyze (request : AnalyzeRequest)
  | ranges (partitionCount : Number)
  | generate (request : GenerateRequest)
  | simulate (request : SimulateRequest)
  | health

/-- What can be asked for, and where. -/
inductive Endpoint where
  | overview
  | analyze
  | ranges
  | generate
  | simulate
  | health
  /-- A page of documentation, or what such a page loads. -/
  | page
  deriving DecidableEq

/-- A path, the methods that it can be asked with, and what is there. -/
structure Route where
  methods : List Text
  path : Text
  endpoint : Endpoint

/-- Every route. Pages can be asked for their head only, endpoints of the service cannot. -/
def routes : List Route :=
  let page (path : String) : Route := ⟨[Text.lit "GET", Text.lit "HEAD"], Text.lit path, .page⟩
  [page "/openapi.json", page "/docs", page "/docs/oauth2-redirect", page "/redoc",
    ⟨[Text.lit "GET"], Text.lit "/", .overview⟩,
    ⟨[Text.lit "POST"], Text.lit "/partitions/analyze", .analyze⟩,
    ⟨[Text.lit "GET"], Text.lit "/partitions/ranges", .ranges⟩,
    ⟨[Text.lit "POST"], Text.lit "/keys/generate", .generate⟩,
    ⟨[Text.lit "POST"], Text.lit "/keys/simulate", .simulate⟩,
    ⟨[Text.lit "GET"], Text.lit "/monitoring/health", .health⟩]

/-- Why a request asks for nothing of the service: it is turned away, it is sent on to another path,
or it is answered with a page of documentation. -/
inductive Refusal where
  | notFound
  | methodNotAllowed
  | unreadable
  | invalid (faults : List Field.Fault)
  | moved (path : Text)
  | documentation

/-- A request with its method in capitals and its target taken apart. The query of the target
counts only if no other is given, and the last value of a name counts. -/
def Request.normal (r : Request) : Request :=
  { r with
    method := Text.upper r.method
    path := pathOf r.path
    query := if r.query.isEmpty then (queryOf r.path).reverse else r.query }

/-- Whether the request asks for the head of an answer only. -/
def Request.isHead (r : Request) : Bool := r.method = Text.lit "HEAD"

/-- The route of a path. -/
def route? (path : Text) : Option Route := routes.find? (·.path = path)

/-- What a request is told whose path has no route: to ask at the path without the slashes at its
end, if that has one. -/
def strayed (path : Text) : Refusal :=
  let bare := Text.trimEnd (· == cp '/') path
  if (route? bare).isSome then .moved bare else .notFound

/-- The endpoint of a request. -/
def Request.endpoint (r : Request) : Except Refusal Endpoint :=
  match route? r.path with
  | none => .error (strayed r.path)
  | some route =>
    if r.method ∈ route.methods then .ok route.endpoint else .error .methodNotAllowed

/-- The members of the object that a body writes; null is no body. -/
def bodyMembers (body : Text) : Except Refusal (List (Text × Json)) :=
  let fault (given : Json) : Refusal := .invalid [⟨[], given⟩]
  match Json.decode? body with
  | none => .error .unreadable
  | some t =>
    match Json.read .usual t with
    | .ok (.object members) => .ok members
    | .ok j => .error (fault j)
    | .error .malformed => .error (fault .null)
    | .error .excessive => .error .unreadable

/-- A result if no field failed. -/
def checked {α : Type} (a : α) (faults : List Field.Fault) : Except Refusal α :=
  if faults.isEmpty then .ok a else .error (.invalid faults)

/-- The partition count of a request; the default is that of the settings. -/
def partitionCountField (settings : Settings) (ms : List (Text × Json)) :
    Number × List Field.Fault :=
  Field.read ms (Text.lit "partition_count") Field.number
    (.int settings.partitioning.defaultPartitionCount)

/-- The fields of a request for generated keys. -/
def generationFields (settings : Settings) (ms : List (Text × Json)) :
    GenerateRequest × List Field.Fault :=
  let (pattern, e₁) := Field.read ms (Text.lit "pattern") (Field.optional Field.text) none
  let (preset, e₂) := Field.read ms (Text.lit "preset") (Field.optional Field.text) none
  let (count, e₃) := Field.read ms (Text.lit "count") Field.number
    (.int settings.keygen.defaultCount)
  (⟨pattern, preset, count⟩, e₁ ++ e₂ ++ e₃)

/-- A request for an assignment from the members of its body. -/
def AnalyzeRequest.ofMembers (settings : Settings) (ms : List (Text × Json)) :
    Except Refusal AnalyzeRequest :=
  let (keys, e₁) := Field.read ms (Text.lit "keys") (Field.optional Field.texts) none
  let (rawKeys, e₂) := Field.read ms (Text.lit "raw_keys") (Field.optional Field.text) none
  let (count, e₃) := partitionCountField settings ms
  let (told, e₄) := Field.read ms (Text.lit "include_records") Field.flag true
  checked ⟨keys, rawKeys, count, told⟩ (e₁ ++ e₂ ++ e₃ ++ e₄)

/-- A request for generated keys from the members of its body. -/
def GenerateRequest.ofMembers (settings : Settings) (ms : List (Text × Json)) :
    Except Refusal GenerateRequest :=
  let (generation, faults) := generationFields settings ms
  checked generation faults

/-- A request for a simulation from the members of its body. -/
def SimulateRequest.ofMembers (settings : Settings) (ms : List (Text × Json)) :
    Except Refusal SimulateRequest :=
  let (generation, e₁) := generationFields settings ms
  let (count, e₂) := partitionCountField settings ms
  let (told, e₃) := Field.read ms (Text.lit "include_records") Field.flag false
  checked ⟨generation, count, told⟩ (e₁ ++ e₂ ++ e₃)

/-- The partition count of a query, always a real; the default is that of the settings. -/
def rangesCount (settings : Settings) (query : List (Text × Text)) : Except Refusal Number :=
  let name := Text.lit "partition_count"
  match query.lookup name with
  | none => .ok (.int settings.partitioning.defaultPartitionCount)
  | some t =>
    match Decimal.looseReal? t with
    | some x => .ok (.real x)
    | none => .error (.invalid [⟨name, .text t⟩])

/-- What a request asks for. -/
def Request.demand (settings : Settings) (r : Request) : Except Refusal Demand := do
  match ← r.endpoint with
  | .page => throw .documentation
  | .overview => return .overview
  | .health => return .health
  | .ranges => return .ranges (← rangesCount settings r.query)
  | .analyze => return .analyze (← AnalyzeRequest.ofMembers settings (← bodyMembers r.body))
  | .generate => return .generate (← GenerateRequest.ofMembers settings (← bodyMembers r.body))
  | .simulate => return .simulate (← SimulateRequest.ofMembers settings (← bodyMembers r.body))

end Keyspace.Service
