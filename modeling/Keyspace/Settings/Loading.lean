import Keyspace.Field
import Keyspace.Json.Parser
import Keyspace.Settings.Basic
import Keyspace.Settings.Dotenv

/-!
Settings loaded from the environment and an optional `.env` file.

Either source may give a field by a variable of its own, or a whole section as an object in one
variable, whose members the section's own variables override. The environment overrides the file
field by field, and a field that neither gives has its default. Names are matched without regard to
case; names of no field are passed over.

Only the fields, their defaults and the marks in the names are the program's own (`Settings`). How
sources are merged and values are read is the documented behaviour of the libraries that load
settings, written out here to be run: nothing is proved of it.
-/

namespace Keyspace

namespace Settings

/-- Why settings cannot be loaded: a section that is not read as the data-exchange notation, or
fields whose values cannot be read, in order. -/
inductive LoadError where
  | malformed
  | invalid (fields : List Text)

/-- Members of an object, in order. -/
abbrev Members := List (Text × Json)

/-- What all names of variables begin with. -/
def namespaceMark : Text := Text.lit "shardscope_"

/-- What stands between a section and a field of it. -/
def nesting : Text := Text.lit "__"

/-- The sections and the names of their fields. -/
def sections : List (Text × List Text) :=
  [(Text.lit "partitioning",
      ["default_partition_count", "hot_partition_factor", "max_listed_ranges",
        "max_partition_count"].map Text.lit),
    (Text.lit "keygen", ["default_pattern", "default_count"].map Text.lit),
    (Text.lit "logging", ["level", "log_file"].map Text.lit)]

/-- The fields that belong to no section. -/
def plainFields : List Text :=
  ["app_name", "app_version", "debug", "api_host", "api_port"].map Text.lit

/-- A name in lower case, as far as it can be the name of a field: the Kelvin sign is the one letter
outside ASCII whose lower-case form lies in it. -/
def lowerName (t : Text) : Text := Text.lowerAscii (t.map fun c => if c = 0x212A then cp 'K' else c)

/-- The variables of a source by their names in lower case; of names that differ in case only, the
last counts. A name bound to nothing has the value null. -/
def variablesOf (source : List (Text × Option Text)) : Members :=
  source.foldl (fun vars v =>
    Json.bind (lowerName v.1) (match v.2 with | some t => .text t | none => .null) vars) []

/-- The second members laid over the first: objects are merged member by member, anything else is
replaced. -/
def overlay (base : Members) : Members → Members
  | [] => base
  | (name, new) :: rest =>
    match new, base.lookup name with
    | .object inner, some (.object old) =>
      overlay (Json.bind name (.object (overlay old inner)) base) rest
    | _, _ => overlay (Json.bind name new base) rest
termination_by top => sizeOf top

/-- Cuts a name at every place where the mark of nesting stands. -/
def splitNested (found : List Text) (part : Text) : Text → List Text
  | [] => (part.reverse :: found).reverse
  | [c] => ((c :: part).reverse :: found).reverse
  | c :: d :: rest =>
    if c = cp '_' && d = cp '_' then splitNested (part.reverse :: found) [] rest
    else splitNested found (c :: part) (d :: rest)

/-- The members with a value put at a path. What stands on the way and is no object stays, and the
value is left out. -/
def insertAt (value : Json) : List Text → Members → Members
  | [], members => members
  | [name], members => Json.bind name value members
  | name :: path, members =>
    match members.lookup name with
    | none => Json.bind name (.object (insertAt value path [])) members
    | some (.object inner) => Json.bind name (.object (insertAt value path inner)) members
    | some _ => members

/-- The members that variables of their own give a section. -/
def ownVariables (vars : Members) (group : Text) : Members :=
  let mark := namespaceMark ++ group ++ nesting
  vars.foldl (fun members v =>
    if mark.isPrefixOf v.1 then
      insertAt v.2 (splitNested [] [] (v.1.drop mark.length)) members
    else members) []

/-- The members of a section under the names of its fields, which are matched without regard to
case. -/
def canonical (fields : List Text) (members : Members) : Members :=
  members.foldl (fun named m =>
    let name := (fields.find? (· = lowerName m.1)).getD m.1
    Json.bind name m.2 named) []

/-- What a source gives for a section, if it gives anything. -/
def sectionOf (vars : Members) (group : Text) (fields : List Text) :
    Except LoadError (Option Json) :=
  let own := ownVariables vars group
  match vars.lookup (namespaceMark ++ group) with
  | some (.text t) =>
    match Json.read .usual t with
    | .error _ => .error .malformed
    | .ok .null => .ok none
    | .ok (.object members) => .ok (some (.object (canonical fields (overlay members own))))
    | .ok j => .ok (some j)
  | _ => .ok (if own.isEmpty then none else some (.object (canonical fields own)))

/-- What a source gives for the fields outside sections. -/
def plainOf (vars : Members) : Members :=
  plainFields.filterMap fun name =>
    match vars.lookup (namespaceMark ++ name) with
    | some (.text t) => some (name, .text t)
    | _ => none

/-- All that a source gives. -/
def gather (vars : Members) : Except LoadError Members := do
  let nested ← sections.filterMapM fun (group, fields) => do
    return (← sectionOf vars group fields).map fun j => (group, j)
  return plainOf vars ++ nested

/-- A section read from its members: the section, and the fields that cannot be read, under the name
of the section. -/
def readSection {α : Type} (members : Members) (group : String) (default : α)
    (read : Members → α × List Field.Fault) : α × List Text :=
  let name := Text.lit group
  match members.lookup name with
  | none => (default, [])
  | some (.object inner) =>
    let (a, faults) := read inner
    (a, faults.map fun fault => name ++ cp '.' :: fault.name)
  | some _ => (default, [name])

end Settings

/-- The partitioning settings from their members. -/
def PartitioningSettings.read (ms : Settings.Members) : PartitioningSettings × List Field.Fault :=
  let d : PartitioningSettings := {}
  let (count, e₁) := Field.read ms (Text.lit "default_partition_count") Field.figure
    d.defaultPartitionCount
  let (factor, e₂) := Field.read ms (Text.lit "hot_partition_factor") Field.real
    d.hotPartitionFactor
  let (listed, e₃) := Field.read ms (Text.lit "max_listed_ranges") Field.figure d.maxListedRanges
  let (most, e₄) := Field.read ms (Text.lit "max_partition_count") Field.figure d.maxPartitionCount
  (⟨count, factor, listed, most⟩, e₁ ++ e₂ ++ e₃ ++ e₄)

/-- The key generation settings from their members. -/
def KeygenSettings.read (ms : Settings.Members) : KeygenSettings × List Field.Fault :=
  let d : KeygenSettings := {}
  let (pattern, e₁) := Field.read ms (Text.lit "default_pattern") Field.text d.defaultPattern
  let (count, e₂) := Field.read ms (Text.lit "default_count") Field.figure d.defaultCount
  (⟨pattern, count⟩, e₁ ++ e₂)

/-- The logging settings from their members. -/
def LoggingSettings.read (ms : Settings.Members) : LoggingSettings × List Field.Fault :=
  let d : LoggingSettings := {}
  let (level, e₁) := Field.read ms (Text.lit "level") Field.text d.level
  let (file, e₂) := Field.read ms (Text.lit "log_file") (Field.optional Field.text) d.logFile
  (⟨level, file⟩, e₁ ++ e₂)

namespace Settings

/-- Settings from all that the sources give. -/
def ofMembers (ms : Members) : Except LoadError Settings :=
  let d : Settings := {}
  let (name, e₁) := Field.read ms (Text.lit "app_name") Field.text d.appName
  let (version, e₂) := Field.read ms (Text.lit "app_version") Field.text d.appVersion
  let (debug, e₃) := Field.read ms (Text.lit "debug") Field.flag d.debug
  let (host, e₄) := Field.read ms (Text.lit "api_host") Field.text d.apiHost
  let (port, e₅) := Field.read ms (Text.lit "api_port") Field.figure d.apiPort
  let (partitioning, e₆) := readSection ms "partitioning" d.partitioning PartitioningSettings.read
  let (keygen, e₇) := readSection ms "keygen" d.keygen KeygenSettings.read
  let (logging, e₈) := readSection ms "logging" d.logging LoggingSettings.read
  let faults := (e₁ ++ e₂ ++ e₃ ++ e₄ ++ e₅).map (·.name) ++ e₆ ++ e₇ ++ e₈
  if faults.isEmpty then .ok ⟨name, version, debug, host, port, partitioning, keygen, logging⟩
  else .error (.invalid (faults.mergeSort Text.precedes))

/-- Settings loaded from the variables of the environment and the text of a file, if there is one.
-/
def load (environment : List (Text × Text)) (dotenv : Option Text) : Except LoadError Settings := do
  let outer ← gather (variablesOf (environment.map fun v => (v.1, some v.2)))
  let inner ← match dotenv with
    | some t => gather (variablesOf (Dotenv.parse environment t))
    | none => .ok []
  ofMembers (overlay inner outer)

end Settings

end Keyspace
