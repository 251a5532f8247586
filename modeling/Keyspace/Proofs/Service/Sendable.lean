import Keyspace.Proofs.Batch
import Keyspace.Proofs.Figures
import Keyspace.Proofs.Pattern.Faults
import Keyspace.Service.Serve

/-!
Which replies can be sent.

A reply goes back as a body if every text in it has a UTF-8 form and every real is finite; else the
caller is told no more than that something failed. Of what the service tells, texts come from the
caller and from the settings, and reals are the figures of a distribution and the rate of failures.
-/

namespace Keyspace

namespace Json

theorem allEncodable_iff {items : List Json} :
    allEncodable items ↔ ∀ j ∈ items, j.encodable := by
  induction items with
  | nil => simp [allEncodable]
  | cons j items ih => simp [allEncodable, ih]

theorem membersEncodable_iff {members : List (Text × Json)} :
    membersEncodable members ↔ ∀ m ∈ members, Text.encodable m.1 ∧ m.2.encodable := by
  induction members with
  | nil => simp [membersEncodable]
  | cons m members ih =>
    obtain ⟨name, j⟩ := m
    simp [membersEncodable, ih, and_assoc]

@[simp] theorem encodable_int (n : Int) : (Json.int n).encodable = true := by
  rw [encodable]
  all_goals simp

@[simp] theorem encodable_nat (n : Nat) : (Json.nat n).encodable = true := encodable_int n

@[simp] theorem encodable_bool (b : Bool) : (Json.bool b).encodable = true := by
  rw [encodable]
  all_goals simp

@[simp] theorem encodable_null : Json.null.encodable = true := by
  rw [encodable]
  all_goals simp

@[simp] theorem encodable_real (x : Float) : (Json.real x).encodable = x.isFinite := by
  rw [encodable]

@[simp] theorem encodable_text (t : Text) : (Json.text t).encodable = Text.encodable t := by
  rw [encodable]

@[simp] theorem encodable_numeral (n : Int) : (Json.numeral n).encodable = true := by
  rw [numeral, encodable_text, Text.encodable_ofInt]

@[simp] theorem encodable_lit (s : String) : (Json.lit s).encodable = true := by
  rw [lit, encodable_text, Text.encodable_lit]

theorem encodable_array_iff {items : List Json} :
    (Json.array items).encodable ↔ ∀ j ∈ items, j.encodable := by
  rw [encodable, allEncodable_iff]

theorem encodable_object_iff {members : List (Text × Json)} :
    (Json.object members).encodable ↔ ∀ m ∈ members, Text.encodable m.1 ∧ m.2.encodable := by
  rw [encodable, membersEncodable_iff]

/-- A record can be sent if its members can. -/
theorem encodable_record_iff {members : List (String × Json)} :
    (Json.record members).encodable ↔ ∀ m ∈ members, m.2.encodable := by
  rw [record, encodable_object_iff]
  constructor
  · intro h m hm
    exact (h _ (List.mem_map_of_mem hm)).2
  · intro h m hm
    obtain ⟨m', hm', rfl⟩ := List.mem_map.1 hm
    exact ⟨Text.encodable_lit m'.1, h m' hm'⟩

end Json

/-! ### What the library answers -/

theorem encodable_of_digestOf {key t : Text} (h : HashKey.digestOf key = .ok (.text t)) :
    Text.encodable t := by
  unfold HashKey.digestOf Md5.ofText? at h
  cases hbytes : Text.utf8? key with
  | none =>
    rw [hbytes] at h
    cases h
  | some bytes =>
    rw [hbytes] at h
    cases h
    refine Text.encodable_of_forall fun c hc => ?_
    obtain ⟨d, hd, rfl⟩ := Md5.isHex_hex _ c hc
    exact Text.isScalar_hexDigit hd

/-- The record of a key can be sent if the key has a UTF-8 form. -/
theorem Assignment.encodable_toJson {n : Nat} {key : Text} {a : Assignment}
    (h : ofKey HashKey.digestOf n key = .ok a) (hk : Text.encodable key) :
    a.toJson.encodable := by
  obtain ⟨t, k, hdigest, _, rfl⟩ := ofKey_eq_ok_iff.1 h
  rw [Assignment.toJson, Json.encodable_record_iff]
  simp [hk, encodable_of_digestOf hdigest]

theorem HashKeyRange.encodable_toJson (r : HashKeyRange) : r.toJson.encodable := by
  rw [HashKeyRange.toJson, Json.encodable_record_iff]
  simp

namespace Distribution

theorem encodable_toJson {d : Distribution} {maxShare : Float} (hmax : maxShare.isFinite)
    (haverage : d.average.isFinite) (hstddev : d.stddev.isFinite) :
    (d.toJson maxShare).encodable := by
  have hcounts : (Json.array (d.counts.map .int)).encodable := by
    rw [Json.encodable_array_iff]
    simp
  rw [Distribution.toJson, Json.encodable_record_iff]
  simp [hcounts, hmax, haverage, hstddev]

theorem HotPartition.encodable_toJson {h : HotPartition} (hshare : h.share.isFinite)
    (hload : h.loadRatio.isFinite) : h.toJson.encodable := by
  rw [HotPartition.toJson, Json.encodable_record_iff]
  simp [hshare, hload]

/-- Every hot partition can be sent. -/
theorem encodable_hotBy {n : Nat} {indexes : List Int} (h : Addressable n indexes)
    (hne : indexes ≠ []) (factor : Float) :
    ∀ p ∈ (ofIndexes n indexes).hotBy factor, p.toJson.encodable := by
  intro p hp
  rw [hotBy, hot, List.mem_mergeSort] at hp
  obtain ⟨entry, hentry, rfl⟩ := List.mem_map.1 hp
  obtain ⟨hshare, hload⟩ := isFinite_describe h hne (List.mem_of_mem_filter hentry)
  exact HotPartition.encodable_toJson hshare hload

end Distribution

namespace Service

/-! ### Responses -/

theorem Response.ofBody_of_encodable {status : Nat} {body : Json} (h : body.encodable) :
    Response.ofBody status body = .content status body :=
  if_pos h

theorem Response.ofBody_of_not_encodable {status : Nat} {body : Json} (h : ¬ body.encodable) :
    Response.ofBody status body = failure :=
  if_neg h

theorem Response.status_ofBody (status : Nat) (body : Json) :
    (Response.ofBody status body).status = if body.encodable then status else 500 := by
  unfold Response.ofBody
  split <;> rfl

/-- The body that tells a payload. -/
def Payload.body (payload : Payload) : Json :=
  .record [("success", .bool true), ("data", payload.data), ("message", .text payload.message)]

/-- The body that tells a rejection. -/
def Rejection.body (rejection : Rejection) : Json :=
  .record [("detail", .record [("error_code", .text rejection.code),
    ("message", .text rejection.message)])]

theorem Payload.encodable_message (payload : Payload) : Text.encodable payload.message := by
  cases payload with
  | analysis report => rw [Payload.message]; split <;> exact Text.encodable_lit _
  | _ => exact Text.encodable_lit _

theorem Payload.encodable_body_iff (payload : Payload) :
    payload.body.encodable ↔ payload.data.encodable := by
  rw [Payload.body, Json.encodable_record_iff]
  simp [payload.encodable_message]

/-- A met demand is told if its data can be sent. -/
theorem Reply.response_met {payload : Payload} (h : payload.data.encodable) :
    (Reply.met payload).response = .content 200 payload.body :=
  Response.ofBody_of_encodable (payload.encodable_body_iff.2 h)

theorem Payload.encodable_of_status {payload : Payload}
    (h : (Reply.met payload).response.status = 200) : payload.data.encodable := by
  change (Response.ofBody 200 payload.body).status = 200 at h
  rw [Response.status_ofBody] at h
  split at h
  · next hbody => exact payload.encodable_body_iff.1 hbody
  · cases h

/-! ### Payloads -/

theorem Payload.encodable_overview {settings : Settings} (hname : Text.encodable settings.appName)
    (hpattern : Text.encodable settings.keygen.defaultPattern) :
    (Payload.overview settings).data.encodable := by
  have hdefaults : (Json.record [
      ("partition_count", .int settings.partitioning.defaultPartitionCount),
      ("pattern", .text settings.keygen.defaultPattern),
      ("count", .int settings.keygen.defaultCount)]).encodable := by
    rw [Json.encodable_record_iff]
    simp [hpattern]
  have hpresets : (Json.object (Preset.all.map fun p => (p.name, .text p.pattern))).encodable := by
    rw [Json.encodable_object_iff]
    simp [Preset.all, Preset.defaultPattern, Preset.vehiclePattern]
  have hlimits : (Json.record [("max_generate_count", .nat Sampling.maxCount),
      ("max_partition_count", .int settings.partitioning.maxPartitionCount)]).encodable := by
    rw [Json.encodable_record_iff]
    simp
  rw [Payload.data, Json.encodable_record_iff]
  simp [hname, hdefaults, hpresets, hlimits, version]

theorem Payload.encodable_ranges (n : Nat) (table : List HashKeyRange) :
    (Payload.ranges n table).data.encodable := by
  have htable : (Json.array (table.map (·.toJson))).encodable := by
    rw [Json.encodable_array_iff]
    simp [HashKeyRange.encodable_toJson]
  rw [Payload.data, Json.encodable_record_iff]
  simp [htable]

theorem Payload.encodable_keys_iff {pattern : Text} {generated : List Text} :
    (Payload.keys pattern generated).data.encodable ↔
      Text.encodable pattern ∧ ∀ key ∈ generated, Text.encodable key := by
  have hkeys : (Json.array (generated.map .text)).encodable ↔
      ∀ key ∈ generated, Text.encodable key := by
    rw [Json.encodable_array_iff]
    simp
  rw [Payload.data, Json.encodable_record_iff]
  simp [hkeys]

theorem Payload.encodable_analysis_iff {report : Report} :
    (Payload.analysis report).data.encodable ↔ ∀ m ∈ report.members, m.2.encodable := by
  rw [Payload.data, Json.encodable_record_iff]

theorem Payload.encodable_simulation_iff {report : Report} {pattern : Text} :
    (Payload.simulation report pattern).data.encodable ↔
      (Payload.analysis report).data.encodable ∧ Text.encodable pattern := by
  rw [Payload.encodable_analysis_iff, Payload.data, Json.encodable_record_iff]
  simp [or_imp, forall_and]

/-- The rate of failures is a part of all requests. -/
theorem Payload.encodable_health {c : Counters} (h : c.failures ≤ c.requests) :
    (Payload.health c).data.encodable := by
  have hrate : (Binary64.quotient c.failures (max c.requests 1)).isFinite := by
    have hpos : 0 < max (c.requests : Int) 1 := by omega
    refine (Distribution.within_quotient (k := 0) (Int.natCast_nonneg _) hpos (by decide)
      (by decide) ?_).isFinite
    rw [zpow_zero, div_le_one (by exact_mod_cast hpos)]
    exact_mod_cast (by omega : (c.failures : Int) ≤ max (c.requests : Int) 1)
  rw [Payload.data, Json.encodable_record_iff]
  simp [hrate]

/-! ### Rejections -/

theorem Rejection.encodable_body_iff {rejection : Rejection}
    (hcode : Text.encodable rejection.code) :
    rejection.body.encodable ↔ Text.encodable rejection.message := by
  have hdetail : (Json.record [("error_code", .text rejection.code),
      ("message", .text rejection.message)]).encodable ↔ Text.encodable rejection.message := by
    rw [Json.encodable_record_iff]
    simp [hcode]
  rw [Rejection.body, Json.encodable_record_iff]
  simp [hdetail]

theorem Rejection.encodable_unknownPreset {name : Text} (h : Text.InCodeSpace name) :
    (Rejection.unknownPreset name).body.encodable := by
  have hnames : ∀ t ∈ Preset.all.map fun p => Text.quoted p.name, Text.encodable t := by
    intro t ht
    obtain ⟨preset, hpreset, rfl⟩ := List.mem_map.1 ht
    have hall : ∀ p ∈ Preset.all, Text.encodable p.name := by simp [Preset.all]
    exact Text.encodable_quoted (Text.inCodeSpace_of_encodable (hall preset hpreset))
  have hjoin := Text.encodable_join (Text.encodable_lit ", ") hnames
  refine (Rejection.encodable_body_iff (by exact Text.encodable_lit "UnknownPreset")).2 ?_
  simp only [Rejection.message, Text.encodable_append, Text.encodable_lit, hjoin,
    Text.encodable_quoted h, Bool.and_self]

theorem Rejection.encodable_tooManyPartitions (n : Nat) (limit : Figure) :
    (Rejection.tooManyPartitions n limit).body.encodable := by
  refine (Rejection.encodable_body_iff (by exact Text.encodable_lit "TooManyPartitions")).2 ?_
  simp [Rejection.message]

theorem Rejection.encodable_tooManyRanges (limit : Figure) :
    (Rejection.tooManyRanges limit).body.encodable := by
  refine (Rejection.encodable_body_iff (by exact Text.encodable_lit "TooManyRanges")).2 ?_
  simp [Rejection.message]

end Service

/-! ### Errors -/

theorem ErrorKind.encodable_name (kind : ErrorKind) : Text.encodable kind.name := by
  cases kind <;> exact Text.encodable_lit _

theorem Number.encodable_render (x : Number) : Text.encodable x.value.render := by
  cases x with
  | int n =>
    rw [value, Value.render]
    exact Text.encodable_ofInt n
  | real x =>
    rw [value, Value.render]
    exact Decimal.encodable_text _ x

end Keyspace
