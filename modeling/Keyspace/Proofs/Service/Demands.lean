import Keyspace.Proofs.Generation
import Keyspace.Proofs.Pattern.Encodable
import Keyspace.Proofs.Service.Sendable

/-!
What a demand comes to, part by part.

Keys are drawn first: a preset or a pattern is resolved, read and drawn from, and only the last
takes decisions. Then keys are assigned: the count is looked at before any key. What refuses either
part is said once (`GenerateRequest.Refuses`, `CountRefused`), and each part comes to that refusal
or to its result. The replies are made of what the parts come to (`generate_eq`, `analyze_eq`,
`simulate_eq`).

    preset, pattern ──▶ pattern ──▶ pieces ──▶ keys         count ──▶ partitions ──▶ report
                unknown        fault                         no count        beyond the limit
-/

namespace Keyspace.Service

/-! ### Keys -/

/-- The pattern that keys are generated from: a preset comes before a given pattern, and where
    neither is given, the pattern of the settings counts unless it is empty. -/
inductive GenerateRequest.Resolves (settings : Settings) (g : GenerateRequest) : Text → Prop where
  | preset {p : Preset} (hp : p ∈ Preset.all) (hname : g.preset = some p.name) :
      Resolves settings g p.pattern
  | given {t : Text} (hpreset : g.preset = none) (hpattern : g.pattern = some t) :
      Resolves settings g t
  | configured (hpreset : g.preset = none) (hpattern : g.pattern = none)
      (hne : settings.keygen.defaultPattern ≠ []) :
      Resolves settings g settings.keygen.defaultPattern
  | builtIn (hpreset : g.preset = none) (hpattern : g.pattern = none)
      (hempty : settings.keygen.defaultPattern = []) : Resolves settings g Preset.defaultPattern

/-- Why no keys are generated: the preset is unknown, whatever the pattern, or the pattern has a
    fault, whatever the count. -/
inductive GenerateRequest.Refuses (settings : Settings) (g : GenerateRequest) :
    Rejection → Prop where
  | unknownPreset {name : Text} (h : g.preset = some name)
      (hall : ∀ p ∈ Preset.all, p.name ≠ name) : Refuses settings g (.unknownPreset name)
  | faulty {pattern : Text} {f : Pattern.Fault} (h : g.Resolves settings pattern)
      (hf : Pattern.parse pattern = .error f) : Refuses settings g (.domain f.report)

/-- The pieces that keys are drawn from, with their pattern. -/
structure GenerateRequest.DrawsFrom (settings : Settings) (g : GenerateRequest) (pattern : Text)
    (pieces : List Pattern.Piece) : Prop where
  resolves : g.Resolves settings pattern
  parses : Pattern.parse pattern = .ok pieces

/-- Whether every alphabet that keys are drawn from has a UTF-8 form. -/
def GenerateRequest.Encodable (settings : Settings) (g : GenerateRequest) : Prop :=
  ∀ pattern pieces, g.DrawsFrom settings pattern pieces →
    ∀ p ∈ pieces, Text.encodable p.atom.alphabet

theorem find?_preset {p : Preset} (hp : p ∈ Preset.all) : Preset.find? p.name = some p := by
  simp only [Preset.all, List.mem_cons, List.not_mem_nil, or_false] at hp
  rcases hp with rfl | rfl <;> rfl

theorem resolve_of_resolves {settings : Settings} {g : GenerateRequest} {pattern : Text}
    (h : g.Resolves settings pattern) : g.resolve settings = .ok pattern := by
  cases h with
  | preset hp hname => simp only [GenerateRequest.resolve, hname, find?_preset hp]
  | given hpreset hpattern => simp only [GenerateRequest.resolve, hpreset, hpattern]
  | configured hpreset hpattern hne =>
    simp only [GenerateRequest.resolve, hpreset, hpattern, List.isEmpty_iff, if_neg hne]
  | builtIn hpreset hpattern hempty =>
    simp only [GenerateRequest.resolve, hpreset, hpattern, hempty, List.isEmpty_nil, if_true]

/-- A pattern is resolved, or the preset is unknown. -/
theorem exists_resolves (settings : Settings) (g : GenerateRequest) :
    (∃ pattern, g.Resolves settings pattern) ∨
      ∃ name, g.preset = some name ∧ ∀ p ∈ Preset.all, p.name ≠ name := by
  cases hpreset : g.preset with
  | some name =>
    by_cases hknown : ∃ p ∈ Preset.all, p.name = name
    · obtain ⟨p, hp, rfl⟩ := hknown
      exact Or.inl ⟨_, .preset hp hpreset⟩
    · exact Or.inr ⟨name, rfl, fun p hp hname => hknown ⟨p, hp, hname⟩⟩
  | none =>
    cases hpattern : g.pattern with
    | some t => exact Or.inl ⟨t, .given hpreset hpattern⟩
    | none =>
      by_cases hempty : settings.keygen.defaultPattern = []
      · exact Or.inl ⟨_, .builtIn hpreset hpattern hempty⟩
      · exact Or.inl ⟨_, .configured hpreset hpattern hempty⟩

/-- Keys are refused or there are pieces to draw them from. -/
theorem refuses_or_drawsFrom (settings : Settings) (g : GenerateRequest) :
    (∃ rejection, g.Refuses settings rejection) ∨
      ∃ pattern pieces, g.DrawsFrom settings pattern pieces := by
  rcases exists_resolves settings g with ⟨pattern, hpattern⟩ | ⟨name, hname, hall⟩
  · cases hparse : Pattern.parse pattern with
    | error f => exact Or.inl ⟨_, .faulty hpattern hparse⟩
    | ok pieces => exact Or.inr ⟨pattern, pieces, hpattern, hparse⟩
  · exact Or.inl ⟨_, .unknownPreset hname hall⟩

section

variable {σ : Type} {settings : Settings} {source : Sampling.Source σ} {g : GenerateRequest}

/-- Keys are what is drawn from the pattern, if it is resolved. -/
theorem keys_of_resolve {pattern : Text} (h : g.resolve settings = .ok pattern) (s : σ) :
    g.keys settings source s =
      let (drawn, s) := Sampling.generate source pattern g.count.value s
      ((drawn.mapError Reply.ofError).map (pattern, ·), s) := by
  simp only [GenerateRequest.keys, h]
  rcases Sampling.generate source pattern g.count.value s with ⟨_ | _, _⟩ <;> rfl

theorem keys_of_unresolved {reply : Reply} (h : g.resolve settings = .error reply) (s : σ) :
    g.keys settings source s = (.error reply, s) := by
  simp only [GenerateRequest.keys, h]

/-- Keys that are refused take no decision. -/
theorem keys_of_refuses {rejection : Rejection} (h : g.Refuses settings rejection) (s : σ) :
    g.keys settings source s = (.error (.rejected rejection), s) := by
  cases h with
  | @unknownPreset name h hall =>
    have hfind : Preset.find? name = none := by
      rw [Preset.find?, List.find?_eq_none]
      intro p hp
      simpa using hall p hp
    refine keys_of_unresolved ?_ s
    simp only [GenerateRequest.resolve, h, hfind]
  | faulty h hf =>
    rw [keys_of_resolve (resolve_of_resolves h)]
    simp only [Sampling.generate, hf]
    rfl

/-- Else keys are drawn. -/
theorem keys_of_drawsFrom {pattern : Text} {pieces : List Pattern.Piece}
    (h : g.DrawsFrom settings pattern pieces) (s : σ) :
    g.keys settings source s =
      let (drawn, s) := Sampling.generateMany source pieces g.count.value s
      (.ok (pattern, drawn), s) := by
  rw [keys_of_resolve (resolve_of_resolves h.resolves)]
  simp only [Sampling.generate, h.parses]
  rfl

/-- Pieces with alphabets that have UTF-8 forms are the only ones that keys are drawn from. -/
theorem encodable_of_drawsFrom {pattern : Text} {pieces : List Pattern.Piece}
    (h : g.DrawsFrom settings pattern pieces)
    (hc : ∀ p ∈ pieces, Text.encodable p.atom.alphabet) : g.Encodable settings := by
  intro pattern' pieces' h'
  have hpattern := (resolve_of_resolves h.resolves).symm.trans (resolve_of_resolves h'.resolves)
  cases hpattern
  have hpieces := h.parses.symm.trans h'.parses
  cases hpieces
  exact hc

/-- Drawn keys are no more than can be asked for, and they can be told if the alphabets can. -/
theorem drawn_of_encodable (hl : source.Lawful) (hg : g.Encodable settings) {pattern : Text}
    {pieces : List Pattern.Piece} (h : g.DrawsFrom settings pattern pieces) (s : σ) :
    (Sampling.generateMany source pieces g.count.value s).1.length ≤ Sampling.maxCount ∧
      (∀ key ∈ (Sampling.generateMany source pieces g.count.value s).1, Text.encodable key) ∧
      Text.encodable pattern := by
  obtain ⟨own, heq, hlength, hyields⟩ := Sampling.drawKeys_yields hl
    (Pattern.sound_of_parse h.parses) [] (Sampling.clampCount g.count.value) s
  have hc := hg pattern pieces h
  rw [Sampling.generateMany, heq]
  refine ⟨?_, fun key hkey => ?_, Pattern.encodable_of_parse h.parses hc⟩
  · exact hlength ▸ Sampling.clampCount_le g.count.value
  · exact encodable_of_yields (fun p hp _ => hc p hp) (hyields key hkey)

end

/-! ### Counts -/

/-- Why a partition count is refused: it is none, or it is beyond a limit. -/
inductive CountRefused (count : Number) (limit : Int) (beyond : Nat → Rejection) :
    Rejection → Prop where
  | notACount (h : PartitionCount.normalize count.value = .error (.partitionCount count.value)) :
      CountRefused count limit beyond (.domain (.plain .partitionCount
        (Text.lit "Invalid partition count: " ++ count.value.render) []))
  | beyond {n : Nat} (h : PartitionCount.normalize count.value = .ok n) (hlimit : limit < n) :
      CountRefused count limit beyond (beyond n)

/-- Why a demand for an assignment is refused for its count. -/
def PartitionsRefused (settings : Settings) (count : Number) : Rejection → Prop :=
  CountRefused count settings.partitioning.maxPartitionCount
    (.tooManyPartitions · settings.partitioning.maxPartitionCount)

/-- Why a demand for ranges is refused for its count. -/
def RangesRefused (settings : Settings) (count : Number) : Rejection → Prop :=
  CountRefused count settings.partitioning.maxListedRanges
    (fun _ => .tooManyRanges settings.partitioning.maxListedRanges)

/-- The number of partitions that a count stands for, within a limit. -/
structure CountAccepted (count : Number) (limit : Int) (n : Nat) : Prop where
  normalizes : PartitionCount.normalize count.value = .ok n
  le_limit : n ≤ limit

/-- A machine word holds every number of partitions that a count can be accepted for. -/
def CountPlain (settings : Settings) (count : Number) : Prop :=
  ∀ n, CountAccepted count settings.partitioning.maxPartitionCount n →
    n ≤ Distribution.lengthLimit

theorem countRefused_or_accepted (count : Number) (limit : Int) (beyond : Nat → Rejection) :
    (∃ rejection, CountRefused count limit beyond rejection) ∨
      ∃ n, CountAccepted count limit n := by
  rcases PartitionCount.normalize_cases count.value with h | ⟨n, h⟩
  · rw [PartitionCount.refusal_of_writable count.isWritable_value] at h
    exact Or.inl ⟨_, .notACount h⟩
  · by_cases hlimit : limit < n
    · exact Or.inl ⟨_, .beyond h hlimit⟩
    · exact Or.inr ⟨n, h, by omega⟩

/-! ### Reports -/

/-- Keys with UTF-8 forms have records that can be told. -/
theorem exists_encodable_records {n : Nat} (hn : 0 < n) {keys : List Text}
    (hkeys : ∀ key ∈ keys, Text.encodable key) :
    ∃ records, Assignment.analyze keys (.int n) = .ok records ∧ records.length = keys.length ∧
      ∀ a ∈ records, a.toJson.encodable := by
  obtain ⟨records, hrecords, hkey⟩ := Assignment.exists_records n hkeys
  have hnormalize : PartitionCount.normalize (.int n) = .ok n :=
    PartitionCount.normalize_eq_ok_iff.2 ⟨rfl, hn⟩
  refine ⟨records, ?_, ?_, fun a ha => ?_⟩
  · rw [Assignment.analyze, Assignment.analyzeWith_ok hnormalize hrecords]
  · rw [← hkey, List.length_map]
  · have hmem : Except.ok a ∈ keys.map (Assignment.ofKey HashKey.digestOf n) :=
      hrecords ▸ List.mem_map_of_mem ha
    obtain ⟨key, hmem, hassigned⟩ := List.mem_map.1 hmem
    exact Assignment.encodable_toJson hassigned (hkeys key hmem)

/-- A report can be told if its parts can. -/
theorem Report.encodable_of_parts {r : Report}
    (hsummary : ∀ d x, r.summary = some (d, x) → (d.toJson x).encodable)
    (hhot : ∀ p ∈ r.hot, p.toJson.encodable)
    (hrecords : ∀ records, r.records = some records → ∀ a ∈ records, a.toJson.encodable) :
    (Payload.analysis r).data.encodable := by
  obtain ⟨n, total, summary, hot, records⟩ := r
  have hhot' : (Json.array (hot.map (·.toJson))).encodable := by
    rw [Json.encodable_array_iff]
    simpa using hhot
  have hrecords' : ∀ told, records = some told →
      (Json.array (told.map (·.toJson))).encodable := by
    intro told htold
    rw [Json.encodable_array_iff]
    simpa using hrecords told htold
  rw [Payload.encodable_analysis_iff, Report.members]
  cases summary with
  | none => cases records <;> simp [hhot', hrecords']
  | some summary =>
    have hsummary' := hsummary summary.1 summary.2 rfl
    cases records <;> simp [hhot', hrecords', hsummary']

section

variable {settings : Settings} {count : Number}

/-- A count that is refused is refused before any key is looked at. -/
theorem report_of_refused {rejection : Rejection}
    (h : PartitionsRefused settings count rejection) (keys : List Text) (told : Bool) :
    report settings keys count told = .error (.rejected rejection) := by
  cases h with
  | notACount h =>
    simp only [report, h]
    rfl
  | beyond h hlimit =>
    simp only [report, h, Except.mapError, bind, Except.bind, if_pos hlimit]
    rfl

/-- The report on records, given the greatest share of a partition. -/
def Report.ofRecords (settings : Settings) (n : Nat) (records : List Assignment) (maxShare : Float)
    (told : Bool) : Report :=
  let summary := Distribution.ofIndexes n (records.map fun r => (r.partition : Int))
  ⟨n, records.length, some (summary, maxShare),
    summary.hotBy settings.partitioning.hotPartitionFactor, if told then some records else none⟩

/-- The report on no records. -/
def Report.ofNone (n : Nat) (told : Bool) : Report :=
  ⟨n, 0, none, [], if told then some [] else none⟩

section

variable {n : Nat} (h : CountAccepted count settings.partitioning.maxPartitionCount n)
  {keys : List Text} {records : List Assignment}
  (hrecords : Assignment.analyze keys (.int n) = .ok records)

include h hrecords

theorem report_eq_ofNone (hempty : records = []) (told : Bool) :
    report settings keys count told = .ok (.ofNone n told) := by
  have hlimit : ¬ (settings.partitioning.maxPartitionCount : Int) < n := Int.not_lt.2 h.le_limit
  simp only [report, h.normalizes, Except.mapError, bind, Except.bind, if_neg hlimit, hrecords,
    hempty, List.isEmpty_nil, if_true]
  rfl

theorem report_eq_ofRecords (hne : records ≠ []) {maxShare : Float}
    (hshare : (Distribution.ofIndexes n (records.map fun r => (r.partition : Int))).maxShare =
      .ok maxShare) (told : Bool) :
    report settings keys count told = .ok (.ofRecords settings n records maxShare told) := by
  have hlimit : ¬ (settings.partitioning.maxPartitionCount : Int) < n := Int.not_lt.2 h.le_limit
  simp only [report, h.normalizes, Except.mapError, bind, Except.bind, if_neg hlimit, hrecords,
    List.isEmpty_iff, if_neg hne, hshare]
  rfl

end

/-- Keys with UTF-8 forms are reported on, and the report can be told, as long as a machine word
    holds how many keys and partitions there are. -/
theorem report_of_accepted {n : Nat}
    (h : CountAccepted count settings.partitioning.maxPartitionCount n) {keys : List Text}
    (hkeys : ∀ key ∈ keys, Text.encodable key) (hlength : keys.length ≤ Distribution.lengthLimit)
    (hn : keys ≠ [] → n ≤ Distribution.lengthLimit) (told : Bool) :
    ∃ report, Service.report settings keys count told = .ok report ∧
      (Payload.analysis report).data.encodable := by
  have hpos := (PartitionCount.normalize_eq_ok_iff.1 h.normalizes).2
  obtain ⟨records, hrecords, hlen, hencodable⟩ := exists_encodable_records hpos hkeys
  by_cases hempty : records = []
  · refine ⟨_, report_eq_ofNone h hrecords hempty told, Report.encodable_of_parts ?_ ?_ ?_⟩
    · nofun
    · nofun
    · intro records' htold
      cases told <;> cases htold
      nofun
  · have hne : keys ≠ [] := by
      rintro rfl
      exact hempty (List.length_eq_zero_iff.1 hlen)
    have hindexes : records.map (fun r => (r.partition : Int)) ≠ [] := by
      rwa [ne_eq, List.map_eq_nil_iff]
    have haddressable : Distribution.Addressable n
        (records.map fun r => (r.partition : Int)) :=
      ⟨hpos, hn hne, by rwa [List.length_map, hlen]⟩
    obtain ⟨maxShare, hshare, hfinite⟩ := Distribution.exists_maxShare haddressable hindexes
    refine ⟨_, report_eq_ofRecords h hrecords hempty hshare told,
      Report.encodable_of_parts ?_ ?_ ?_⟩
    · intro d x hsummary
      cases hsummary
      exact Distribution.encodable_toJson hfinite
        (Distribution.within_average haddressable).isFinite
        (Distribution.isFinite_stddev haddressable)
    · exact Distribution.encodable_hotBy haddressable hindexes _
    · intro records' htold
      cases told <;> cases htold
      exact hencodable

/-- Keys that can be told are refused for their count, or they are reported on. -/
theorem refused_or_reported {keys : List Text} (hkeys : ∀ key ∈ keys, Text.encodable key)
    (hlength : keys.length ≤ Distribution.lengthLimit)
    (hcount : keys ≠ [] → CountPlain settings count) (told : Bool) :
    (∃ rejection, PartitionsRefused settings count rejection) ∨
      ∃ report, Service.report settings keys count told = .ok report ∧
        (Payload.analysis report).data.encodable := by
  rcases countRefused_or_accepted count settings.partitioning.maxPartitionCount
    (.tooManyPartitions · settings.partitioning.maxPartitionCount) with h | ⟨n, h⟩
  · exact Or.inl h
  · exact Or.inr (report_of_accepted h hkeys hlength (fun hne => hcount hne n h) told)

end

/-! ### Replies -/

/-- The reply that tells keys and the pattern that they are generated from. -/
def Reply.ofKeys : Except Reply (Text × List Text) → Reply
  | .error reply => reply
  | .ok (pattern, keys) => .met (.keys pattern keys)

/-- The reply that tells an assignment. -/
def Reply.ofAnalysis : Except Reply Report → Reply
  | .error reply => reply
  | .ok report => .met (.analysis report)

/-- The reply that tells an assignment of keys that were generated from a pattern. -/
def Reply.ofSimulation (pattern : Text) : Except Reply Report → Reply
  | .error reply => reply
  | .ok report => .met (.simulation report pattern)

/-- The reply that reports on generated keys. -/
def SimulateRequest.reported (settings : Settings) (r : SimulateRequest) :
    Except Reply (Text × List Text) → Reply
  | .error reply => reply
  | .ok (pattern, keys) =>
    .ofSimulation pattern (report settings keys r.partitionCount r.includeRecords)

/-- The keys of a demand for an assignment. -/
def AnalyzeRequest.allKeys (r : AnalyzeRequest) : List Text :=
  r.keys.getD [] ++ KeyList.parse (r.rawKeys.getD [])

theorem analyze_eq (settings : Settings) (r : AnalyzeRequest) :
    analyze settings r =
      .ofAnalysis (report settings r.allKeys r.partitionCount r.includeRecords) := by
  unfold analyze AnalyzeRequest.allKeys
  dsimp only
  cases report settings (r.keys.getD [] ++ KeyList.parse (r.rawKeys.getD [])) r.partitionCount
    r.includeRecords <;> rfl

section

variable {σ : Type} (settings : Settings) (source : Sampling.Source σ)

/-- A demand for keys tells what is drawn. -/
theorem generate_eq (g : GenerateRequest) (s : σ) :
    generate settings source g s =
      (.ofKeys (g.keys settings source s).1, (g.keys settings source s).2) := by
  unfold generate
  rcases g.keys settings source s with ⟨_ | _, _⟩ <;> rfl

/-- A demand for a simulation reports on what is drawn. -/
theorem simulate_eq (r : SimulateRequest) (s : σ) :
    simulate settings source r s =
      (r.reported settings (r.generation.keys settings source s).1,
        (r.generation.keys settings source s).2) := by
  unfold simulate
  rcases r.generation.keys settings source s with ⟨reply | ⟨pattern, keys⟩, s'⟩
  · rfl
  · simp only [SimulateRequest.reported]
    cases report settings keys r.partitionCount r.includeRecords <;> rfl

end

end Keyspace.Service
