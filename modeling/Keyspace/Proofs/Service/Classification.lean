import Keyspace.Proofs.Service.Demands
import Keyspace.Proofs.Service.Health

/-!
What a validated request is answered.

A demand is rejected for the first reason that applies: the preset, the pattern, then the count, and
last the limit (`Demand.Rejects`). Else it is met. What is met is told with status 200 and what is
rejected with status 400, if the body can be sent. Of the bodies that the service makes of a plain
demand one kind cannot: that of a range in a pattern that is not in order and ends in a code point
without a UTF-8 form, since the message shows both ends.
-/

namespace Keyspace.Service

/-! ### What rejects a demand -/

/-- Why a demand is rejected. A simulation looks at its count behind its preset and pattern. -/
inductive Demand.Rejects (settings : Settings) : Demand → Rejection → Prop where
  | generate {g : GenerateRequest} {rejection : Rejection} (h : g.Refuses settings rejection) :
      Rejects settings (.generate g) rejection
  | analyze {r : AnalyzeRequest} {rejection : Rejection}
      (h : PartitionsRefused settings r.partitionCount rejection) :
      Rejects settings (.analyze r) rejection
  | ranges {count : Number} {rejection : Rejection} (h : RangesRefused settings count rejection) :
      Rejects settings (.ranges count) rejection
  | simulateKeys {r : SimulateRequest} {rejection : Rejection}
      (h : r.generation.Refuses settings rejection) : Rejects settings (.simulate r) rejection
  | simulateCount {r : SimulateRequest} {rejection : Rejection} {pattern : Text}
      {pieces : List Pattern.Piece} (hdraws : r.generation.DrawsFrom settings pattern pieces)
      (h : PartitionsRefused settings r.partitionCount rejection) :
      Rejects settings (.simulate r) rejection

/-- A preset that is a text, and a pattern of alphabets with UTF-8 forms. -/
structure GenerateRequest.Plain (settings : Settings) (g : GenerateRequest) : Prop where
  inCodeSpace : ∀ name, g.preset = some name → Text.InCodeSpace name
  encodable : g.Encodable settings

/-- A demand with texts that can be told and numbers that lists can have as a length. -/
def Demand.Plain (settings : Settings) : Demand → Prop
  | .overview =>
    Text.encodable settings.appName ∧ Text.encodable settings.keygen.defaultPattern
  | .analyze r =>
    (∀ key ∈ r.allKeys, Text.encodable key) ∧ r.allKeys.length ≤ Distribution.lengthLimit ∧
      (r.allKeys ≠ [] → CountPlain settings r.partitionCount)
  | .generate g => g.Plain settings
  | .simulate r => r.generation.Plain settings ∧ CountPlain settings r.partitionCount
  | .ranges _ | .health => True

section

variable {settings : Settings} {count : Number}

theorem ranges_of_refused {rejection : Rejection} (h : RangesRefused settings count rejection) :
    ranges settings count = .rejected rejection := by
  cases h with
  | notACount h =>
    simp only [ranges, h]
    rfl
  | beyond h hlimit => simp only [ranges, h, if_pos hlimit]

theorem ranges_of_accepted {n : Nat}
    (h : CountAccepted count settings.partitioning.maxListedRanges n) :
    ranges settings count = .met (.ranges n (HashKeyRange.table n)) := by
  simp only [ranges, h.normalizes, if_neg (Int.not_lt.2 h.le_limit)]

end

section

variable {σ : Type} {settings : Settings} {source : Sampling.Source σ} {r : Request} {d : Demand}

/-- What rejects a demand is what it is answered. -/
theorem replyTo_of_rejects (hd : r.normal.demand settings = .ok d) {rejection : Rejection}
    (h : d.Rejects settings rejection) (c : Counters) (s : σ) :
    (replyTo settings source c r s).1 = .rejected rejection := by
  rw [replyTo, reply, hd]
  cases h with
  | generate h => simp only [generate_eq, keys_of_refuses h, Reply.ofKeys]
  | analyze h => simp only [analyze_eq, report_of_refused h, Reply.ofAnalysis]
  | ranges h => simp only [ranges_of_refused h]
  | simulateKeys h => simp only [simulate_eq, keys_of_refuses h, SimulateRequest.reported]
  | simulateCount hdraws h =>
    simp only [simulate_eq, keys_of_drawsFrom hdraws, SimulateRequest.reported,
      report_of_refused h, Reply.ofSimulation]

/-- A plain demand that nothing rejects is met, and what it is answered can be told. -/
theorem rejects_or_met (hl : source.Lawful) (hd : r.normal.demand settings = .ok d)
    (hplain : d.Plain settings) {c : Counters} (hc : c.failures ≤ c.requests) (s : σ) :
    (∃ rejection, d.Rejects settings rejection) ∨
      ∃ payload, (replyTo settings source c r s).1 = .met payload ∧ payload.data.encodable := by
  rw [replyTo, reply, hd]
  cases d with
  | overview => exact Or.inr ⟨_, rfl, Payload.encodable_overview hplain.1 hplain.2⟩
  | health => exact Or.inr ⟨_, rfl, Payload.encodable_health (Nat.le_add_right_of_le hc)⟩
  | ranges count =>
    rcases countRefused_or_accepted count settings.partitioning.maxListedRanges
      (fun _ => .tooManyRanges settings.partitioning.maxListedRanges) with ⟨_, h⟩ | ⟨n, h⟩
    · exact Or.inl ⟨_, .ranges h⟩
    · exact Or.inr ⟨_, ranges_of_accepted h, Payload.encodable_ranges n _⟩
  | analyze request =>
    obtain ⟨hkeys, hlength, hcount⟩ := hplain
    rcases refused_or_reported hkeys hlength hcount request.includeRecords with
      ⟨_, h⟩ | ⟨report, hreport, hdata⟩
    · exact Or.inl ⟨_, .analyze h⟩
    · refine Or.inr ⟨.analysis report, ?_, hdata⟩
      simp only [analyze_eq, hreport, Reply.ofAnalysis]
  | generate g =>
    rcases refuses_or_drawsFrom settings g with ⟨_, h⟩ | ⟨pattern, pieces, h⟩
    · exact Or.inl ⟨_, .generate h⟩
    · obtain ⟨_, hkeys, hpattern⟩ := drawn_of_encodable hl hplain.encodable h s
      refine Or.inr ⟨.keys pattern _, ?_, Payload.encodable_keys_iff.2 ⟨hpattern, hkeys⟩⟩
      simp only [generate_eq, keys_of_drawsFrom h, Reply.ofKeys]
  | simulate request =>
    obtain ⟨hgeneration, hcount⟩ := hplain
    rcases refuses_or_drawsFrom settings request.generation with ⟨_, h⟩ | ⟨pattern, pieces, hdraws⟩
    · exact Or.inl ⟨_, .simulateKeys h⟩
    obtain ⟨hlength, hkeys, hpattern⟩ := drawn_of_encodable hl hgeneration.encodable hdraws s
    rcases refused_or_reported hkeys (hlength.trans (by decide)) (fun _ => hcount)
      request.includeRecords with ⟨_, h⟩ | ⟨report, hreport, hdata⟩
    · exact Or.inl ⟨_, .simulateCount hdraws h⟩
    · refine Or.inr ⟨.simulation report pattern, ?_,
        Payload.encodable_simulation_iff.2 ⟨hdata, hpattern⟩⟩
      simp only [simulate_eq, keys_of_drawsFrom hdraws, SimulateRequest.reported, hreport,
        Reply.ofSimulation]

end

/-! ### What a rejection is told as -/

/-- A rejection that no body can tell: a range that is not in order, of which an end has no UTF-8
    form. -/
inductive Rejection.Untellable : Rejection → Prop where
  | reversedRange {first last : CodePoint} {position : Nat}
      (h : ¬ (Text.isScalar first ∧ Text.isScalar last)) :
      Untellable (.domain (Pattern.Fault.report ⟨.reversedRange first last, position⟩))

theorem not_encodable_of_untellable {rejection : Rejection} (h : rejection.Untellable) :
    ¬ rejection.body.encodable := by
  cases h with
  | @reversedRange first last position h =>
    rw [Rejection.encodable_body_iff (by exact ErrorKind.encodable_name .invalidRange)]
    change ¬ Text.encodable (Pattern.Fault.report ⟨.reversedRange first last, position⟩).message
    rw [Pattern.encodable_report]
    simpa [Pattern.Cause.message] using h

theorem encodable_of_countRefused {count : Number} {limit : Int} {beyond : Nat → Rejection}
    (hbeyond : ∀ n, (beyond n).body.encodable) {rejection : Rejection}
    (h : CountRefused count limit beyond rejection) : rejection.body.encodable := by
  cases h with
  | notACount h =>
    refine (Rejection.encodable_body_iff (by exact ErrorKind.encodable_name .partitionCount)).2 ?_
    change Text.encodable (Text.lit "Invalid partition count: " ++ count.value.render)
    rw [Text.encodable_append, Text.encodable_lit, count.encodable_render]
    rfl
  | beyond h hlimit => exact hbeyond _

theorem encodable_of_refuses {settings : Settings} {g : GenerateRequest} (hplain : g.Plain settings)
    {rejection : Rejection} (h : g.Refuses settings rejection)
    (htellable : ¬ rejection.Untellable) : rejection.body.encodable := by
  cases h with
  | unknownPreset hpreset hall =>
    exact Rejection.encodable_unknownPreset (hplain.inCodeSpace _ hpreset)
  | @faulty pattern f hresolves hf =>
    refine (Rejection.encodable_body_iff (by exact ErrorKind.encodable_name f.cause.kind)).2 ?_
    change Text.encodable f.report.message
    rw [Pattern.encodable_report, Pattern.encodable_message_iff (Pattern.genuine_of_parse hf)]
    rintro c ⟨first, last, hcause, hend⟩
    by_contra hscalar
    obtain ⟨cause, position⟩ := f
    cases hcause
    refine htellable (.reversedRange ?_)
    rintro ⟨hfirst, hlast⟩
    rcases hend with rfl | rfl <;> contradiction

/-- What rejects a plain demand can be told, but for such a range. -/
theorem encodable_body_of_rejects {settings : Settings} {d : Demand} (hplain : d.Plain settings)
    {rejection : Rejection} (h : d.Rejects settings rejection)
    (htellable : ¬ rejection.Untellable) : rejection.body.encodable := by
  cases h with
  | generate h => exact encodable_of_refuses hplain h htellable
  | analyze h =>
    exact encodable_of_countRefused (fun n => Rejection.encodable_tooManyPartitions n _) h
  | ranges h => exact encodable_of_countRefused (fun _ => Rejection.encodable_tooManyRanges _) h
  | simulateKeys h => exact encodable_of_refuses hplain.1 h htellable
  | simulateCount _ h =>
    exact encodable_of_countRefused (fun n => Rejection.encodable_tooManyPartitions n _) h

/-! ### The classification -/

/-- The response to a request for which something is asked is that of its reply. -/
theorem response_of_demand {settings : Settings} {r : Request} {d : Demand}
    (hd : r.normal.demand settings = .ok d) (reply : Reply) :
    (⟨r, reply⟩ : Exchange).response = reply.response := by
  rw [Exchange.response, Request.told, isHead_of_demand hd]
  rfl

/-- A plain request is rejected for exactly the reasons that apply first, and else met. What is met
    is answered with status 200. What is rejected is answered with status 400, its code and its
    message, but for a range that is not in order and has an end without a UTF-8 form: its message
    cannot be sent, and the answer has status 500. -/
theorem plain_requests_answered {σ : Type} {settings : Settings} {source : Sampling.Source σ}
    (hl : source.Lawful) {r : Request} {d : Demand} (hd : r.normal.demand settings = .ok d)
    (hplain : d.Plain settings) {c : Counters} (hc : c.failures ≤ c.requests) (s : σ) :
    (∀ rejection, (replyTo settings source c r s).1 = .rejected rejection ↔
      d.Rejects settings rejection) ∧
    (∀ rejection, d.Rejects settings rejection →
      (rejection.Untellable →
        (⟨r, (replyTo settings source c r s).1⟩ : Exchange).response = .failure) ∧
      (¬ rejection.Untellable →
        (⟨r, (replyTo settings source c r s).1⟩ : Exchange).response =
          .content 400 rejection.body)) ∧
    ((∀ rejection, ¬ d.Rejects settings rejection) →
      ∃ payload, (replyTo settings source c r s).1 = .met payload ∧
        (⟨r, (replyTo settings source c r s).1⟩ : Exchange).response =
          .content 200 payload.body) := by
  have hcases := rejects_or_met hl hd hplain hc s
  refine ⟨fun rejection => ⟨fun h => ?_, fun h => replyTo_of_rejects hd h c s⟩,
    fun rejection h => ?_, fun hnone => ?_⟩
  · rcases hcases with ⟨other, hother⟩ | ⟨payload, hmet, _⟩
    · rw [replyTo_of_rejects hd hother] at h
      cases h
      exact hother
    · rw [hmet] at h
      cases h
  · rw [response_of_demand hd, replyTo_of_rejects hd h]
    exact ⟨fun htold => Response.ofBody_of_not_encodable (not_encodable_of_untellable htold),
      fun htold => Response.ofBody_of_encodable (encodable_body_of_rejects hplain h htold)⟩
  · rcases hcases with ⟨rejection, h⟩ | ⟨payload, hmet, hdata⟩
    · exact absurd h (hnone rejection)
    · refine ⟨payload, hmet, ?_⟩
      rw [response_of_demand hd, hmet, Reply.response_met hdata]

/-- A range from one surrogate down to another is rejected, and answered with status 500. -/
theorem plain_requests_answered_surrogates :
    let r := postRequest "/keys/generate" "\x7b\"pattern\":\"[\\udc00-\\ud800]\"\x7d"
    let pattern : Text := [cp '[', 0xDC00, cp '-', 0xD800, cp ']']
    let rejection : Rejection := .domain (Pattern.Fault.report ⟨.reversedRange 0xDC00 0xD800, 1⟩)
    Sampling.Feed.source.Lawful ∧
      r.normal.demand {} = .ok (.generate ⟨some pattern, none, .int ⟨1000, rfl⟩⟩) ∧
      Demand.Plain {} (.generate ⟨some pattern, none, .int ⟨1000, rfl⟩⟩) ∧
      (replyTo {} Sampling.Feed.source .zero r .extremes).1 = .rejected rejection ∧
      (⟨r, (replyTo {} Sampling.Feed.source .zero r .extremes).1⟩ : Exchange).response =
        .failure := by
  intro r pattern rejection
  have hd : r.normal.demand {} = .ok (.generate ⟨some pattern, none, .int ⟨1000, rfl⟩⟩) := by rfl
  have hparse : Pattern.parse pattern = .error ⟨.reversedRange 0xDC00 0xD800, 1⟩ := by cbv
  have hrejects : Demand.Rejects {} (.generate ⟨some pattern, none, .int ⟨1000, rfl⟩⟩) rejection :=
    .generate (.faulty (.given rfl rfl) hparse)
  have hplain : Demand.Plain {} (.generate ⟨some pattern, none, .int ⟨1000, rfl⟩⟩) := by
    refine ⟨fun name h => ?_, fun pattern' pieces h => ?_⟩
    · cases h
    have hpattern := resolve_of_resolves h.resolves
    cases hpattern
    cases hparse.symm.trans h.parses
  have hc : Counters.zero.failures ≤ Counters.zero.requests := Nat.le_refl 0
  obtain ⟨hreply, hanswer, _⟩ :=
    plain_requests_answered Sampling.Feed.source_lawful hd hplain hc .extremes
  exact ⟨Sampling.Feed.source_lawful, hd, hplain, (hreply rejection).2 hrejects,
    (hanswer rejection hrejects).1 (.reversedRange (by decide))⟩

end Keyspace.Service
