import Keyspace.Proofs.Draws
import Keyspace.Proofs.Service.Demands

/-!
A simulation is a demand for keys, and behind it one for their assignment.

Both make their replies of the same keys (`generate_eq`, `simulate_eq`), and so take the same
decisions. What the keys are refused for, the simulation is refused for; else it comes to what their
assignment comes to, with the pattern beside it.

    keys        rejected ─────────▶ rejected         told ──┬─────────▶ assignment ──▶ told
    simulation  rejected (same)                             └ pattern ──────────────▶ told with it
-/

namespace Keyspace.Service

/-- The demand for the assignment of generated keys, as a simulation makes it. -/
def SimulateRequest.analysis (r : SimulateRequest) (keys : List Text) : AnalyzeRequest :=
  ⟨some keys, none, r.partitionCount, r.includeRecords⟩

/-- What a simulation comes to, from what the demand for its keys comes to, and behind that the
    demand for their assignment. -/
inductive Composes (settings : Settings) (r : SimulateRequest) : Reply → Reply → Prop where
  | ungenerated (rejection : Rejection) :
      Composes settings r (.rejected rejection) (.rejected rejection)
  | unassigned {pattern : Text} {keys : List Text} {rejection : Rejection}
      (h : analyze settings (r.analysis keys) = .rejected rejection) :
      Composes settings r (.met (.keys pattern keys)) (.rejected rejection)
  | failed {pattern : Text} {keys : List Text} (h : analyze settings (r.analysis keys) = .failed) :
      Composes settings r (.met (.keys pattern keys)) .failed
  | assigned {pattern : Text} {keys : List Text} {report : Report}
      (hpattern : r.generation.Resolves settings pattern)
      (h : analyze settings (r.analysis keys) = .met (.analysis report)) :
      Composes settings r (.met (.keys pattern keys)) (.met (.simulation report pattern))

/-- Where keys are generated and assigned, the simulation tells both. -/
theorem Composes.eq_simulation {settings : Settings} {r : SimulateRequest} {pattern : Text}
    {keys : List Text} {reply : Reply} {report : Report}
    (h : Composes settings r (.met (.keys pattern keys)) reply)
    (hanalyze : analyze settings (r.analysis keys) = .met (.analysis report)) :
    reply = .met (.simulation report pattern) := by
  cases h with
  | unassigned h | failed h =>
    rw [h] at hanalyze
    cases hanalyze
  | assigned _ h =>
    rw [h] at hanalyze
    cases hanalyze
    rfl

theorem analyze_analysis (settings : Settings) (r : SimulateRequest) (keys : List Text) :
    analyze settings (r.analysis keys) =
      .ofAnalysis (report settings keys r.partitionCount r.includeRecords) := by
  have hkeys : (r.analysis keys).allKeys = keys := List.append_nil keys
  rw [analyze_eq, hkeys]
  rfl

/-! ### What is not met -/

/-- A result, or a reply that rejects or fails. -/
def MetOrStopped {α : Type} (x : Except Reply α) : Prop :=
  ∀ reply, x = .error reply → (∃ rejection, reply = .rejected rejection) ∨ reply = .failed

theorem metOrStopped_ok {α : Type} (a : α) : MetOrStopped (.ok a) := nofun

theorem metOrStopped_mapError {α : Type} (x : Except Error α) :
    MetOrStopped (x.mapError Reply.ofError) := by
  intro reply h
  cases x with
  | ok a => cases h
  | error e =>
    cases h
    unfold Reply.ofError
    split
    · exact Or.inl ⟨_, rfl⟩
    · exact Or.inr rfl

theorem MetOrStopped.bind {α β : Type} {x : Except Reply α} {f : α → Except Reply β}
    (h : MetOrStopped x) (h' : ∀ a, MetOrStopped (f a)) : MetOrStopped (x >>= f) := by
  cases x with
  | ok a => exact h' a
  | error reply => exact fun _ heq => h _ (by cases heq; rfl)

section

variable {settings : Settings}

theorem metOrStopped_report (keys : List Text) (count : Number) (told : Bool) :
    MetOrStopped (report settings keys count told) := by
  refine (metOrStopped_mapError _).bind fun n => ?_
  dsimp only
  split
  · rintro reply ⟨⟩
    exact Or.inl ⟨_, rfl⟩
  refine (metOrStopped_mapError _).bind fun records => ?_
  split
  · exact metOrStopped_ok _
  · exact (metOrStopped_mapError _).bind fun maxShare => metOrStopped_ok _

/-! ### Keys, and then their assignment -/

/-- Generated keys are reported on as their assignment is. -/
theorem composes_reported {r : SimulateRequest} {pattern : Text}
    (hpattern : r.generation.Resolves settings pattern) (keys : List Text) :
    Composes settings r (.met (.keys pattern keys))
      (r.reported settings (.ok (pattern, keys))) := by
  have hanalyze := analyze_analysis settings r keys
  change Composes settings r _ (.ofSimulation pattern (report settings keys _ _))
  cases hreport : report settings keys r.partitionCount r.includeRecords with
  | error reply =>
    rw [hreport] at hanalyze
    rcases metOrStopped_report _ _ _ _ hreport with ⟨rejection, rfl⟩ | rfl
    · exact .unassigned hanalyze
    · exact .failed hanalyze
  | ok report =>
    rw [hreport] at hanalyze
    exact .assigned hpattern hanalyze

end

section

variable {σ : Type} {settings : Settings} {source : Sampling.Source σ}

variable (settings source) in
theorem composes (r : SimulateRequest) (s : σ) :
    Composes settings r (generate settings source r.generation s).1
      (simulate settings source r s).1 := by
  rw [generate_eq, simulate_eq]
  rcases refuses_or_drawsFrom settings r.generation with
    ⟨rejection, h⟩ | ⟨pattern, pieces, h⟩
  · rw [keys_of_refuses h]
    exact .ungenerated rejection
  · rw [keys_of_drawsFrom h]
    exact composes_reported h.resolves _

/-- Keys of alphabets with UTF-8 forms can be told, and so can their pattern. -/
theorem drawn_of_met (hl : source.Lawful) {g : GenerateRequest} (hg : g.Encodable settings) {s : σ}
    {pattern : Text} {keys : List Text}
    (h : (generate settings source g s).1 = .met (.keys pattern keys)) :
    keys.length ≤ Sampling.maxCount ∧ (∀ key ∈ keys, Text.encodable key) ∧
      Text.encodable pattern := by
  rcases refuses_or_drawsFrom settings g with ⟨rejection, hrefuses⟩ | ⟨pattern', pieces, hdraws⟩
  · rw [generate_eq, keys_of_refuses hrefuses] at h
    cases h
  · have hdrawn := drawn_of_encodable hl hg hdraws s
    rw [generate_eq, keys_of_drawsFrom hdraws] at h
    cases h
    exact hdrawn

end

/-- Keys that can be told are assigned, unless their count is refused. -/
theorem analysis_rejected_or_told {settings : Settings} {r : SimulateRequest} {keys : List Text}
    (hlength : keys.length ≤ Sampling.maxCount) (hkeys : ∀ key ∈ keys, Text.encodable key)
    (hcount : CountPlain settings r.partitionCount) :
    (∃ rejection, analyze settings (r.analysis keys) = .rejected rejection) ∨
      (analyze settings (r.analysis keys)).response.status = 200 := by
  rw [analyze_analysis]
  rcases refused_or_reported hkeys (hlength.trans (by decide)) (fun _ => hcount)
    r.includeRecords with ⟨rejection, h⟩ | ⟨report, hreport, hdata⟩
  · refine Or.inl ⟨rejection, ?_⟩
    rw [report_of_refused h]
    rfl
  · refine Or.inr ?_
    rw [hreport, Reply.ofAnalysis, Reply.response_met hdata]
    rfl

/-- How generated keys, their assignment and the simulation are answered: the keys are told, the
    assignment is rejected or told, and where it is told, the simulation is told with it. -/
structure ToldAlike (settings : Settings) (r : SimulateRequest) (pattern : Text) (keys : List Text)
    (generated simulated : Reply) : Prop where
  generated_told : generated.response = .content 200 (Payload.keys pattern keys).body
  analyzed_told : CountPlain settings r.partitionCount →
    (∃ rejection, analyze settings (r.analysis keys) = .rejected rejection) ∨
      (analyze settings (r.analysis keys)).response.status = 200
  simulated_told : ∀ report, analyze settings (r.analysis keys) = .met (.analysis report) →
    (analyze settings (r.analysis keys)).response.status = 200 →
    simulated.response = .content 200 (Payload.simulation report pattern).body

/-- A simulation is a demand for its keys and then one for their assignment: whatever rejects one of
    the two rejects it, and else it is told with the data of the assignment and the pattern. It
    takes the decisions that its keys take, whatever becomes of them. -/
theorem simulate_composes {σ : Type} (settings : Settings) (source : Sampling.Source σ)
    (r : SimulateRequest) (s : σ) :
    Composes settings r (generate settings source r.generation s).1
        (simulate settings source r s).1 ∧
      (simulate settings source r s).2 = (generate settings source r.generation s).2 ∧
      (∀ k, (simulate settings source.counted r (s, k)).2 =
        (generate settings source.counted r.generation (s, k)).2) ∧
      (source.Lawful → r.generation.Encodable settings → ∀ pattern keys,
        (generate settings source r.generation s).1 = .met (.keys pattern keys) →
        ToldAlike settings r pattern keys (generate settings source r.generation s).1
          (simulate settings source r s).1) := by
  have hcomposes := composes settings source r s
  refine ⟨hcomposes, ?_, fun k => ?_, fun hl hg pattern keys hmet => ?_⟩
  · rw [generate_eq, simulate_eq]
  · rw [generate_eq, simulate_eq]
  obtain ⟨hlength, hkeys, hpattern⟩ := drawn_of_met hl hg hmet
  rw [hmet] at hcomposes ⊢
  refine ⟨Reply.response_met (Payload.encodable_keys_iff.2 ⟨hpattern, hkeys⟩),
    analysis_rejected_or_told hlength hkeys, fun report hanalyze hstatus => ?_⟩
  rw [hanalyze] at hstatus
  rw [hcomposes.eq_simulation hanalyze]
  exact Reply.response_met
    (Payload.encodable_simulation_iff.2 ⟨Payload.encodable_of_status hstatus, hpattern⟩)

/-- Two keys of two letters out of three, over four partitions. -/
theorem simulate_composes_letters :
    let r : SimulateRequest :=
      ⟨⟨some (Text.lit "[a-c]\x7b2\x7d"), none, .int ⟨2, rfl⟩⟩, .int ⟨4, rfl⟩, true⟩
    let feed : Sampling.Feed := .cycle #[7, 1, 3] 0
    let keys := [Text.lit "bb", Text.lit "ab"]
    Sampling.Feed.source.Lawful ∧ r.generation.Encodable {} ∧
      (generate {} Sampling.Feed.source r.generation feed).1 =
        .met (.keys (Text.lit "[a-c]\x7b2\x7d") keys) ∧
      ∃ report, analyze {} (r.analysis keys) = .met (.analysis report) ∧
        (analyze {} (r.analysis keys)).response.status = 200 ∧
        (simulate {} Sampling.Feed.source r feed).1.response =
          .content 200 (Payload.simulation report (Text.lit "[a-c]\x7b2\x7d")).body ∧
        (simulate {} Sampling.Feed.source.counted r (feed, 0)).2.2 = 4 := by
  intro r feed keys
  have hparse : Pattern.parse (Text.lit "[a-c]\x7b2\x7d") =
      .ok [⟨.charClass (Text.lit "abc"), 2, 2⟩] := by cbv
  have hdraws : r.generation.DrawsFrom {} (Text.lit "[a-c]\x7b2\x7d")
      [⟨.charClass (Text.lit "abc"), 2, 2⟩] := ⟨.given rfl rfl, hparse⟩
  have hg : r.generation.Encodable {} := encodable_of_drawsFrom hdraws (by decide)
  have hkeys : (generate {} Sampling.Feed.source r.generation feed).1 =
      .met (.keys (Text.lit "[a-c]\x7b2\x7d") keys) := by
    rw [generate_eq, keys_of_drawsFrom hdraws]
    rfl
  have haccepted : CountAccepted r.partitionCount
      ({} : Settings).partitioning.maxPartitionCount 4 := ⟨rfl, by decide⟩
  have hencodable : ∀ key ∈ keys, Text.encodable key := by decide
  obtain ⟨report, hreport, hdata⟩ := report_of_accepted haccepted hencodable (by decide)
    (fun _ => by decide) r.includeRecords
  have hanalyze : analyze {} (r.analysis keys) = .met (.analysis report) := by
    rw [analyze_analysis, hreport]
    rfl
  have hstatus : (analyze {} (r.analysis keys)).response.status = 200 := by
    rw [hanalyze, Reply.response_met hdata]
    rfl
  obtain ⟨_, _, hcounted, htold⟩ := simulate_composes {} Sampling.Feed.source r feed
  have hsimulate := (htold Sampling.Feed.source_lawful hg _ _ hkeys).simulated_told
  refine ⟨Sampling.Feed.source_lawful, hg, hkeys, report, hanalyze, hstatus,
    hsimulate report hanalyze hstatus, ?_⟩
  rw [hcounted]
  decide +kernel

end Keyspace.Service
