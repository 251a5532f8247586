import Mathlib.Data.List.Forall2
import Keyspace.Proofs.Draws
import Keyspace.Proofs.Service.Demands
import Keyspace.Proofs.Service.Health

/-!
Requests do not disturb each other.

What a request comes to depends on the state of the source of decisions, and only a health check
looks at the counters. So two runs over the same requests that begin in the same state and with
different counters go alike, but for what the health checks tell (`run_sameAside`). A request that
takes no decision leaves the state as it was, and the run goes on behind it as if it had not been:

    before ─────▶ state, counters ── r ──▶ state, counters' ─────▶ after
                  state, counters ───────────────────────────────▶ after

That no decision is taken is told by the counted source, which answers as its source does.
-/

namespace Keyspace.Service

/-- Two answers are the same, but for the counters that a health check tells. -/
inductive SameAside : Answer → Answer → Prop where
  | same (a : Answer) : SameAside a a
  | health (c c' : Counters) : SameAside (healthAnswer c) (healthAnswer c')

/-! ### What asks for no decision -/

/-- Whether a demand needs no keys to be generated, or is rejected before any are. -/
def Demand.Quiet (settings : Settings) : Demand → Prop
  | .generate g => ∃ rejection, g.Refuses settings rejection
  | .simulate request => ∃ rejection, request.generation.Refuses settings rejection
  | _ => True

/-- Whether a request generates no key, be it that it is turned away. -/
def Request.Quiet (settings : Settings) (r : Request) : Prop :=
  ∀ d, r.normal.demand settings = .ok d → d.Quiet settings

section

variable {σ : Type} {settings : Settings} {source : Sampling.Source σ}

theorem replyTo_of_quiet {r : Request} (h : r.Quiet settings) (c : Counters) (s : σ) :
    (replyTo settings source c r s).2 = s := by
  rw [replyTo, reply]
  cases hd : r.normal.demand settings with
  | error refusal => rfl
  | ok d =>
    have hquiet := h d hd
    cases d with
    | generate g =>
      obtain ⟨rejection, hrefuses⟩ := hquiet
      simp only [generate_eq, keys_of_refuses hrefuses]
    | simulate request =>
      obtain ⟨rejection, hrefuses⟩ := hquiet
      simp only [simulate_eq, keys_of_refuses hrefuses]
    | _ => rfl

/-! ### Counting decisions -/

theorem tallies_keys (g : GenerateRequest) :
    Sampling.Tallies (g.keys settings source) (g.keys settings source.counted) := by
  cases h : g.resolve settings with
  | error reply =>
    simp only [funext (keys_of_unresolved h)]
    exact .pure _
  | ok pattern =>
    simp only [funext (keys_of_resolve h)]
    exact (Sampling.tallies_generate source pattern g.count.value).map fun drawn =>
      (drawn.mapError Reply.ofError).map (pattern, ·)

variable (settings source) in
theorem tallies_replyTo (c : Counters) (r : Request) :
    Sampling.Tallies (replyTo settings source c r) (replyTo settings source.counted c r) := by
  unfold replyTo reply
  cases r.normal.demand settings with
  | error refusal => exact .pure _
  | ok d =>
    cases d with
    | generate g =>
      simp only [funext (generate_eq settings _ g)]
      exact (tallies_keys g).map Reply.ofKeys
    | simulate request =>
      simp only [funext (simulate_eq settings _ request)]
      exact (tallies_keys request.generation).map (request.reported settings)
    | _ => exact .pure _

variable (settings source) in
/-- A run with counted decisions is the run beside a count. -/
theorem run_counted (c : Counters) (requests : List Request) (s : σ) (k : Nat) :
    ∃ d, run settings source.counted c requests (s, k) =
      ⟨(run settings source c requests s).exchanges, (run settings source c requests s).counters,
        ((run settings source c requests s).state, k + d)⟩ := by
  induction requests generalizing c s k with
  | nil => exact ⟨0, rfl⟩
  | cons r rest ih =>
    obtain ⟨d, hreply, _⟩ := tallies_replyTo settings source c r s k
    obtain ⟨d', hrest⟩ := ih (c.ask.note ⟨r, (replyTo settings source c r s).1⟩)
      (replyTo settings source c r s).2 (k + d)
    refine ⟨d + d', ?_⟩
    simp only [run_cons, hreply, hrest, Nat.add_assoc]

/-- How many decisions requests to a fresh service take. -/
def draws (settings : Settings) (source : Sampling.Source σ) (requests : List Request) (s : σ) :
    Nat :=
  (serve settings source.counted requests (s, 0)).2.2

/-- A request behind others that takes no decision leaves the state as it was. -/
theorem state_of_draws_eq {before : List Request} {r : Request} {s : σ}
    (h : draws settings source (before ++ [r]) s = draws settings source before s) :
    (replyTo settings source (run settings source .zero before s).counters r
      (run settings source .zero before s).state).2 =
      (run settings source .zero before s).state := by
  obtain ⟨k, hbefore⟩ := run_counted settings source .zero before s 0
  obtain ⟨d, hreply, hzero⟩ := tallies_replyTo settings source
    (run settings source .zero before s).counters r (run settings source .zero before s).state
    (0 + k)
  refine hzero ?_
  simp only [draws, serve_eq, run_append, hbefore, hreply, run] at h
  omega

theorem draws_of_quiet {r : Request} (h : r.Quiet settings) (before : List Request) (s : σ) :
    draws settings source (before ++ [r]) s = draws settings source before s := by
  simp only [draws, serve_eq, run_append, run, replyTo_of_quiet h]

/-! ### Runs with other counters -/

theorem replyTo_of_not_health {r : Request} (h : r.normal.demand settings ≠ .ok .health)
    (c c' : Counters) (s : σ) :
    replyTo settings source c r s = replyTo settings source c' r s := by
  unfold replyTo reply
  cases hd : r.normal.demand settings with
  | error refusal => rfl
  | ok d =>
    cases d with
    | health => exact absurd hd h
    | _ => rfl

variable (settings source) in
/-- One request comes to the same whatever has been counted, but for a health check. -/
theorem replyTo_sameAside {c c' : Counters} (hc : c.failures ≤ c.requests)
    (hc' : c'.failures ≤ c'.requests) (r : Request) (s : σ) :
    SameAside (⟨r, (replyTo settings source c r s).1⟩ : Exchange).answer
        (⟨r, (replyTo settings source c' r s).1⟩ : Exchange).answer ∧
      (replyTo settings source c r s).2 = (replyTo settings source c' r s).2 := by
  by_cases hr : r.normal.demand settings = .ok .health
  · rw [answer_health hr hc, answer_health hr hc', replyTo_of_demand_health hr,
      replyTo_of_demand_health hr]
    exact ⟨.health _ _, rfl⟩
  · rw [replyTo_of_not_health hr c c']
    exact ⟨.same _, rfl⟩

variable (settings source) in
/-- So do requests in a row. -/
theorem run_sameAside {c c' : Counters} (hc : c.failures ≤ c.requests)
    (hc' : c'.failures ≤ c'.requests) (requests : List Request) (s : σ) :
    List.Forall₂ SameAside ((run settings source c requests s).exchanges.map Exchange.answer)
        ((run settings source c' requests s).exchanges.map Exchange.answer) ∧
      (run settings source c requests s).state = (run settings source c' requests s).state := by
  induction requests generalizing c c' s with
  | nil => exact ⟨.nil, rfl⟩
  | cons r rest ih =>
    obtain ⟨hanswer, hstate⟩ :=
      replyTo_sameAside settings source hc hc' r s
    obtain ⟨hrest, hfinal⟩ := ih (Counters.failures_le_note hc _)
      (Counters.failures_le_note hc' _) (replyTo settings source c r s).2
    simp only [run_cons, List.map_cons, ← hstate]
    exact ⟨.cons hanswer hrest, hfinal⟩

/-- Behind a request that leaves the state as it was, a run goes on as it does without it: with
    other counters, but from the same state. -/
theorem serve_without {before : List Request} {r : Request} {s : σ} {earlier : Run σ}
    (hrun : run settings source .zero before s = earlier)
    (hstate : (replyTo settings source earlier.counters r earlier.state).2 = earlier.state)
    (after : List Request) :
    ∃ a rest rest',
      (serve settings source (before ++ r :: after) s).1 =
        earlier.exchanges.map Exchange.answer ++ a :: rest ∧
      (serve settings source (before ++ after) s).1 =
        earlier.exchanges.map Exchange.answer ++ rest' ∧
      List.Forall₂ SameAside rest rest' ∧
      (serve settings source (before ++ r :: after) s).2 =
        (serve settings source (before ++ after) s).2 := by
  let x : Exchange := ⟨r, (replyTo settings source earlier.counters r earlier.state).1⟩
  have hsound : earlier.counters.failures ≤ earlier.counters.requests :=
    hrun ▸ failures_le_requests (Nat.le_refl 0) before s
  obtain ⟨hrest, hfinal⟩ := run_sameAside settings source (Counters.failures_le_note hsound x)
    hsound after earlier.state
  refine ⟨x.answer, _, _, ?_, ?_, hrest, ?_⟩
  · simp only [serve_eq, run_append, hrun, run_cons, List.map_append, List.map_cons, hstate, x]
  · simp only [serve_eq, run_append, hrun, List.map_append]
  · simp only [serve_eq, run_append, hrun, run_cons, hstate, ← hfinal, x]

end

/-! ### What a request leaves to the others -/

/-- A request that generates no key takes no decision. Taking away a request that takes none leaves
    the answers to all others as they are, but for what health checks tell. And a health check tells
    how many requests have come with it, whatever they came to, and how many before it ended with a
    status from 500 on. -/
theorem requests_undisturbed {σ : Type} (settings : Settings) (source : Sampling.Source σ)
    (before after : List Request) (r : Request) (s : σ) :
    (r.Quiet settings →
      draws settings source (before ++ [r]) s = draws settings source before s) ∧
    (draws settings source (before ++ [r]) s = draws settings source before s →
      ∃ front a rest rest',
        (serve settings source (before ++ r :: after) s).1 = front ++ a :: rest ∧
        (serve settings source (before ++ after) s).1 = front ++ rest' ∧
        front.length = before.length ∧ List.Forall₂ SameAside rest rest' ∧
        (serve settings source (before ++ r :: after) s).2 =
          (serve settings source (before ++ after) s).2) ∧
    (r.normal.demand settings = .ok .health →
      ∃ c, (serve settings source (before ++ r :: after) s).1[before.length]? =
          some (healthAnswer c) ∧
        c.requests = before.length + 1 ∧
        c.failures = ((serve settings source (before ++ r :: after) s).1.take before.length).countP
          (·.response.status ≥ 500)) := by
  refine ⟨fun h => draws_of_quiet h before s, fun h => ?_, fun h => ?_⟩
  · obtain ⟨a, rest, rest', hwith, hwithout, hrest, hfinal⟩ :=
      serve_without rfl (state_of_draws_eq h) after
    refine ⟨_, a, rest, rest', hwith, hwithout, ?_, hrest, hfinal⟩
    rw [List.length_map, length_exchanges]
  · refine ⟨_, serve_health h before after s, ?_, ?_⟩
    · simp only [Counters.ask, counters_run, Counters.zero, Nat.zero_add]
    · rw [(serve_append before r after s).1, List.countP_map, counters_run]
      simp only [Counters.ask, Counters.zero, Nat.zero_add]
      rfl

/-- A request for a key over three letters, one for keys of a group, and a health check: without the
    group, which is refused, the other two are answered alike. -/
theorem requests_undisturbed_by_group :
    let key := postRequest "/keys/generate" "\x7b\"pattern\":\"[a-c]\",\"count\":1\x7d"
    let group := postRequest "/keys/generate" "\x7b\"pattern\":\"(\"\x7d"
    let feed : Sampling.Feed := .cycle #[7] 0
    group.Quiet {} ∧
      draws {} Sampling.Feed.source [key, group] feed = draws {} Sampling.Feed.source [key] feed ∧
      draws {} Sampling.Feed.source [key, group] feed = 1 ∧
      (∃ front a rest rest',
        (serve {} Sampling.Feed.source [key, group, healthRequest] feed).1 = front ++ a :: rest ∧
        (serve {} Sampling.Feed.source [key, healthRequest] feed).1 = front ++ rest' ∧
        front.length = 1 ∧ List.Forall₂ SameAside rest rest') ∧
      ∃ c, (serve {} Sampling.Feed.source [key, group, healthRequest] feed).1[2]? =
        some (healthAnswer c) ∧ c.requests = 3 ∧ c.failures = 0 := by
  intro key group feed
  have hdemand : group.normal.demand {} =
      .ok (.generate ⟨some (Text.lit "("), none, .int ⟨1000, rfl⟩⟩) := by rfl
  have hquiet : group.Quiet {} := by
    intro d hd
    rw [hdemand] at hd
    cases hd
    exact ⟨_, .faulty (f := ⟨.group, 0⟩) (.given rfl rfl) rfl⟩
  obtain ⟨hdraws, hothers, _⟩ :=
    requests_undisturbed {} Sampling.Feed.source [key] [healthRequest] group feed
  obtain ⟨_, _, hhealth⟩ :=
    requests_undisturbed {} Sampling.Feed.source [key, group] [] healthRequest feed
  obtain ⟨front, a, rest, rest', hwith, hwithout, hlength, hrest, _⟩ := hothers (hdraws hquiet)
  obtain ⟨c, hanswer, hrequests, hfailures⟩ := hhealth rfl
  refine ⟨hquiet, hdraws hquiet, by decide +kernel,
    ⟨front, a, rest, rest', hwith, hwithout, hlength, hrest⟩, c, hanswer, ?_, ?_⟩
  · rw [hrequests]
    decide +kernel
  · rw [hfailures]
    decide +kernel

end Keyspace.Service
