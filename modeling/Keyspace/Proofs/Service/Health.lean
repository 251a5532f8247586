import Keyspace.Proofs.Service.Run
import Keyspace.Proofs.Service.Sendable
import Keyspace.Sampling.Feed

/-!
What a health check tells.

A health check is answered with the counters as they are when it has come itself, and the answer can
always be sent, since no more requests fail than come. So what it tells is what the run before it
has come to. Of the requests that are answered with status 400 not all are told as rejected: three
causes are overlooked (`Reply.isOverlooked`), and a counted rejection whose message has no UTF-8
form is answered with status 500.
-/

namespace Keyspace.Service

/-- The answer to a health check that tells the counters. -/
def healthAnswer (c : Counters) : Answer := ⟨.content 200 (Payload.health c).body, []⟩

/-- Only of pages can the head be asked for. -/
theorem routes_head :
    ∀ route ∈ routes, Text.lit "HEAD" ∈ route.methods → route.endpoint = .page := by
  decide

theorem Request.endpoint_of_isHead {r : Request} {e : Endpoint} (hhead : r.isHead)
    (h : r.endpoint = .ok e) : e = .page := by
  rw [isHead, decide_eq_true_eq] at hhead
  unfold endpoint at h
  split at h
  · cases h
  next route hroute =>
    split at h
    · next hmem =>
      rw [hhead] at hmem
      cases h
      exact routes_head route (List.mem_of_find?_eq_some hroute) hmem
    · cases h

/-- Nothing can be asked for by asking for the head of an answer. -/
theorem isHead_of_demand {settings : Settings} {r : Request} {d : Demand}
    (h : r.demand settings = .ok d) : r.isHead = false := by
  rw [Bool.eq_false_iff]
  intro hhead
  unfold Request.demand at h
  cases he : r.endpoint with
  | error refusal =>
    rw [he] at h
    cases h
  | ok e =>
    rw [he, Request.endpoint_of_isHead hhead he] at h
    cases h

section

variable {σ : Type} {settings : Settings} {source : Sampling.Source σ} {r : Request}

theorem replyTo_of_demand_health (hr : r.normal.demand settings = .ok .health) (c : Counters)
    (s : σ) : replyTo settings source c r s = (.met (.health c.ask), s) := by
  rw [replyTo, reply, hr]

/-- A health check is answered with the counters of the run before it and its own arrival. -/
theorem answer_health (hr : r.normal.demand settings = .ok .health) {c : Counters}
    (hc : c.failures ≤ c.requests) (s : σ) :
    (⟨r, (replyTo settings source c r s).1⟩ : Exchange).answer = healthAnswer c.ask := by
  have hle : c.ask.failures ≤ c.ask.requests := Nat.le_add_right_of_le hc
  rw [replyTo_of_demand_health hr]
  simp only [Exchange.answer, Exchange.response, Request.told, isHead_of_demand hr]
  rw [if_neg (by decide), Reply.response_met (Payload.encodable_health hle)]
  rfl

theorem serve_append (before : List Request) (r : Request) (after : List Request) (s : σ) :
    (serve settings source (before ++ r :: after) s).1.take before.length =
        (run settings source .zero before s).exchanges.map Exchange.answer ∧
      (serve settings source (before ++ r :: after) s).1[before.length]? =
        some (⟨r, (replyTo settings source (run settings source .zero before s).counters r
          (run settings source .zero before s).state).1⟩ : Exchange).answer := by
  have hlength : before.length =
      ((run settings source .zero before s).exchanges.map Exchange.answer).length := by
    rw [List.length_map, length_exchanges]
  rw [serve_eq, run_append]
  simp only [run_cons, List.map_append, List.map_cons]
  constructor
  · rw [hlength, List.take_left]
  · rw [hlength, List.getElem?_append_right (le_refl _), Nat.sub_self]
    rfl

/-- A health check behind other requests tells what these have come to. -/
theorem serve_health (hr : r.normal.demand settings = .ok .health) (before after : List Request)
    (s : σ) :
    (serve settings source (before ++ r :: after) s).1[before.length]? =
      some (healthAnswer ((run settings source .zero before s).counters.ask)) := by
  rw [(serve_append before r after s).2,
    answer_health hr (failures_le_requests (Nat.le_refl 0) before s)]

end

/-! ### Rejections -/

/-- Whether a reply is told with status 400 and not counted: the preset is unknown, there are too
    many ranges, or the body cannot be read at all. -/
def Reply.isOverlooked : Reply → Bool
  | .rejected (.unknownPreset _) | .rejected (.tooManyRanges _) | .refused .unreadable => true
  | _ => false

theorem Response.status_head (response : Response) : response.head.status = response.status := by
  cases response <;> rfl

theorem Exchange.status_response (x : Exchange) : x.response.status = x.reply.response.status := by
  unfold Exchange.response Request.told
  split
  · exact Response.status_head _
  · rfl

/-- Whatever is told with status 400 is counted or overlooked. -/
theorem Reply.isCounted_or_isOverlooked {reply : Reply} (h : reply.response.status = 400) :
    reply.isCounted = true ∨ reply.isOverlooked = true := by
  cases reply with
  | met payload =>
    rw [Reply.response, Response.status_ofBody] at h
    split at h <;> cases h
  | rejected rejection => cases rejection <;> first | exact Or.inl rfl | exact Or.inr rfl
  | failed => cases h
  | refused refusal =>
    cases refusal with
    | unreadable => exact Or.inr rfl
    | invalid faults =>
      simp only [Reply.response, Response.ofFaults] at h
      split at h <;> cases h
    | moved path => cases h
    | documentation => cases h
    | _ =>
      simp only [Reply.response, Response.status_ofBody] at h
      split at h <;> cases h

theorem Reply.not_overlooked_of_counted {reply : Reply} (h : reply.isCounted = true) :
    reply.isOverlooked = false := by
  cases reply with
  | rejected rejection => cases rejection <;> first | rfl | cases h
  | _ => cases h

namespace Exchange

/-- Whether the request was answered with status 400. -/
def isRejection (x : Exchange) : Bool := x.response.status = 400

/-- Whether the exchange is counted as a rejection, but could not be told as one. -/
def isUntold (x : Exchange) : Bool := x.isCounted && !x.isRejection

/-- Whether the request was answered with status 400, and not counted. -/
def isOverlooked (x : Exchange) : Bool := x.reply.isOverlooked && x.isRejection

theorem isCounted_or_isOverlooked {x : Exchange} (h : x.isRejection = true) :
    x.isCounted = true ∨ x.isOverlooked = true := by
  have hstatus : x.response.status = 400 := of_decide_eq_true h
  rw [x.status_response] at hstatus
  rcases Reply.isCounted_or_isOverlooked hstatus with hcounted | hoverlooked
  · exact Or.inl hcounted
  · exact Or.inr (by rw [isOverlooked, hoverlooked, h]; rfl)

theorem not_isOverlooked {x : Exchange} (h : x.isCounted = true) : x.isOverlooked = false := by
  rw [isOverlooked, Reply.not_overlooked_of_counted h]
  rfl

/-- Of exchanges, as many are told with status 400 as are counted, but for the counted ones that
    cannot be told and the ones that are overlooked. -/
theorem countP_isRejection (exchanges : List Exchange) :
    exchanges.countP isRejection + exchanges.countP isUntold =
      exchanges.countP isCounted + exchanges.countP isOverlooked := by
  induction exchanges with
  | nil => rfl
  | cons x rest ih =>
    simp only [List.countP_cons]
    cases hcounted : x.isCounted with
    | true =>
      have hnot := not_isOverlooked hcounted
      cases hrejection : x.isRejection <;> simp [isUntold, hcounted, hrejection, hnot] <;> omega
    | false =>
      have huntold : x.isUntold = false := by rw [isUntold, hcounted]; rfl
      cases hrejection : x.isRejection with
      | true =>
        have hoverlooked := (isCounted_or_isOverlooked hrejection).resolve_left (by simp [hcounted])
        simp [huntold, hoverlooked]
        omega
      | false => simp [huntold, isOverlooked, hrejection]; omega

end Exchange

/-- A health check tells as rejected the earlier requests that were counted. These are the ones that
    were answered with status 400, less those for an unknown preset, for too many ranges and for a
    body that cannot be read, and more those whose rejection could not be told. -/
theorem health_tells_rejections {σ : Type} (settings : Settings) (source : Sampling.Source σ)
    (before after : List Request) (r : Request) (s : σ)
    (hr : r.normal.demand settings = .ok .health) :
    ∃ c, (serve settings source (before ++ r :: after) s).1[before.length]? =
        some (healthAnswer c) ∧
      (serve settings source (before ++ r :: after) s).1.take before.length =
        (run settings source .zero before s).exchanges.map Exchange.answer ∧
      c.rejections = (run settings source .zero before s).exchanges.countP Exchange.isCounted ∧
      (run settings source .zero before s).exchanges.countP Exchange.isRejection +
          (run settings source .zero before s).exchanges.countP Exchange.isUntold =
        c.rejections +
          (run settings source .zero before s).exchanges.countP Exchange.isOverlooked := by
  have hcounted : ((run settings source .zero before s).counters.ask).rejections =
      (run settings source .zero before s).exchanges.countP Exchange.isCounted := by
    rw [counters_run]
    exact Nat.zero_add _
  refine ⟨_, serve_health hr before after s, (serve_append before r after s).1, hcounted, ?_⟩
  rw [hcounted]
  exact Exchange.countP_isRejection _

/-- A request for the ranges of so many partitions. -/
def rangesRequest (count : String) : Request :=
  ⟨Text.lit "GET", Text.lit "/partitions/ranges",
    [(Text.lit "partition_count", Text.lit count)], []⟩

/-- A health check. -/
def healthRequest : Request := ⟨Text.lit "GET", Text.lit "/monitoring/health", [], []⟩

/-- A request that posts a body. -/
def postRequest (path body : String) : Request :=
  ⟨Text.lit "POST", Text.lit path, [], Text.lit body⟩

/-- Ranges of a million partitions are refused with status 400, and the health check behind tells no
    rejection. -/
theorem health_overlooks_ranges :
    healthRequest.normal.demand {} = .ok .health ∧
      ((serve {} Sampling.Feed.source [rangesRequest "1000000", healthRequest] .extremes).1.take 1
        ).countP (fun a => a.response.status = 400) = 1 ∧
      ∃ c, (serve {} Sampling.Feed.source [rangesRequest "1000000", healthRequest] .extremes).1[1]? =
        some (healthAnswer c) ∧ c.rejections = 0 := by
  have hr : healthRequest.normal.demand {} = .ok .health := by rfl
  obtain ⟨c, hanswer, _, hcounted, _⟩ := health_tells_rejections {} Sampling.Feed.source
    [rangesRequest "1000000"] [] healthRequest .extremes hr
  refine ⟨hr, by decide +kernel, c, hanswer, ?_⟩
  rw [hcounted]
  decide +kernel

end Keyspace.Service
