import Mathlib.Data.List.Basic
import Keyspace.Service.Serve

/-!
A service at work: what it carries from one request to the next.

Between requests the service holds its counters and the state of its source of decisions, and
nothing else. A request comes to a reply (`replyTo`), the reply to a response, and both go into the
counters. So a run is a list of exchanges beside the counters and the state at its end (`run`):
running one list of requests after another is running both (`run_append`), and the counters count
the exchanges (`counters_run`).

    counters, state ──▶ request ──▶ reply, response ──▶ counters, state ──▶ request ──▶ …
-/

namespace Keyspace.Service

/-- The response to a request with the given reply. -/
def Request.told (r : Request) (reply : Reply) : Response :=
  if r.normal.isHead then reply.response.head else reply.response

/-- A request, and what it came to. -/
structure Exchange where
  request : Request
  reply : Reply

namespace Exchange

/-- The response that went back. -/
def response (x : Exchange) : Response := x.request.told x.reply

/-- The response and the lines that were written. -/
def answer (x : Exchange) : Answer := ⟨x.response, x.reply.lines⟩

/-- Whether something failed. -/
def isFailure (x : Exchange) : Bool := x.response.status ≥ 500

/-- Whether the exchange is counted as a rejection. -/
def isCounted (x : Exchange) : Bool := x.reply.isCounted

end Exchange

namespace Counters

/-- The counters when a request has come. -/
def ask (c : Counters) : Counters := { c with requests := c.requests + 1 }

/-- The counters when a request has been answered. -/
def note (c : Counters) (x : Exchange) : Counters :=
  { c with
    failures := c.failures + if x.isFailure then 1 else 0
    rejections := c.rejections + if x.isCounted then 1 else 0 }

end Counters

/-- What a list of requests has come to. -/
structure Run (σ : Type) where
  exchanges : List Exchange
  counters : Counters
  state : σ

section

variable {σ : Type} (settings : Settings) (source : Sampling.Source σ)

/-- The reply to a request that has not come yet. -/
def replyTo (c : Counters) (r : Request) (s : σ) : Reply × σ :=
  reply settings source c.ask r.normal s

/-- Requests answered in order. -/
def run (c : Counters) : List Request → σ → Run σ
  | [], s => ⟨[], c, s⟩
  | r :: rest, s =>
    let (reply, s) := replyTo settings source c r s
    let x : Exchange := ⟨r, reply⟩
    let later := run (c.ask.note x) rest s
    { later with exchanges := x :: later.exchanges }

end

section

variable {σ : Type} {settings : Settings} {source : Sampling.Source σ}

/-! ### The service is such a run -/

theorem answer_eq (c : Counters) (r : Request) (s : σ) :
    answer settings source c r s =
      ((⟨r, (replyTo settings source c r s).1⟩ : Exchange).answer,
        c.ask.note ⟨r, (replyTo settings source c r s).1⟩, (replyTo settings source c r s).2) := by
  have hfailure (x : Exchange) :
      (if x.isFailure then 1 else 0) = if x.response.status ≥ 500 then 1 else 0 := by
    simp only [Exchange.isFailure, decide_eq_true_eq]
  rw [Counters.note, hfailure]
  rfl

theorem run_cons (c : Counters) (r : Request) (rest : List Request) (s : σ) :
    run settings source c (r :: rest) s =
      let x : Exchange := ⟨r, (replyTo settings source c r s).1⟩
      let later := run settings source (c.ask.note x) rest (replyTo settings source c r s).2
      ⟨x :: later.exchanges, later.counters, later.state⟩ :=
  rfl

theorem serveFrom_eq (answers : List Answer) (c : Counters) (requests : List Request) (s : σ) :
    serveFrom settings source answers c requests s =
      (answers.reverse ++ (run settings source c requests s).exchanges.map Exchange.answer,
        (run settings source c requests s).state) := by
  induction requests generalizing answers c s with
  | nil => simp [serveFrom, run]
  | cons r rest ih => simp [serveFrom, answer_eq, ih, run_cons]

/-- What is served is what a run from zero on comes to. -/
theorem serve_eq (requests : List Request) (s : σ) :
    serve settings source requests s =
      ((run settings source .zero requests s).exchanges.map Exchange.answer,
        (run settings source .zero requests s).state) :=
  serveFrom_eq [] .zero requests s

/-! ### Runs -/

theorem run_append (c : Counters) (before after : List Request) (s : σ) :
    run settings source c (before ++ after) s =
      let earlier := run settings source c before s
      let later := run settings source earlier.counters after earlier.state
      ⟨earlier.exchanges ++ later.exchanges, later.counters, later.state⟩ := by
  induction before generalizing c s with
  | nil => rfl
  | cons r rest ih => simp [run_cons, ih]

/-- Each request has its exchange, in order. -/
theorem map_request_run (c : Counters) (requests : List Request) (s : σ) :
    (run settings source c requests s).exchanges.map Exchange.request = requests := by
  induction requests generalizing c s with
  | nil => rfl
  | cons r rest ih => simp [run_cons, ih]

theorem length_exchanges (c : Counters) (requests : List Request) (s : σ) :
    (run settings source c requests s).exchanges.length = requests.length := by
  rw [← List.length_map Exchange.request, map_request_run]

/-- The counters count what came and what it came to. -/
theorem counters_run (c : Counters) (requests : List Request) (s : σ) :
    (run settings source c requests s).counters =
      ⟨c.requests + requests.length,
        c.failures + (run settings source c requests s).exchanges.countP Exchange.isFailure,
        c.rejections + (run settings source c requests s).exchanges.countP Exchange.isCounted⟩ := by
  induction requests generalizing c s with
  | nil => rfl
  | cons r rest ih =>
    simp only [run_cons, ih, List.length_cons, List.countP_cons, Counters.ask, Counters.note,
      Counters.mk.injEq]
    omega

/-- A request fails at most once. -/
theorem Counters.failures_le_note {c : Counters} (h : c.failures ≤ c.requests) (x : Exchange) :
    (c.ask.note x).failures ≤ (c.ask.note x).requests := by
  change c.failures + (if x.isFailure then 1 else 0) ≤ c.requests + 1
  split <;> omega

/-- No more requests fail than come. -/
theorem failures_le_requests {c : Counters} (h : c.failures ≤ c.requests) (requests : List Request)
    (s : σ) :
    (run settings source c requests s).counters.failures ≤
      (run settings source c requests s).counters.requests := by
  induction requests generalizing c s with
  | nil => exact h
  | cons r rest ih => exact ih (Counters.failures_le_note h _) _

end

end Keyspace.Service
