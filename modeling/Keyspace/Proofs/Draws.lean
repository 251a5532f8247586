import Keyspace.Sampling

/-!
Keys drawn with sources that answer alike.

Two sources answer alike along a relation of their states if, asked the same in related states, they
answer the same and come to related states (`Source.Alike`). What is drawn depends on answers only,
so whole runs come to the same keys and to related states (`generate_agree`).

The counted source is its source beside a count. So a run with it is a run with the source, and one
that takes no decision leaves the state of the source as it was (`Tallies`).
-/

namespace Keyspace.Sampling

/-! ### Sources that answer alike -/

section

variable {σ τ : Type}

/-- The same result, and related states behind it. -/
def Agree {α : Type} (R : σ → τ → Prop) (x : α × σ) (y : α × τ) : Prop :=
  x.1 = y.1 ∧ R x.2 y.2

/-- Asked the same in related states, both sources answer the same and come to related states. -/
structure Source.Alike (source : Source σ) (target : Source τ) (R : σ → τ → Prop) : Prop where
  between : ∀ a b s t, R s t → Agree R (source.between a b s) (target.between a b t)
  choose : ∀ alphabet s t, R s t → Agree R (source.choose alphabet s) (target.choose alphabet t)

variable {source : Source σ} {target : Source τ} {R : σ → τ → Prop} {s : σ} {t : τ}

theorem drawCount_agree (h : source.Alike target R) (u : Urn) (hst : R s t) :
    Agree R (drawCount source u s) (drawCount target u t) := by
  unfold drawCount
  split
  · exact ⟨rfl, hst⟩
  · exact h.between u.lower u.upper s t hst

theorem drawFrom_agree (h : source.Alike target R) (alphabet : Array CodePoint) (drawn : Text)
    (n : Nat) (hst : R s t) :
    Agree R (drawFrom source alphabet drawn n s) (drawFrom target alphabet drawn n t) := by
  induction n generalizing drawn s t with
  | zero => exact ⟨rfl, hst⟩
  | succ n ih =>
    obtain ⟨hchosen, hnext⟩ := h.choose alphabet s t hst
    rw [drawFrom_succ, drawFrom_succ, ← hchosen]
    exact ih _ hnext

theorem drawAll_agree (h : source.Alike target R) (urns : List Urn) (drawn : Text) (hst : R s t) :
    Agree R (drawAll source drawn urns s) (drawAll target drawn urns t) := by
  induction urns generalizing drawn s t with
  | nil => exact ⟨rfl, hst⟩
  | cons u rest ih =>
    obtain ⟨hcount, hcounted⟩ := drawCount_agree h u hst
    obtain ⟨hsegment, hnext⟩ := drawFrom_agree h u.alphabet drawn (drawCount source u s).1 hcounted
    rw [drawAll_cons, drawAll_cons, ← hcount, ← hsegment]
    exact ih _ hnext

theorem drawKey_agree (h : source.Alike target R) (urns : List Urn) (hst : R s t) :
    Agree R (drawKey source urns s) (drawKey target urns t) := by
  obtain ⟨hdrawn, hnext⟩ := drawAll_agree h urns [] hst
  exact ⟨congrArg List.reverse hdrawn, hnext⟩

theorem drawKeys_agree (h : source.Alike target R) (urns : List Urn) (keys : List Text) (n : Nat)
    (hst : R s t) : Agree R (drawKeys source urns keys n s) (drawKeys target urns keys n t) := by
  induction n generalizing keys s t with
  | zero => exact ⟨rfl, hst⟩
  | succ n ih =>
    obtain ⟨hkey, hnext⟩ := drawKey_agree h urns hst
    rw [drawKeys_succ, drawKeys_succ, ← hkey]
    exact ih _ hnext

theorem generate_agree (h : source.Alike target R) (pattern : Text) (count : Value) (hst : R s t) :
    Agree R (generate source pattern count s) (generate target pattern count t) := by
  unfold generate
  split
  · exact ⟨rfl, hst⟩
  · next pieces _ =>
    obtain ⟨hkeys, hnext⟩ :=
      drawKeys_agree h (pieces.map Urn.ofPiece) [] (clampCount count) hst
    exact ⟨congrArg Except.ok hkeys, hnext⟩

end

/-! ### Counting decisions -/

variable {σ : Type}

/-- The counted computation does what the other does, and counts its decisions: without any, the
    state stays. -/
def Tallies {α : Type} (plain : σ → α × σ) (counted : σ × Nat → α × (σ × Nat)) : Prop :=
  ∀ s k, ∃ d, counted (s, k) = ((plain s).1, (plain s).2, k + d) ∧ (d = 0 → (plain s).2 = s)

theorem Tallies.pure {α : Type} (a : α) :
    Tallies (fun s : σ => (a, s)) fun s : σ × Nat => (a, s) :=
  fun _ _ => ⟨0, rfl, fun _ => rfl⟩

/-- What is made of a result at the end takes no decision. -/
theorem Tallies.map {α β : Type} {plain : σ → α × σ} {counted : σ × Nat → α × (σ × Nat)}
    (h : Tallies plain counted) (f : α → β) :
    Tallies (fun s => (f (plain s).1, (plain s).2))
      fun s => (f (counted s).1, (counted s).2) := by
  intro s k
  obtain ⟨d, heq, hzero⟩ := h s k
  exact ⟨d, by simp only [heq], hzero⟩

/-- The count only grows, and while it is what it was, the state is what it was. -/
theorem alike_counted (source : Source σ) (s : σ) (k : Nat) :
    source.Alike source.counted fun t c => c.1 = t ∧ k ≤ c.2 ∧ (c.2 = k → t = s) := by
  constructor
  · rintro a b t ⟨_, n⟩ ⟨rfl, hle, _⟩
    have hlt : k < n + 1 := Nat.lt_succ_of_le hle
    exact ⟨rfl, rfl, Nat.le_of_lt hlt, fun h => absurd h (Nat.ne_of_gt hlt)⟩
  · rintro alphabet t ⟨_, n⟩ ⟨rfl, hle, _⟩
    have hlt : k < n + 1 := Nat.lt_succ_of_le hle
    exact ⟨rfl, rfl, Nat.le_of_lt hlt, fun h => absurd h (Nat.ne_of_gt hlt)⟩

/-- Keys are generated alike, whether their decisions are counted or not. -/
theorem tallies_generate (source : Source σ) (pattern : Text) (count : Value) :
    Tallies (generate source pattern count) (generate source.counted pattern count) := by
  intro s k
  obtain ⟨hresult, hstate, hle, hzero⟩ :=
    generate_agree (alike_counted source s k) pattern count (t := (s, k))
      ⟨rfl, Nat.le_refl k, fun _ => rfl⟩
  refine ⟨(generate source.counted pattern count (s, k)).2.2 - k, ?_, fun h => hzero (by omega)⟩
  exact Prod.ext hresult.symm (Prod.ext hstate (Nat.add_sub_of_le hle).symm)

end Keyspace.Sampling
