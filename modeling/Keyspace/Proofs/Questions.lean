import Keyspace.Proofs.Draws
import Keyspace.Proofs.Generation

/-!
What a source is asked when keys are drawn.

A recorded source keeps the questions that it is asked. A piece asks how often, unless its bounds
leave no choice, and then once for each code point (`Urn.questions`); a key asks this for one piece
after the other (`recorded_drawAll`), so what it asks is told by how often each is drawn from. The
pieces of a pattern are sound, so they ask only what has an answer.

To record or to count what is asked changes no answer: the recorded source, the counted one and
their own source answer alike, and so their runs agree.

    recorded (s, [q₁, q₂])     counted (s, 2)     plain s
-/

namespace Keyspace.Sampling

open Pattern (Piece)

/-- What a source of decisions can be asked. -/
inductive Question where
  | between (a b : Nat)
  | choose (alphabet : Array CodePoint)

/-- The question has an answer: the bounds are in order, the alphabet has a member. -/
def Question.Answerable : Question → Prop
  | .between a b => a ≤ b
  | .choose alphabet => alphabet ≠ #[]

/-- The source with the questions that it was asked, in order. -/
def Source.recorded {σ : Type} (source : Source σ) : Source (σ × List Question) where
  between a b s := let (n, t) := source.between a b s.1; (n, t, s.2 ++ [.between a b])
  choose alphabet s := let (c, t) := source.choose alphabet s.1; (c, t, s.2 ++ [.choose alphabet])

/-- What is asked about how often an urn is drawn from. -/
def Urn.countQuestions (u : Urn) : List Question :=
  if u.lower = u.upper then [] else [.between u.lower u.upper]

/-- What is asked when an urn is drawn from `n` times. -/
def Urn.questions (u : Urn) (n : Nat) : List Question :=
  u.countQuestions ++ List.replicate n (.choose u.alphabet)

/-! ### What is recorded -/

section

variable {σ : Type} (source : Source σ)

theorem alike_recorded : source.recorded.Alike source fun r s => r.1 = s := by
  constructor
  · rintro a b r _ rfl
    exact ⟨rfl, rfl⟩
  · rintro alphabet r _ rfl
    exact ⟨rfl, rfl⟩

/-- The count is that of the questions, and of the decisions before. -/
theorem alike_recorded_counted (k : Nat) :
    source.recorded.Alike source.counted fun r c => c = (r.1, k + r.2.length) := by
  constructor
  · rintro a b r _ rfl
    refine ⟨rfl, ?_⟩
    simp only [Source.counted, Source.recorded, List.length_append, List.length_singleton,
      Nat.add_assoc]
  · rintro alphabet r _ rfl
    refine ⟨rfl, ?_⟩
    simp only [Source.counted, Source.recorded, List.length_append, List.length_singleton,
      Nat.add_assoc]

variable {source}

theorem length_drawFrom (alphabet : Array CodePoint) (drawn : Text) (n : Nat) (s : σ) :
    (drawFrom source alphabet drawn n s).1.length = drawn.length + n := by
  induction n generalizing drawn s with
  | zero => rfl
  | succ n ih =>
    rw [drawFrom_succ, ih, List.length_cons]
    omega

theorem recorded_drawCount (u : Urn) (s : σ × List Question) :
    (drawCount source.recorded u s).2.2 = s.2 ++ u.countQuestions := by
  unfold drawCount Urn.countQuestions
  split
  · exact (List.append_nil _).symm
  · rfl

theorem recorded_drawFrom (alphabet : Array CodePoint) (drawn : Text) (n : Nat)
    (s : σ × List Question) :
    (drawFrom source.recorded alphabet drawn n s).2.2 =
      s.2 ++ List.replicate n (.choose alphabet) := by
  induction n generalizing drawn s with
  | zero => exact (List.append_nil _).symm
  | succ n ih =>
    rw [drawFrom_succ, ih, List.replicate_succ]
    exact List.append_assoc _ _ _

/-- The questions of urns in order, each drawn from some number of times; what is drawn is as long
    as these numbers tell. -/
theorem recorded_drawAll (urns : List Urn) (drawn : Text) (s : σ × List Question) :
    ∃ draws : List (Urn × Nat), draws.map Prod.fst = urns ∧
      (drawAll source.recorded drawn urns s).2.2 =
        s.2 ++ draws.flatMap (fun d => d.1.questions d.2) ∧
      (drawAll source.recorded drawn urns s).1.length =
        drawn.length + (draws.map Prod.snd).sum := by
  induction urns generalizing drawn s with
  | nil => exact ⟨[], rfl, (List.append_nil _).symm, rfl⟩
  | cons u rest ih =>
    obtain ⟨draws, hurns, hasked, hdrawn⟩ := ih
      (drawFrom source.recorded u.alphabet drawn (drawCount source.recorded u s).1
        (drawCount source.recorded u s).2).1
      (drawFrom source.recorded u.alphabet drawn (drawCount source.recorded u s).1
        (drawCount source.recorded u s).2).2
    refine ⟨(u, (drawCount source.recorded u s).1) :: draws, by simp [hurns], ?_, ?_⟩
    · rw [drawAll_cons, hasked, recorded_drawFrom, recorded_drawCount]
      simp [Urn.questions]
    · rw [drawAll_cons, hdrawn, length_drawFrom, List.map_cons, List.sum_cons, Nat.add_assoc]

/-! ### How much is asked -/

theorem length_questions (u : Urn) (n : Nat) :
    (u.questions n).length = n + if u.lower = u.upper then 0 else 1 := by
  unfold Urn.questions Urn.countQuestions
  split <;> simp

/-- One question for each code point that is drawn, and one for each urn whose bounds leave a
    choice. -/
theorem length_flatMap_questions (draws : List (Urn × Nat)) :
    (draws.flatMap fun d => d.1.questions d.2).length =
      (draws.map Prod.snd).sum + (draws.map Prod.fst).countP fun u => u.lower ≠ u.upper := by
  induction draws with
  | nil => rfl
  | cons d draws ih =>
    rw [List.flatMap_cons, List.length_append, ih, length_questions, List.map_cons, List.map_cons,
      List.sum_cons, List.countP_cons]
    by_cases h : d.1.lower = d.1.upper
    · simp only [h, if_true, ne_eq, not_true_eq_false, decide_false, Bool.false_eq_true, if_false]
      omega
    · simp only [h, if_false, ne_eq, not_false_eq_true, decide_true, if_true]
      omega

/-- A key takes one decision for each of its code points, and one for each urn whose bounds leave a
    choice. -/
theorem drawKey_counted (urns : List Urn) (s : σ) (k : Nat) :
    drawKey source.counted urns (s, k) =
      ((drawKey source urns s).1, (drawKey source urns s).2,
        k + ((drawKey source urns s).1.length + urns.countP fun u => u.lower ≠ u.upper)) := by
  obtain ⟨hkey, hstate⟩ := drawKey_agree (alike_recorded source) urns (s := (s, [])) rfl
  obtain ⟨hcountedKey, hcounted⟩ :=
    drawKey_agree (alike_recorded_counted source k) urns (s := (s, [])) rfl
  obtain ⟨draws, hurns, hasked, hdrawn⟩ := @recorded_drawAll σ source urns [] (s, [])
  have hlength : (drawKey source.recorded urns (s, [])).1.length = (draws.map Prod.snd).sum := by
    change (drawAll source.recorded [] urns (s, [])).1.reverse.length = _
    rw [List.length_reverse, hdrawn]
    exact Nat.zero_add _
  have htaken : (drawKey source.recorded urns (s, [])).2.2.length =
      (draws.map Prod.snd).sum + urns.countP fun u => u.lower ≠ u.upper := by
    change (drawAll source.recorded [] urns (s, [])).2.2.length = _
    rw [hasked, ← hurns]
    exact length_flatMap_questions draws
  rw [← hkey, ← hstate, hlength, ← htaken]
  exact Prod.ext hcountedKey.symm hcounted

/-! ### What the pieces of a pattern ask -/

theorem answerable_questions {p : Piece} (hp : p.Sound) (n : Nat) :
    ∀ q ∈ (Urn.ofPiece p).questions n, q.Answerable := by
  intro q hq
  rcases List.mem_append.1 hq with hq | hq
  · unfold Urn.countQuestions at hq
    split at hq
    · cases hq
    · rw [List.mem_singleton.1 hq]
      exact hp.lower_le
  · rw [List.eq_of_mem_replicate hq]
    simpa [Urn.ofPiece, Question.Answerable] using hp.alphabet_ne_nil

/-- Sound pieces ask only what has an answer, whatever is answered. -/
theorem answerable_of_sound {pieces : List Piece} (hs : ∀ p ∈ pieces, p.Sound) (s : σ) :
    ∀ q ∈ (generateOne source.recorded pieces (s, [])).2.2, q.Answerable := by
  obtain ⟨draws, hurns, hasked, _⟩ :=
    @recorded_drawAll σ source (pieces.map Urn.ofPiece) [] (s, [])
  change ∀ q ∈ (drawAll source.recorded [] (pieces.map Urn.ofPiece) (s, [])).2.2, q.Answerable
  intro q hq
  rw [hasked, List.nil_append] at hq
  obtain ⟨⟨u, n⟩, hd, hq⟩ := List.mem_flatMap.1 hq
  have hu : u ∈ pieces.map Urn.ofPiece := hurns ▸ List.mem_map_of_mem hd
  obtain ⟨p, hp, rfl⟩ := List.mem_map.1 hu
  exact answerable_questions (hs p hp) n q hq

/-- The questions of a recorded key are those of the key itself. -/
theorem generateOne_recorded (pieces : List Piece) (s : σ) :
    generateOne source.recorded pieces (s, []) =
      ((generateOne source pieces s).1, (generateOne source pieces s).2,
        (generateOne source.recorded pieces (s, [])).2.2) := by
  obtain ⟨hkey, hstate⟩ :=
    drawKey_agree (alike_recorded source) (pieces.map Urn.ofPiece) (s := (s, [])) rfl
  exact Prod.ext hkey (Prod.ext hstate rfl)

end

/-- A pattern has no more pieces than code points, and each piece has bounds in their order and
    within the limit and something to draw from; a literal offers one code point, which the pattern
    holds. So whatever source draws a key from them, it is asked for no number between reversed
    bounds and for no member of an empty alphabet. -/
theorem parsed_pieces_safe {pattern : Text} {pieces : List Piece}
    (hp : Pattern.parse pattern = .ok pieces) :
    pieces.length ≤ pattern.length ∧
      (∀ p ∈ pieces, p.lower ≤ p.upper ∧ p.upper ≤ Pattern.maxRepeat ∧ p.atom.alphabet ≠ [] ∧
        ∀ c, p.atom = .literal c → p.atom.alphabet = [c] ∧ c ∈ pattern) ∧
      ∀ (σ : Type) (source : Source σ) (s : σ), ∃ asked,
        generateOne source.recorded pieces (s, []) =
            ((generateOne source pieces s).1, (generateOne source pieces s).2, asked) ∧
          ∀ q ∈ asked, q.Answerable := by
  have hsound := Pattern.sound_of_parse hp
  have hitems := (Pattern.parse_eq_ok_iff.1 hp).2
  refine ⟨Pattern.length_le_of_items hitems, fun p hmem => ?_, fun σ source s => ?_⟩
  · obtain ⟨hle, hmax, hne⟩ := hsound p hmem
    refine ⟨hle, hmax, hne, fun c hc => ⟨by rw [hc]; rfl, ?_⟩⟩
    exact Pattern.literal_mem_of_items hitems hmem hc
  · exact ⟨_, generateOne_recorded pieces s, answerable_of_sound hsound s⟩

/-- An open quantifier near the limit, and a class with a range and a member that comes twice. -/
theorem parsed_pieces_safe_open :
    ∃ pieces, Pattern.parse (Text.lit "[a-ca]\x7b99984,\x7d\\d?") = .ok pieces ∧
      pieces.length ≤ 17 ∧
      (∀ p ∈ pieces, p.lower ≤ p.upper ∧ p.upper ≤ Pattern.maxRepeat ∧ p.atom.alphabet ≠ []) ∧
      ∀ feed, ∀ q ∈ (generateOne Feed.source.recorded pieces (feed, [])).2.2, q.Answerable := by
  have hp : Pattern.parse (Text.lit "[a-ca]\x7b99984,\x7d\\d?") =
      .ok [⟨.charClass (Text.lit "abca"), 99984, 100000⟩, ⟨.digit, 0, 1⟩] := by cbv
  obtain ⟨hlen, hpieces, hsafe⟩ := parsed_pieces_safe hp
  refine ⟨_, hp, hlen, fun p hmem => ?_, fun feed => ?_⟩
  · obtain ⟨hle, hmax, hne, _⟩ := hpieces p hmem
    exact ⟨hle, hmax, hne⟩
  · obtain ⟨asked, heq, hasked⟩ := hsafe Feed Feed.source feed
    rw [heq]
    exact hasked

end Keyspace.Sampling
