import Keyspace.Pattern.Language
import Keyspace.Proofs.Pattern.Sound
import Keyspace.Sampling.Feed

/-!
Every key that is generated is a text that its pattern can become.

A lawful source of decisions answers a number within bounds that are in order, and a member of an
alphabet that has one; the pieces of a pattern ask for nothing else (`Pattern.sound_of_parse`).
Drawing goes piece by piece, and what was drawn before stays behind it, last first:

    drawFrom   one segment, over one alphabet      segment.reverse ++ drawn
    drawAll    a segment for each piece            key.reverse ++ drawn
    drawKeys   key after key                       keys.reverse ++ own
-/

namespace Keyspace.Sampling

open Pattern (Piece Yields)

/-! ### Lengths of what pieces can become -/

theorem length_bounds_of_yields {pieces : List Piece} {t : Text} (h : Yields pieces t) :
    (pieces.map Piece.lower).sum ≤ t.length ∧ t.length ≤ (pieces.map Piece.upper).sum := by
  induction h with
  | nil => simp
  | cons hp _ ih =>
    obtain ⟨hlower, hupper, _⟩ := hp
    simp only [List.map_cons, List.sum_cons, List.length_append]
    omega

section

variable {σ : Type} {source : Source σ}

/-! ### One piece -/

/-- A sound piece is drawn from as often as its bounds allow. -/
theorem drawCount_bounds (hl : source.Lawful) {p : Piece} (hp : p.Sound) (s : σ) :
    p.lower ≤ (drawCount source (Urn.ofPiece p) s).1 ∧
      (drawCount source (Urn.ofPiece p) s).1 ≤ p.upper := by
  unfold drawCount
  split
  · exact ⟨le_refl _, hp.lower_le⟩
  · exact ⟨hl.between_ge _ _ s hp.lower_le, hl.between_le _ _ s hp.lower_le⟩

/-- A number of draws makes a segment of that length over the alphabet. -/
theorem drawFrom_segment (hl : source.Lawful) {alphabet : Array CodePoint} (ha : alphabet ≠ #[])
    (drawn : Text) (n : Nat) (s : σ) :
    ∃ segment : Text, (drawFrom source alphabet drawn n s).1 = segment.reverse ++ drawn ∧
      segment.length = n ∧ ∀ c ∈ segment, c ∈ alphabet := by
  induction n generalizing drawn s with
  | zero => exact ⟨[], rfl, rfl, by simp⟩
  | succ n ih =>
    obtain ⟨segment, heq, hlen, hmem⟩ :=
      ih ((source.choose alphabet s).1 :: drawn) (source.choose alphabet s).2
    refine ⟨(source.choose alphabet s).1 :: segment, ?_, by simp [hlen], ?_⟩
    · rw [drawFrom_succ, heq]
      simp
    · intro c hc
      rcases List.mem_cons.1 hc with rfl | hc
      · exact hl.choose_mem alphabet s ha
      · exact hmem c hc

/-! ### One key -/

/-- Sound pieces in order make a text that they can become. -/
theorem drawAll_yields (hl : source.Lawful) {pieces : List Piece} (hs : ∀ p ∈ pieces, p.Sound)
    (drawn : Text) (s : σ) :
    ∃ key, (drawAll source drawn (pieces.map Urn.ofPiece) s).1 = key.reverse ++ drawn ∧
      Yields pieces key := by
  induction pieces generalizing drawn s with
  | nil => exact ⟨[], rfl, .nil⟩
  | cons p pieces ih =>
    have hp : p.Sound := hs p (by simp)
    have ha : (Urn.ofPiece p).alphabet ≠ #[] := by
      simpa [Urn.ofPiece] using hp.alphabet_ne_nil
    obtain ⟨hlower, hupper⟩ := drawCount_bounds hl hp s
    obtain ⟨segment, hsegment, hlen, hmem⟩ := drawFrom_segment hl ha drawn
      (drawCount source (Urn.ofPiece p) s).1 (drawCount source (Urn.ofPiece p) s).2
    rw [List.map_cons, drawAll_cons, hsegment]
    obtain ⟨key, hkey, hyields⟩ := ih (fun p hp => hs p (by simp [hp])) (segment.reverse ++ drawn)
      (drawFrom source (Urn.ofPiece p).alphabet drawn (drawCount source (Urn.ofPiece p) s).1
        (drawCount source (Urn.ofPiece p) s).2).2
    refine ⟨segment ++ key, by rw [hkey]; simp, .cons ⟨?_, ?_, ?_⟩ hyields⟩
    · rw [hlen]
      exact hlower
    · rw [hlen]
      exact hupper
    · intro c hc
      simpa [Urn.ofPiece] using hmem c hc

/-- A key of sound pieces is a text that they can become. -/
theorem drawKey_yields (hl : source.Lawful) {pieces : List Piece} (hs : ∀ p ∈ pieces, p.Sound)
    (s : σ) : Yields pieces (drawKey source (pieces.map Urn.ofPiece) s).1 := by
  obtain ⟨key, hkey, hyields⟩ := drawAll_yields hl hs [] s
  have heq : (drawKey source (pieces.map Urn.ofPiece) s).1 = key := by
    change (drawAll source [] (pieces.map Urn.ofPiece) s).1.reverse = key
    rw [hkey]
    simp
  rw [heq]
  exact hyields

/-! ### Many keys -/

/-- A number of keys is drawn behind those before, each a text that the pieces can become. -/
theorem drawKeys_yields (hl : source.Lawful) {pieces : List Piece} (hs : ∀ p ∈ pieces, p.Sound)
    (keys : List Text) (n : Nat) (s : σ) :
    ∃ own, (drawKeys source (pieces.map Urn.ofPiece) keys n s).1 = keys.reverse ++ own ∧
      own.length = n ∧ ∀ key ∈ own, Yields pieces key := by
  induction n generalizing keys s with
  | zero => exact ⟨[], by simp [drawKeys], rfl, by simp⟩
  | succ n ih =>
    obtain ⟨own, heq, hlen, hown⟩ := ih ((drawKey source (pieces.map Urn.ofPiece) s).1 :: keys)
      (drawKey source (pieces.map Urn.ofPiece) s).2
    refine ⟨(drawKey source (pieces.map Urn.ofPiece) s).1 :: own, ?_, by simp [hlen], ?_⟩
    · rw [drawKeys_succ, heq]
      simp
    · intro key hkey
      rcases List.mem_cons.1 hkey with rfl | hkey
      · exact drawKey_yields hl hs s
      · exact hown key hkey

/-- Keys of a pattern are as many as the count asks for, each a text that the pieces can become. -/
theorem generate_yields (hl : source.Lawful) {pattern : Text} {pieces : List Piece}
    (hp : Pattern.parse pattern = .ok pieces) (count : Value) (s : σ) :
    ∃ keys s', generate source pattern count s = (.ok keys, s') ∧ keys.length = clampCount count ∧
      ∀ key ∈ keys, Yields pieces key := by
  obtain ⟨own, heq, hlen, hown⟩ :=
    drawKeys_yields hl (Pattern.sound_of_parse hp) [] (clampCount count) s
  refine ⟨own, (generateMany source pieces count s).2, ?_, hlen, hown⟩
  rw [generate, hp]
  change (Except.ok (generateMany source pieces count s).1, _) = _
  rw [generateMany, heq]
  rfl

theorem clampCount_le (count : Value) : clampCount count ≤ maxCount := by
  cases count with
  | int n => exact Nat.min_le_left _ _
  | real x =>
    unfold clampCount
    dsimp only
    split
    · exact Nat.min_le_left _ _
    · split <;> omega
  | _ => exact Nat.zero_le _

theorem generate_int_one {pattern : Text} {pieces : List Piece}
    (hp : Pattern.parse pattern = .ok pieces) (s : σ) :
    generate source pattern (.int 1) s =
      (.ok [(drawKey source (pieces.map Urn.ofPiece) s).1],
        (drawKey source (pieces.map Urn.ofPiece) s).2) := by
  rw [generate, hp]
  rfl

end

/-- Whatever pattern, count and lawful source: keys are generated, and each falls into a segment for
    every piece, of a length between its bounds and over its alphabet. -/
theorem generated_keys_match {σ : Type} {source : Source σ} (hl : source.Lawful) {pattern : Text}
    {pieces : List Piece} (hp : Pattern.parse pattern = .ok pieces) (count : Value) (s : σ) :
    ∃ keys s', generate source pattern count s = (.ok keys, s') ∧ keys.length = clampCount count ∧
      ∀ key ∈ keys, Yields pieces key ∧
        (pieces.map Piece.lower).sum ≤ key.length ∧ key.length ≤ (pieces.map Piece.upper).sum := by
  obtain ⟨keys, s', heq, hlen, hyields⟩ := generate_yields hl hp count s
  refine ⟨keys, s', heq, hlen, ?_⟩
  intro key hkey
  exact ⟨hyields key hkey, length_bounds_of_yields (hyields key hkey)⟩

/-- Two letters out of three and a digit or none, decided by a feed of numbers. -/
theorem generated_keys_match_feed :
    Feed.source.Lawful ∧
      Pattern.parse (Text.lit "[a-c]\x7b2\x7d\\d?") =
        .ok [⟨.charClass (Text.lit "abc"), 2, 2⟩, ⟨.digit, 0, 1⟩] ∧
      ∃ keys s', generate Feed.source (Text.lit "[a-c]\x7b2\x7d\\d?") (.int 5)
          (.cycle #[7, -3, 11] 0) = (.ok keys, s') ∧ keys.length = clampCount (.int 5) ∧
        ∀ key ∈ keys, Yields [⟨.charClass (Text.lit "abc"), 2, 2⟩, ⟨.digit, 0, 1⟩] key ∧
          2 ≤ key.length ∧ key.length ≤ 3 := by
  have hp : Pattern.parse (Text.lit "[a-c]\x7b2\x7d\\d?") =
      .ok [⟨.charClass (Text.lit "abc"), 2, 2⟩, ⟨.digit, 0, 1⟩] := by cbv
  exact ⟨Feed.source_lawful, hp,
    generated_keys_match Feed.source_lawful hp (.int 5) (.cycle #[7, -3, 11] 0)⟩

end Keyspace.Sampling
