import Keyspace.Proofs.Questions

/-!
Whatever pieces can become, some feed of numbers makes them become.

Each decision takes one number of the feed, so the numbers are found decision by decision: for how
often to draw, the distance to the lower bound, and for a code point, its place in the alphabet.
What is kept along the way is which numbers the feed is about to yield (`Yielding`). There are as
many numbers as decisions, so no number is used twice (`reachable_iff_yields`).

    pieces   [a-c]{1,3}      \d
    text     b   a           7
    numbers  1   1   0       7          how often, then which, for each piece
-/

namespace Keyspace.Sampling.Feed

open Pattern (Piece Yields)

/-- The feed is about to yield the numbers. -/
def Yielding (feed : Feed) (numbers : List Int) : Prop :=
  ∃ before after, feed = .cycle (before ++ numbers ++ after).toArray before.length

/-! ### One decision -/

/-- Behind the last number of all the feed begins anew, but then nothing is left to be yielded. -/
theorem next?_of_yielding {feed : Feed} {d : Int} {numbers : List Int}
    (h : Yielding feed (d :: numbers)) :
    ∃ feed', feed.next? = some (d, feed') ∧ Yielding feed' numbers := by
  obtain ⟨before, after, rfl⟩ := h
  have hget : (before ++ d :: numbers ++ after).toArray.getD before.length 0 = d := by
    simp
  refine ⟨_, by rw [next?, hget], ?_⟩
  by_cases hlast : numbers ++ after = []
  · obtain ⟨rfl, rfl⟩ := List.append_eq_nil_iff.1 hlast
    refine ⟨[], before ++ [d], ?_⟩
    simp
  · refine ⟨before ++ [d], after, ?_⟩
    have hpos : 0 < (numbers ++ after).length := List.length_pos_iff.2 hlast
    rw [List.length_append] at hpos
    have hmod : (before.length + 1) % max 1 (before ++ d :: numbers ++ after).toArray.size =
        before.length + 1 := by
      apply Nat.mod_eq_of_lt
      simp
      omega
    rw [hmod]
    simp

theorem between_of_yielding {feed : Feed} {a b n : Nat} {numbers : List Int} (ha : a ≤ n)
    (hb : n ≤ b) (h : Yielding feed (((n - a : Nat) : Int) :: numbers)) :
    ∃ feed', between a b feed = (n, feed') ∧ Yielding feed' numbers := by
  obtain ⟨feed', hnext, hyielding⟩ := next?_of_yielding h
  refine ⟨feed', ?_, hyielding⟩
  have hmod : ((n - a : Nat) : Int) % ((b : Int) - a + 1) = (n - a : Nat) :=
    Int.emod_eq_of_lt (by omega) (by omega)
  simp only [between, hnext]
  change (a + (((n - a : Nat) : Int) % ((b : Int) - a + 1)).toNat, feed') = (n, feed')
  rw [hmod, Int.toNat_natCast, Nat.add_sub_cancel' ha]

theorem choose_of_yielding {feed : Feed} {alphabet : Array CodePoint} {i : Nat} {numbers : List Int}
    (hi : i < alphabet.size) (h : Yielding feed ((i : Int) :: numbers)) :
    ∃ feed', choose alphabet feed = (alphabet[i], feed') ∧ Yielding feed' numbers := by
  obtain ⟨feed', hnext, hyielding⟩ := next?_of_yielding h
  refine ⟨feed', ?_, hyielding⟩
  have hmod : (i : Int) % (alphabet.size : Int) = i := Int.emod_eq_of_lt (by omega) (by omega)
  simp only [choose, hnext]
  change (alphabet.getD ((i : Int) % (alphabet.size : Int)).toNat 0, feed') = (alphabet[i], feed')
  rw [hmod, Int.toNat_natCast]
  simp [Array.getD, hi]

/-! ### One key -/

/-- A segment over an alphabet takes as many numbers as it is long. -/
theorem exists_numbers_drawFrom {alphabet : Array CodePoint} (segment : Text)
    (hs : ∀ c ∈ segment, c ∈ alphabet) :
    ∃ numbers : List Int, numbers.length = segment.length ∧
      ∀ (feed : Feed) (more : List Int) (drawn : Text), Yielding feed (numbers ++ more) →
      ∃ feed',
        drawFrom source alphabet drawn segment.length feed = (segment.reverse ++ drawn, feed') ∧
          Yielding feed' more := by
  induction segment with
  | nil => exact ⟨[], rfl, fun feed more drawn h => ⟨feed, rfl, h⟩⟩
  | cons c segment ih =>
    obtain ⟨i, hi, rfl⟩ := Array.mem_iff_getElem.1 (hs c (by simp))
    obtain ⟨numbers, hlen, hdraw⟩ := ih fun c hc => hs c (by simp [hc])
    refine ⟨(i : Int) :: numbers, congrArg (· + 1) hlen, fun feed more drawn h => ?_⟩
    obtain ⟨feed₁, hchoose, h₁⟩ := choose_of_yielding hi h
    obtain ⟨feed₂, heq, h₂⟩ := hdraw feed₁ more (alphabet[i] :: drawn) h₁
    refine ⟨feed₂, ?_, h₂⟩
    rw [List.length_cons, drawFrom_succ]
    change drawFrom source alphabet ((choose alphabet feed).1 :: drawn) segment.length
      (choose alphabet feed).2 = _
    rw [hchoose, heq]
    simp

/-- How often a piece is drawn from takes one number, or none if its bounds are the same. -/
theorem exists_numbers_drawCount {p : Piece} {n : Nat} (hlower : p.lower ≤ n)
    (hupper : n ≤ p.upper) :
    ∃ numbers : List Int, numbers.length = (if p.lower ≠ p.upper then 1 else 0) ∧
      ∀ (feed : Feed) (more : List Int), Yielding feed (numbers ++ more) →
      ∃ feed', drawCount source (Urn.ofPiece p) feed = (n, feed') ∧ Yielding feed' more := by
  by_cases hsame : p.lower = p.upper
  · refine ⟨[], by simp [hsame], fun feed more h => ⟨feed, ?_, h⟩⟩
    change (if p.lower = p.upper then (p.lower, feed) else _) = _
    rw [if_pos hsame, show p.lower = n by omega]
  · refine ⟨[((n - p.lower : Nat) : Int)], by simp [hsame], fun feed more h => ?_⟩
    obtain ⟨feed', hbetween, h'⟩ := between_of_yielding hlower hupper h
    refine ⟨feed', ?_, h'⟩
    change (if p.lower = p.upper then (p.lower, feed) else between p.lower p.upper feed) = _
    rw [if_neg hsame, hbetween]

/-- A text that pieces can become is drawn from them once the right numbers come. -/
theorem exists_numbers_drawAll {pieces : List Piece} {t : Text} (h : Yields pieces t) :
    ∃ numbers : List Int,
      numbers.length = t.length + pieces.countP (fun p => p.lower ≠ p.upper) ∧
      ∀ (feed : Feed) (more : List Int) (drawn : Text), Yielding feed (numbers ++ more) →
      ∃ feed', drawAll source drawn (pieces.map Urn.ofPiece) feed = (t.reverse ++ drawn, feed') ∧
        Yielding feed' more := by
  induction h with
  | nil => exact ⟨[], rfl, fun feed more drawn h => ⟨feed, rfl, h⟩⟩
  | @cons p pieces segment t hp _ ih =>
    obtain ⟨hlower, hupper, hmem⟩ := hp
    obtain ⟨count, hcountlen, hcount⟩ := exists_numbers_drawCount hlower hupper
    have hmem : ∀ c ∈ segment, c ∈ (Urn.ofPiece p).alphabet := by
      simpa [Urn.ofPiece] using hmem
    obtain ⟨which, hwhichlen, hwhich⟩ := exists_numbers_drawFrom segment hmem
    obtain ⟨numbers, hlen, hnumbers⟩ := ih
    refine ⟨count ++ which ++ numbers, ?_, fun feed more drawn h => ?_⟩
    · simp only [List.length_append, List.countP_cons, decide_eq_true_eq, hcountlen, hwhichlen,
        hlen]
      omega
    rw [List.append_assoc, List.append_assoc] at h
    obtain ⟨feed₁, heq₁, h₁⟩ := hcount feed _ h
    obtain ⟨feed₂, heq₂, h₂⟩ := hwhich feed₁ _ drawn h₁
    obtain ⟨feed₃, heq₃, h₃⟩ := hnumbers feed₂ _ (segment.reverse ++ drawn) h₂
    refine ⟨feed₃, ?_, h₃⟩
    rw [List.map_cons, drawAll_cons, heq₁]
    simp only [heq₂, heq₃]
    simp

/-- A text that pieces can become is the key of some feed of numbers. -/
theorem exists_feed_drawKey {pieces : List Piece} {t : Text} (h : Yields pieces t) :
    ∃ numbers : List Int,
      (drawKey source (pieces.map Urn.ofPiece) (.cycle numbers.toArray 0)).1 = t := by
  obtain ⟨numbers, _, hnumbers⟩ := exists_numbers_drawAll h
  obtain ⟨feed, heq, _⟩ := hnumbers (.cycle numbers.toArray 0) [] [] ⟨[], [], by simp⟩
  refine ⟨numbers, ?_⟩
  change (drawAll source [] (pieces.map Urn.ofPiece) (.cycle numbers.toArray 0)).1.reverse = t
  rw [heq]
  simp

/-- What the pieces of a pattern can become is what they become with some list of numbers, each
    reduced to what is asked for, and with as many of them as there are decisions. -/
theorem reachable_iff_yields {pattern : Text} {pieces : List Piece}
    (hp : Pattern.parse pattern = .ok pieces) (t : Text) :
    Yields pieces t ↔ ∃ (numbers : List Int) (feed : Feed),
      generateOne source.counted pieces (.cycle numbers.toArray 0, 0) =
        (t, feed, numbers.length) := by
  constructor
  · intro h
    obtain ⟨numbers, hlen, hnumbers⟩ := exists_numbers_drawAll h
    obtain ⟨feed, hdrawn, _⟩ := hnumbers (.cycle numbers.toArray 0) [] [] ⟨[], [], by simp⟩
    have hkey : drawKey source (pieces.map Urn.ofPiece) (.cycle numbers.toArray 0) = (t, feed) := by
      rw [drawKey, hdrawn]
      simp
    refine ⟨numbers, feed, ?_⟩
    rw [generateOne, drawKey_counted, hkey, List.countP_map, hlen, Nat.zero_add]
    rfl
  · rintro ⟨numbers, feed, h⟩
    rw [generateOne, drawKey_counted] at h
    have hkey : (drawKey source (pieces.map Urn.ofPiece) (.cycle numbers.toArray 0)).1 = t :=
      congrArg Prod.fst h
    rw [← hkey]
    exact drawKey_yields source_lawful (Pattern.sound_of_parse hp) _

/-- A text with the last members of both alphabets and the greatest length. -/
theorem reachable_iff_yields_longest :
    Pattern.parse (Text.lit "[a-c]\x7b1,3\x7d\\d") =
        .ok [⟨.charClass (Text.lit "abc"), 1, 3⟩, ⟨.digit, 1, 1⟩] ∧
      ∃ (numbers : List Int) (feed : Feed),
        generateOne source.counted [⟨.charClass (Text.lit "abc"), 1, 3⟩, ⟨.digit, 1, 1⟩]
          (.cycle numbers.toArray 0, 0) = (Text.lit "cbc9", feed, numbers.length) := by
  have hp : Pattern.parse (Text.lit "[a-c]\x7b1,3\x7d\\d") =
      .ok [⟨.charClass (Text.lit "abc"), 1, 3⟩, ⟨.digit, 1, 1⟩] := by cbv
  have hyields : Yields [⟨.charClass (Text.lit "abc"), 1, 3⟩, ⟨.digit, 1, 1⟩]
      (Text.lit "cbc" ++ (Text.lit "9" ++ [])) :=
    .cons ⟨by decide, by decide, by decide⟩ (.cons ⟨by decide, by decide, by decide⟩ .nil)
  exact ⟨hp, (reachable_iff_yields hp _).1 hyields⟩

end Keyspace.Sampling.Feed
