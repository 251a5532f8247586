import Keyspace.Proofs.Batch
import Keyspace.Proofs.Pattern.Encodable
import Keyspace.Proofs.Replay

/-!
Which patterns make keys that can always be analyzed.

Generated keys come to the analysis as they are, and the analysis asks of them only that they have a
UTF-8 form. A class may run across the surrogates, which have none, so the loop from patterns to
partitions is closed for some patterns only: exactly for those in which no piece that is drawn from
offers a surrogate (`closesLoop_iff`). For the others some feed of numbers draws a key that fails
the whole batch.

    pattern ──▶ pieces ──▶ keys ──▶ records          open where a key holds U+D800..U+DFFF
-/

namespace Keyspace

open Pattern (Piece Yields)
open Sampling (Source Feed generate)

/-- Whatever keys are generated from the pattern, they are analyzed over every accepted number of
    partitions, and each has its record. -/
def ClosesLoop (pattern : Text) : Prop :=
  ∀ (σ : Type) (source : Source σ), source.Lawful → ∀ (count partitions : Value) (n : Nat) (s : σ),
    PartitionCount.normalize partitions = .ok n →
    ∃ keys s' records, generate source pattern count s = (.ok keys, s') ∧
      Assignment.analyze keys partitions = .ok records ∧ records.map Assignment.key = keys

/-! ### What pieces can put into a key -/

/-- A sound piece can become its greatest number of any code point that it offers. -/
theorem yields_replicate {p : Piece} (hp : p.Sound) {c : CodePoint} (hc : c ∈ p.atom.alphabet) :
    p.Yields (List.replicate p.upper c) where
  lower_le := by rw [List.length_replicate]; exact hp.lower_le
  le_upper := by rw [List.length_replicate]
  mem_alphabet d hd := by rw [List.eq_of_mem_replicate hd]; exact hc

theorem exists_yields {pieces : List Piece} (hs : ∀ p ∈ pieces, p.Sound) :
    ∃ t, Yields pieces t := by
  induction pieces with
  | nil => exact ⟨[], .nil⟩
  | cons p pieces ih =>
    have hp : p.Sound := hs p (by simp)
    obtain ⟨t, ht⟩ := ih fun p hp => hs p (by simp [hp])
    obtain ⟨c, hc⟩ := List.exists_mem_of_ne_nil _ hp.alphabet_ne_nil
    exact ⟨_, .cons (yields_replicate hp hc) ht⟩

/-- Every code point that a piece offers, if it is drawn from at all, comes in some key. -/
theorem exists_yields_mem {pieces : List Piece} (hs : ∀ p ∈ pieces, p.Sound) {p : Piece}
    (hp : p ∈ pieces) (hpos : 0 < p.upper) {c : CodePoint} (hc : c ∈ p.atom.alphabet) :
    ∃ t, Yields pieces t ∧ c ∈ t := by
  induction pieces with
  | nil => cases hp
  | cons q pieces ih =>
    have hq : q.Sound := hs q (by simp)
    have hs' : ∀ p ∈ pieces, p.Sound := fun p hp => hs p (by simp [hp])
    rcases List.mem_cons.1 hp with rfl | hp
    · obtain ⟨t, ht⟩ := exists_yields hs'
      refine ⟨_, .cons (yields_replicate hq hc) ht, List.mem_append_left _ ?_⟩
      exact List.mem_replicate.2 ⟨by omega, rfl⟩
    · obtain ⟨t, ht, hmem⟩ := ih hs' hp
      obtain ⟨d, hd⟩ := List.exists_mem_of_ne_nil _ hq.alphabet_ne_nil
      exact ⟨_, .cons (yields_replicate hq hd) ht, List.mem_append_right _ hmem⟩

/-! ### Keys in the analysis -/

/-- A batch is analyzed, or its first key without a UTF-8 form fails it. -/
theorem analyze_cases {partitions : Value} {n : Nat}
    (hn : PartitionCount.normalize partitions = .ok n) (keys : List Text) :
    ((∀ key ∈ keys, Text.encodable key) ∧ ∃ records : List Assignment,
        Assignment.analyze keys partitions = .ok records ∧ records.map Assignment.key = keys) ∨
      ∃ before key after, keys = before ++ key :: after ∧ (∀ k ∈ before, Text.encodable k) ∧
        Text.encodable key = false ∧
        Assignment.analyze keys partitions = .error (.unencodable key) := by
  cases hfind : keys.find? (!Text.encodable ·) with
  | none =>
    have hall : ∀ key ∈ keys, Text.encodable key := by simpa using List.find?_eq_none.1 hfind
    exact Or.inl ⟨hall, Assignment.analyze_of_encodable hn hall⟩
  | some key =>
    obtain ⟨hkey, before, after, rfl, hbefore⟩ := List.find?_eq_some_iff_append.1 hfind
    have hkey : Text.encodable key = false := by simpa using hkey
    have hbefore : ∀ k ∈ before, Text.encodable k := by simpa using hbefore
    exact Or.inr ⟨before, key, after, rfl, hbefore, hkey,
      Assignment.analyze_unencodable hn hbefore hkey⟩

/-- Keys that are analyzed have UTF-8 forms. -/
theorem encodable_of_analyze {partitions : Value} {n : Nat}
    (hn : PartitionCount.normalize partitions = .ok n) {keys : List Text}
    {records : List Assignment} (h : Assignment.analyze keys partitions = .ok records) :
    ∀ key ∈ keys, Text.encodable key := by
  rcases analyze_cases hn keys with ⟨hall, _⟩ | ⟨_, _, _, _, _, _, herror⟩
  · exact hall
  · rw [herror] at h
    cases h

/-! ### The loop -/

/-- The loop is closed for a pattern exactly if nothing that it draws is without a UTF-8 form. -/
theorem closesLoop_iff {pattern : Text} {pieces : List Piece}
    (hp : Pattern.parse pattern = .ok pieces) : ClosesLoop pattern ↔ Encodable pieces := by
  constructor
  -- A code point that some key can hold is in a key that was analyzed.
  · intro hclosed p hmem hpos
    refine Text.encodable_of_forall fun c hc => ?_
    obtain ⟨t, ht, hct⟩ := exists_yields_mem (Pattern.sound_of_parse hp) hmem hpos hc
    obtain ⟨numbers, hkey⟩ := Feed.exists_feed_drawKey ht
    obtain ⟨keys, s', records, hkeys, hrecords, _⟩ := hclosed Feed Feed.source Feed.source_lawful
      (.int 1) (.int 1) 1 (.cycle numbers.toArray 0) rfl
    have hone : keys = [t] := by
      rw [Sampling.generate_int_one hp, hkey] at hkeys
      cases hkeys
      rfl
    have hencodable : Text.encodable t := encodable_of_analyze rfl hrecords t (by simp [hone])
    exact Text.isScalar_of_mem hencodable hct
  · intro he σ source hl count partitions n s hn
    obtain ⟨keys, s', heq, _, hyields⟩ := Sampling.generate_yields hl hp count s
    obtain ⟨records, hrecords, hkeys⟩ := Assignment.analyze_of_encodable hn
      fun key hkey => encodable_of_yields he (hyields key hkey)
    exact ⟨keys, s', records, heq, hrecords, hkeys⟩

/-- Keys of a pattern are always generated. In the analysis they fail at the first of them without a
    UTF-8 form, and nowhere else; no key can be one exactly if no piece that is drawn from offers a
    code point without a UTF-8 form. -/
theorem loop_closed_iff_encodable {pattern : Text} {pieces : List Piece}
    (hp : Pattern.parse pattern = .ok pieces) :
    (∀ (σ : Type) (source : Source σ), source.Lawful →
      ∀ (count partitions : Value) (n : Nat) (s : σ), PartitionCount.normalize partitions = .ok n →
      ∃ keys s', generate source pattern count s = (.ok keys, s') ∧
        (((∀ key ∈ keys, Text.encodable key) ∧ ∃ records : List Assignment,
            Assignment.analyze keys partitions = .ok records ∧
              records.map Assignment.key = keys) ∨
          ∃ before key after, keys = before ++ key :: after ∧ (∀ k ∈ before, Text.encodable k) ∧
            Text.encodable key = false ∧
            Assignment.analyze keys partitions = .error (.unencodable key))) ∧
      (ClosesLoop pattern ↔ Encodable pieces) := by
  refine ⟨?_, closesLoop_iff hp⟩
  intro σ source hl count partitions n s hn
  obtain ⟨keys, s', heq, _⟩ := Sampling.generate_yields hl hp count s
  exact ⟨keys, s', heq, analyze_cases hn keys⟩

/-- A class from the code point before the surrogates to the one behind them. -/
def surrogateClass : Text := [cp '[', 0xD7FF, cp '-', 0xE000, cp ']']

theorem parse_surrogateClass :
    Pattern.parse surrogateClass =
      .ok [⟨.charClass (Pattern.expandRange 0xD7FF 0xE000), 1, 1⟩] := by
  have hm : Pattern.Members [0xD7FF, cp '-', 0xE000] (Pattern.expandRange 0xD7FF 0xE000 ++ []) :=
    .range (by decide) (by decide) (by decide) (by decide) .nil
  rw [List.append_nil] at hm
  rw [Pattern.parse_eq_ok_iff]
  exact ⟨by decide, .piece (.charClass (by decide) (by decide) hm) .none .nil⟩

/-- The class across the surrogates leaves the loop open: with the number 1 it draws the first of
    them, which is a key, but not one that the analysis takes. -/
theorem not_closesLoop_surrogateClass :
    Pattern.parse surrogateClass =
        .ok [⟨.charClass (Pattern.expandRange 0xD7FF 0xE000), 1, 1⟩] ∧
      (generate Feed.source surrogateClass (.int 1) (.cycle #[1] 0)).1 = .ok [[0xD800]] ∧
      Assignment.analyze [[0xD800]] (.int 1) = .error (.unencodable [0xD800]) ∧
      ¬ ClosesLoop surrogateClass := by
  refine ⟨parse_surrogateClass, ?_, ?_, fun hclosed => ?_⟩
  · have hkey : (Sampling.drawKey Feed.source
        [Sampling.Urn.ofPiece ⟨.charClass (Pattern.expandRange 0xD7FF 0xE000), 1, 1⟩]
        (.cycle #[1] 0)).1 = [0xD800] := by decide +kernel
    rw [Sampling.generate_int_one parse_surrogateClass, List.map_singleton, hkey]
  · change Assignment.analyze ([] ++ [[0xD800]]) (.int 1) = _
    exact Assignment.analyze_unencodable (n := 1) rfl (by simp) (by decide)
  · have he := (loop_closed_iff_encodable parse_surrogateClass).2.1 hclosed
    have hscalar : Text.isScalar 0xD800 := by
      apply Text.isScalar_of_mem (he _ (List.mem_singleton_self _) Nat.one_pos)
      exact List.mem_range'_1.2 ⟨by decide, by decide⟩
    exact absurd hscalar (by decide)

end Keyspace
