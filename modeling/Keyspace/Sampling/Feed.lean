import Keyspace.Sampling

/-!
Sources of decisions that can be repeated.

A feed yields numbers, and each decision takes the next number and reduces it to what is asked for.
A feed of extremes yields none: it always answers the upper bound and the first member.
-/

namespace Keyspace.Sampling

/-- A stream of numbers: none at all, a cycle, or the high bits of a congruential generator. -/
inductive Feed where
  | extremes
  | cycle (numbers : Array Int) (next : Nat)
  | congruential (state : UInt64)

namespace Feed

/-- The next state of the congruential generator. -/
def advance (state : UInt64) : UInt64 := state * 6364136223846793005 + 1442695040888963407

/-- The next number of a feed, if it yields any. -/
def next? : Feed → Option (Int × Feed)
  | .extremes => none
  | .cycle numbers next =>
    some (numbers.getD next 0, .cycle numbers ((next + 1) % max 1 numbers.size))
  | .congruential state =>
    let state := advance state
    some ((state >>> 33).toNat, .congruential state)

/-- The number from `a` to `b` that the next number of the feed is reduced to. -/
def between (a b : Nat) (feed : Feed) : Nat × Feed :=
  match feed.next? with
  | none => (b, feed)
  | some (d, feed) => (a + (d.emod ((b : Int) - a + 1)).toNat, feed)

/-- The member of the alphabet that the next number of the feed is reduced to. -/
def choose (alphabet : Array CodePoint) (feed : Feed) : CodePoint × Feed :=
  match feed.next? with
  | none => (alphabet.getD 0 0, feed)
  | some (d, feed) => (alphabet.getD (d.emod alphabet.size).toNat 0, feed)

/-- Feeds as a source of decisions. -/
def source : Source Feed := ⟨between, choose⟩

/-- Whatever numbers a feed yields, its decisions keep to what they are asked. -/
theorem source_lawful : source.Lawful where
  between_ge a b feed _ := by
    simp only [source, between]
    split
    · assumption
    · exact Nat.le_add_right _ _
  between_le a b feed h := by
    simp only [source, between]
    split
    · exact Nat.le_refl _
    · next d _ _ =>
      have := Int.emod_lt_of_pos d (b := (b : Int) - a + 1) (by omega)
      have := Int.emod_nonneg d (b := (b : Int) - a + 1) (by omega)
      show a + (d % ((b : Int) - a + 1)).toNat ≤ b
      omega
  choose_mem alphabet feed h := by
    have hs : 0 < alphabet.size := Array.size_pos_iff.2 h
    simp only [source, choose]
    split
    · rw [Array.getD_eq_getD_getElem?, Array.getElem?_eq_getElem hs]
      exact Array.getElem_mem hs
    · next d _ _ =>
      have hlt : (d % (alphabet.size : Int)).toNat < alphabet.size := by
        have := Int.emod_lt_of_pos d (b := (alphabet.size : Int)) (by omega)
        have := Int.emod_nonneg d (b := (alphabet.size : Int)) (by omega)
        omega
      show alphabet.getD (d % (alphabet.size : Int)).toNat 0 ∈ alphabet
      rw [Array.getD_eq_getD_getElem?, Array.getElem?_eq_getElem hlt]
      exact Array.getElem_mem hlt

end Feed

end Keyspace.Sampling
