import Keyspace.Pattern.Language
import Keyspace.Proofs.Pattern.Reading
import Keyspace.Proofs.Text.Encodable

/-!
A pattern whose alphabets have UTF-8 forms has one itself.

Every code point of a pattern is a sign of its notation, which is ASCII, or it is in an alphabet: a
literal and an escaped sign offer themselves, and so do the members of a class and both ends of a
range. So nothing that a pattern is written with is lost in what it stands for, and nothing else
comes into what the pattern can become.
-/

namespace Keyspace.Pattern

open Text (isScalar encodable isScalar_cp isScalar_of_lt)

theorem ends_mem_expandRange {first last : Nat} (h : first ≤ last) :
    first ∈ expandRange first last ∧ last ∈ expandRange first last := by
  unfold expandRange
  rw [List.mem_range'_1, List.mem_range'_1]
  omega

theorem encodable_of_members {t candidates : Text} (h : Members t candidates)
    (hc : encodable candidates) : encodable t := by
  induction h with
  | nil => rfl
  | escaped _ ih =>
    simp only [Text.encodable_cons, Bool.and_eq_true] at hc ⊢
    exact ⟨isScalar_cp _, hc.1, ih hc.2⟩
  | @range first last t candidates _ _ _ hle _ ih =>
    rw [Text.encodable_append, Bool.and_eq_true] at hc
    obtain ⟨hrange, hc⟩ := hc
    obtain ⟨hfirst, hlast⟩ := ends_mem_expandRange hle
    simp only [Text.encodable_cons, Bool.and_eq_true]
    exact ⟨Text.isScalar_of_mem hrange hfirst, isScalar_cp _, Text.isScalar_of_mem hrange hlast,
      ih hc⟩
  | single _ _ _ _ ih =>
    simp only [Text.encodable_cons, Bool.and_eq_true] at hc ⊢
    exact ⟨hc.1, ih hc.2⟩

/-- A sign that a backslash stands before is a letter of a class, or offers itself. -/
theorem isScalar_of_escapeAtom {c : CodePoint} (h : encodable (escapeAtom c).alphabet) :
    isScalar c := by
  unfold escapeAtom at h
  split_ifs at h with hd hw hs
  · exact hd ▸ isScalar_cp _
  · exact hw ▸ isScalar_cp _
  · exact hs ▸ isScalar_cp _
  · exact Text.isScalar_of_mem h (List.mem_singleton_self c)

theorem encodable_of_writes {a : Text} {atom : Atom} (h : Writes a atom)
    (hc : encodable atom.alphabet) : encodable a := by
  cases h with
  | literal _ _ _ _ => exact hc
  | escape =>
    simp only [Text.encodable_cons, Bool.and_eq_true]
    exact ⟨isScalar_cp _, isScalar_of_escapeAtom hc, rfl⟩
  | charClass _ _ hm =>
    simp only [Text.encodable_append, Text.encodable_cons, Bool.and_eq_true]
    exact ⟨⟨isScalar_cp _, encodable_of_members hm hc⟩, isScalar_cp _, rfl⟩

theorem encodable_of_numeral {t : Text} {n : Nat} (h : Numeral t n) : encodable t := by
  obtain ⟨_, hdigits, _⟩ := h
  refine Text.encodable_of_forall fun c hc => isScalar_of_lt ?_
  have hdigit := List.all_eq_true.1 hdigits c hc
  simp only [Text.isDigit, Bool.and_eq_true, decide_eq_true_eq] at hdigit
  exact lt_of_le_of_lt hdigit.2 (by decide)

theorem encodable_of_quantifies {q : Text} {lower upper : Nat} (h : Quantifies q lower upper) :
    encodable q := by
  cases h with
  | none => rfl
  | optional => rfl
  | some => rfl
  | any => rfl
  | exactly ht _ => simp [encodable_of_numeral ht]
  | atLeast ht _ => simp [encodable_of_numeral ht]
  | between ht hu _ _ => simp [encodable_of_numeral ht, encodable_of_numeral hu]

theorem encodable_of_items {t : Text} {pieces : List Piece} (h : Items t pieces)
    (hc : ∀ p ∈ pieces, encodable p.atom.alphabet) : encodable t := by
  induction h with
  | nil => rfl
  | @anchor c t pieces ha _ ih =>
    have hanchor : c = cp '^' ∨ c = cp '$' := by simpa [isAnchor] using ha
    rw [Text.encodable_cons, ih hc]
    rcases hanchor with rfl | rfl <;> rfl
  | piece ha hq _ ih =>
    have hatom := encodable_of_writes ha (hc _ List.mem_cons_self)
    have hrest := ih fun p hp => hc p (by simp [hp])
    rw [Text.encodable_append, Text.encodable_append, hatom, encodable_of_quantifies hq, hrest]
    rfl

/-- A pattern has a UTF-8 form if all its alphabets have one. -/
theorem encodable_of_parse {t : Text} {pieces : List Piece} (h : parse t = .ok pieces)
    (hc : ∀ p ∈ pieces, encodable p.atom.alphabet) : encodable t :=
  encodable_of_items (parse_eq_ok_iff.1 h).2 hc

end Keyspace.Pattern

namespace Keyspace

open Pattern (Piece Yields)

/-- Every code point that pieces can put into a key has a UTF-8 form. -/
def Encodable (pieces : List Piece) : Prop :=
  ∀ p ∈ pieces, 0 < p.upper → Text.encodable p.atom.alphabet

/-- What pieces can become has a UTF-8 form if the alphabets that they draw from have one. -/
theorem encodable_of_yields {pieces : List Piece} (he : Encodable pieces) {t : Text}
    (h : Yields pieces t) : Text.encodable t := by
  induction h with
  | nil => rfl
  | @cons p pieces segment t hp _ ih =>
    refine Text.encodable_of_forall fun c hc => ?_
    rcases List.mem_append.1 hc with hc | hc
    · have hpos : 0 < p.upper := Nat.lt_of_lt_of_le (List.length_pos_of_mem hc) hp.le_upper
      exact Text.isScalar_of_mem (he p (by simp) hpos) (hp.mem_alphabet c hc)
    · exact Text.isScalar_of_mem (ih fun p hp => he p (by simp [hp])) hc

end Keyspace
