import Keyspace.Pattern.Printer
import Keyspace.Proofs.Pattern.Reading

/-!
The pieces of a pattern can be drawn from.

Whatever pattern is read, each of its pieces has bounds in their order and below the limit, and an
alphabet with something in it. The grammar says so part by part: a quantifier is only written with
such bounds, and a class only with a member, whose range is not reversed.
-/

namespace Keyspace.Pattern

theorem alphabet_escapeAtom_ne_nil (c : CodePoint) : (escapeAtom c).alphabet ≠ [] := by
  unfold escapeAtom
  split
  · decide
  split
  · decide
  split
  · decide
  · exact List.cons_ne_nil _ _

theorem alphabet_ne_nil_of_writes {a : Text} {atom : Atom} (h : Writes a atom) :
    atom.alphabet ≠ [] := by
  cases h with
  | literal _ _ _ _ => exact List.cons_ne_nil _ _
  | escape => exact alphabet_escapeAtom_ne_nil _
  | charClass hne _ hm => exact candidates_ne_nil hm hne

theorem bounds_of_quantifies {q : Text} {lower upper : Nat} (h : Quantifies q lower upper) :
    lower ≤ upper ∧ upper ≤ maxRepeat := by
  cases h with
  | none => decide
  | optional => decide
  | some => decide
  | any => decide
  | exactly _ hmax => exact ⟨le_refl _, hmax⟩
  | atLeast _ hmax => exact ⟨Nat.le_add_right _ _, hmax⟩
  | between _ _ hle hmax => exact ⟨hle, hmax⟩

theorem sound_of_items {t : Text} {pieces : List Piece} (h : Items t pieces) :
    ∀ p ∈ pieces, p.Sound := by
  induction h with
  | nil => simp
  | anchor _ _ ih => exact ih
  | piece ha hq _ ih =>
    obtain ⟨hle, hmax⟩ := bounds_of_quantifies hq
    rintro p hp
    rcases List.mem_cons.1 hp with rfl | hp
    · exact ⟨hle, hmax, alphabet_ne_nil_of_writes ha⟩
    · exact ih p hp

/-- An item takes at least one code point, and makes at most one piece. -/
theorem length_le_of_items {t : Text} {pieces : List Piece} (h : Items t pieces) :
    pieces.length ≤ t.length := by
  induction h with
  | nil => exact le_refl _
  | anchor _ _ ih => exact Nat.le_succ_of_le ih
  | piece ha _ _ ih =>
    obtain ⟨c, b, rfl, _⟩ := exists_cons_of_writes ha
    simp only [List.length_append, List.length_cons]
    omega

theorem mem_of_writes_literal {a : Text} {c : CodePoint} (h : Writes a (.literal c)) : c ∈ a := by
  generalize hatom : Atom.literal c = atom at h
  cases h with
  | literal _ _ _ _ => cases hatom; exact List.mem_singleton_self c
  | @escape d =>
    unfold escapeAtom at hatom
    split_ifs at hatom
    cases hatom
    simp
  | charClass _ _ _ => cases hatom

theorem literal_mem_of_items {t : Text} {pieces : List Piece} (h : Items t pieces) {p : Piece}
    {c : CodePoint} (hp : p ∈ pieces) (hc : p.atom = .literal c) : c ∈ t := by
  induction h with
  | nil => cases hp
  | anchor _ _ ih => exact List.mem_cons_of_mem _ (ih hp)
  | @piece a q t atom lower upper pieces ha _ _ ih =>
    rcases List.mem_cons.1 hp with rfl | hp
    · obtain rfl : atom = .literal c := hc
      simp [mem_of_writes_literal ha]
    · exact List.mem_append_right _ (ih hp)

/-- Every piece of a pattern is sound. -/
theorem sound_of_parse {t : Text} {pieces : List Piece} (h : parse t = .ok pieces) :
    ∀ p ∈ pieces, p.Sound :=
  sound_of_items (parse_eq_ok_iff.1 h).2

end Keyspace.Pattern
