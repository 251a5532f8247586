import Keyspace.Proofs.Pattern.Atom
import Keyspace.Proofs.Pattern.Quantifier

/-!
The reader of patterns accepts the grammar, and tells what the grammar tells.

An item is an anchor, or an atom and its quantifier. Reading one takes exactly its text, since an
atom ends where it says and a quantifier where no other one can begin: nothing that can follow an
item is a sign of a quantifier (`not_sign_of_items`). So a run of the reader is a derivation of
`Items`, item by item, and each derivation is a run.

    text ──▶ item ──▶ item ──▶ … ──▶ end          found: the pieces so far, last first
-/

namespace Keyspace.Pattern

open NumberReader

/-! ### One item -/

theorem readItem_anchor {c : CodePoint} (hc : isAnchor c) (o : Nat) (t : Text) :
    bounded.readItem ⟨o, c :: t⟩ = .ok (some (none, ⟨o + 1, t⟩)) := by
  simp only [readItem]
  rw [if_pos hc]

theorem readItem_piece {a q t : Text} {atom : Atom} {lower upper : Nat} (ha : Writes a atom)
    (hq : Quantifies q lower upper) (ht : ∀ s ∈ t.head?, isQuantifierSign s = false) (o : Nat) :
    bounded.readItem ⟨o, a ++ q ++ t⟩ =
      .ok (some (some ⟨atom, lower, upper⟩, ⟨o + (a ++ q).length, t⟩)) := by
  obtain ⟨c, b, rfl, hc, _⟩ := exists_cons_of_writes ha
  have hatom := readAtom_of_writes ha o (q ++ t)
  have hquant := readQuantifier_of_quantifies hq ht (o + (c :: b).length)
  rw [List.append_assoc, List.cons_append]
  simp only [readItem, hc, hatom, hquant, List.length_append, Nat.add_assoc]
  rfl

/-- What is read as an item is one. -/
theorem item_of_readItem {c next : Cursor} {piece : Option Piece}
    (h : bounded.readItem c = .ok (some (piece, next))) :
    (∃ a, isAnchor a ∧ piece = none ∧ c.rest = a :: next.rest ∧ next.offset = c.offset + 1) ∨
      ∃ a q atom lower upper, Writes a atom ∧ Quantifies q lower upper ∧
        piece = some ⟨atom, lower, upper⟩ ∧ c.rest = a ++ q ++ next.rest ∧
        next.offset = c.offset + (a ++ q).length := by
  obtain ⟨o, s⟩ := c
  cases s with
  | nil => cases h
  | cons c rest =>
    simp only [readItem] at h
    split at h
    · next hc => cases h; exact Or.inl ⟨c, hc, rfl, rfl, rfl⟩
    next hc =>
    split at h
    · cases h
    next atom mid hatom =>
    split at h
    · cases h
    next lower upper last hquant =>
    cases h
    obtain ⟨a, ha, hrest, hoffset⟩ := writes_of_readAtom (by simpa using hc) hatom
    obtain ⟨q, hq, hrest', hoffset'⟩ := quantifies_of_readQuantifier hquant
    refine Or.inr ⟨a, q, atom, lower, upper, ha, hq, rfl, ?_, ?_⟩
    · rw [hrest, hrest', List.append_assoc]
    · rw [hoffset', hoffset, List.length_append, Nat.add_assoc]

/-- Items end with the text. -/
theorem rest_eq_nil_of_readItem {c : Cursor} (h : bounded.readItem c = .ok none) : c.rest = [] := by
  obtain ⟨o, s⟩ := c
  cases s with
  | nil => rfl
  | cons c rest =>
    simp only [readItem] at h
    split at h
    · cases h
    split at h
    · cases h
    split at h
    · cases h
    · cases h

/-! ### All items -/

section

variable {reader : NumberReader} {c next : Cursor}

theorem readItems_end (h : reader.readItem c = .ok none) (found : List Piece) :
    reader.readItems found c = .ok found.reverse := by
  rw [readItems]
  split <;> simp_all

theorem readItems_fault {fault : Fault} (h : reader.readItem c = .error fault)
    (found : List Piece) : reader.readItems found c = .error fault := by
  rw [readItems]
  split <;> simp_all

theorem readItems_item {piece : Option Piece} (h : reader.readItem c = .ok (some (piece, next)))
    (found : List Piece) :
    reader.readItems found c = reader.readItems (piece.toList ++ found) next := by
  rw [readItems]
  split <;> simp_all

end

/-- Nothing that can follow an item is a sign of a quantifier. -/
theorem not_sign_of_items {t : Text} {pieces : List Piece} (h : Items t pieces) :
    ∀ s ∈ t.head?, isQuantifierSign s = false := by
  cases h with
  | nil => rintro s ⟨⟩
  | @anchor c t pieces hc _ =>
    rintro s ⟨⟩
    simp only [isAnchor, Bool.or_eq_true, decide_eq_true_eq] at hc
    rcases hc with rfl | rfl <;> rfl
  | piece ha _ _ =>
    obtain ⟨c, b, rfl, _, hc⟩ := exists_cons_of_writes ha
    rintro s ⟨⟩
    exact hc

/-- Items are read as the pieces that they stand for. -/
theorem readItems_of_items {t : Text} {pieces : List Piece} (h : Items t pieces)
    (found : List Piece) (o : Nat) :
    bounded.readItems found ⟨o, t⟩ = .ok (found.reverse ++ pieces) := by
  induction h generalizing found o with
  | nil => rw [readItems_end rfl, List.append_nil]
  | anchor hc _ ih => rw [readItems_item (readItem_anchor hc o _)]; exact ih found _
  | @piece a q t atom lower upper pieces ha hq ht ih =>
    rw [readItems_item (readItem_piece ha hq (not_sign_of_items ht) o), ih]
    simp

/-- A run of the reader is a derivation. -/
theorem items_of_readItems {found pieces : List Piece} {c : Cursor}
    (h : bounded.readItems found c = .ok pieces) :
    ∃ own, Items c.rest own ∧ pieces = found.reverse ++ own := by
  fun_induction bounded.readItems found c with
  | case1 => cases h
  | case2 found c hend =>
    cases h
    rw [rest_eq_nil_of_readItem hend]
    exact ⟨[], .nil, (List.append_nil _).symm⟩
  | case3 found c piece next hitem ih =>
    obtain ⟨own, hown, rfl⟩ := ih h
    rcases item_of_readItem hitem with ⟨a, ha, rfl, hrest, _⟩ |
      ⟨a, q, atom, lower, upper, ha, hq, rfl, hrest, _⟩
    · rw [hrest]
      exact ⟨own, .anchor ha hown, rfl⟩
    · rw [hrest]
      exact ⟨⟨atom, lower, upper⟩ :: own, .piece ha hq hown, by simp⟩

/-! ### Patterns -/

theorem parse_of_unsupported {t : Text} {i : Nat} (h : t.findIdx? isUnsupported = some i) :
    parse t = .error ⟨.group, i⟩ := by
  rw [parse, NumberReader.parse, h]

theorem parse_of_supported {t : Text} (h : t.findIdx? isUnsupported = none) :
    parse t = bounded.readItems [] ⟨0, t⟩ := by
  rw [parse, NumberReader.parse, h]

/-- A pattern parses as the pieces that it stands for, and as nothing else. -/
theorem parse_eq_ok_iff {t : Text} {pieces : List Piece} :
    parse t = .ok pieces ↔ StandsFor t pieces := by
  constructor
  · intro h
    cases hfind : t.findIdx? isUnsupported with
    | some i =>
      rw [parse_of_unsupported hfind] at h
      cases h
    | none =>
      rw [parse_of_supported hfind] at h
      obtain ⟨own, hown, rfl⟩ := items_of_readItems h
      exact ⟨List.findIdx?_eq_none_iff.1 hfind, hown⟩
  · rintro ⟨hs, hi⟩
    rw [parse_of_supported (List.findIdx?_eq_none_iff.2 hs)]
    exact readItems_of_items hi [] 0

/-- The parser accepts exactly the patterns of the grammar, and none of them has two readings. -/
theorem parse_unique_reading (t : Text) :
    (∀ pieces, parse t = .ok pieces ↔ StandsFor t pieces) ∧
      ∀ pieces pieces', StandsFor t pieces → StandsFor t pieces' → pieces = pieces' := by
  refine ⟨fun _ => parse_eq_ok_iff, ?_⟩
  intro pieces pieces' h h'
  rw [← parse_eq_ok_iff] at h h'
  exact Except.ok.inj (h.symm.trans h')

end Keyspace.Pattern
