import Keyspace.Proofs.Pattern.Reading

/-!
A pattern behind a pattern is read as it is read alone.

An offset only says where a fault is told to be, so a reader that starts further on answers the
same, its cursor and its fault moved by as much (`readItems_moved`). What stands behind the items of
a pattern is not looked at while they are read, but for the one code point that could go on with the
last of them as its quantifier (`readItems_append`).

    u ──▶ items of u ──▶ v                      no sign of a quantifier in front of v
    0                    u.length + offset      v read from 0, everything u.length further on
-/

namespace Keyspace.Pattern

open NumberReader

/-- The cursor in a text with `k` code points more before it. -/
def Cursor.moved (k : Nat) (c : Cursor) : Cursor := ⟨k + c.offset, c.rest⟩

/-- The fault in a text with `k` code points more before it. -/
def Fault.moved (k : Nat) (f : Fault) : Fault := ⟨f.cause, k + f.position⟩

/-- What a reader answers in a text with `k` code points more before it; `move` moves the cursor of
    a success. -/
def movedAnswer {α : Type} (k : Nat) (move : α → α) : Except Fault α → Except Fault α
  | .error f => .error (f.moved k)
  | .ok a => .ok (move a)

section

variable (k : Nat)

/-! ### Readers that start further on -/

theorem readMembers_moved (opened : Nat) (found : Text) (o : Nat) (t : Text) :
    readMembers (k + opened) found (k + o) t =
      movedAnswer k (Prod.map id (Cursor.moved k)) (readMembers opened found o t) := by
  fun_induction readMembers opened found o t with
  | case1 => rfl
  | case2 found o rest hf =>
    rw [readMembers.eq_def]
    simp only [if_true, if_pos hf]
    rfl
  | case3 found o rest hf =>
    rw [readMembers.eq_def]
    simp only [if_true, if_neg hf]
    rfl
  | case4 found o h₁ =>
    rw [readMembers.eq_def]
    simp only [if_neg h₁, if_true]
    rfl
  | case5 found o e rest h₁ ih =>
    rw [readMembers_escaped]
    exact ih
  | case6 found o c h₁ h₂ ih =>
    rw [readMembers.eq_def]
    simp only [if_neg h₁, if_neg h₂]
    exact ih
  | case7 found o c h₁ h₂ d ih =>
    rw [readMembers.eq_def]
    simp only [if_neg h₁, if_neg h₂]
    exact ih
  | case8 found o c h₁ h₂ d last rest hr hlt =>
    rw [readMembers.eq_def]
    simp only [if_neg h₁, if_neg h₂, if_pos hr, if_pos hlt]
    rfl
  | case9 found o c h₁ h₂ d last rest hr hle ih =>
    rw [readMembers.eq_def]
    simp only [if_neg h₁, if_neg h₂, if_pos hr, if_neg hle]
    exact ih
  | case10 found o c h₁ h₂ d last rest hr ih =>
    rw [readMembers.eq_def]
    simp only [if_neg h₁, if_neg h₂, if_neg hr]
    exact ih

theorem readAtom_moved (o : Nat) (c : CodePoint) (rest : Text) :
    readAtom (k + o) c rest =
      movedAnswer k (Prod.map id (Cursor.moved k)) (readAtom o c rest) := by
  have hm := readMembers_moved k o [] (o + 1) rest
  rw [← Nat.add_assoc] at hm
  simp only [readAtom]
  split
  · split
    · rfl
    · rw [hm]
      cases readMembers o [] (o + 1) rest <;> rfl
  split
  · cases rest <;> rfl
  split
  · rfl
  · rfl

theorem advance_moved (c : Cursor) (n : Nat) : (c.moved k).advance n = (c.advance n).moved k := by
  simp only [Cursor.moved, Cursor.advance, Nat.add_assoc]

theorem rest_moved (c : Cursor) : (c.moved k).rest = c.rest := rfl

theorem readNumber_moved (c : Cursor) :
    bounded.readNumber (c.moved k) = Prod.map id (Cursor.moved k) (bounded.readNumber c) := by
  simp only [readNumber, advance_moved, rest_moved]
  rfl

theorem readBounds_moved (c : Cursor) :
    bounded.readBounds (c.moved k) =
      (bounded.readBounds c).map (Prod.map id (Prod.map id (Cursor.moved k))) := by
  simp only [readBounds, readNumber_moved]
  rcases bounded.readNumber c with ⟨_ | lower, next⟩
  · rfl
  simp only [Prod.map, id, advance_moved, readNumber_moved, rest_moved]
  split <;> rfl

theorem readQuantifier_moved (c : Cursor) :
    bounded.readQuantifier (c.moved k) =
      movedAnswer k (Prod.map id (Prod.map id (Cursor.moved k))) (bounded.readQuantifier c) := by
  have hb := readBounds_moved k (c.advance 1)
  rw [← advance_moved] at hb
  simp only [readQuantifier, hb, rest_moved]
  cases c.rest with
  | nil => rfl
  | cons sign t =>
    simp only
    split
    · rfl
    split
    · rfl
    split
    · rfl
    split
    · rcases bounded.readBounds (c.advance 1) with _ | ⟨lower, upper, next⟩
      · rfl
      simp only [Option.map, Prod.map, id, advance_moved, rest_moved]
      split
      · rfl
      split
      · rfl
      split
      · rfl
      · rfl
    · rfl

theorem readItem_moved (c : Cursor) :
    bounded.readItem (c.moved k) =
      movedAnswer k (Option.map (Prod.map id (Cursor.moved k))) (bounded.readItem c) := by
  obtain ⟨o, t⟩ := c
  cases t with
  | nil => rfl
  | cons first t =>
    simp only [readItem, Cursor.moved, readAtom_moved]
    split
    · rfl
    cases readAtom o first t with
    | error f => rfl
    | ok r =>
      obtain ⟨atom, next⟩ := r
      simp only [movedAnswer, Prod.map, readQuantifier_moved]
      cases bounded.readQuantifier next <;> rfl

/-- A pattern that starts further on is read as from its start. -/
theorem readItems_moved (found : List Piece) (c : Cursor) :
    bounded.readItems found (c.moved k) = movedAnswer k id (bounded.readItems found c) := by
  fun_induction bounded.readItems found c with
  | case1 found c fault h => exact readItems_fault (by rw [readItem_moved, h]; rfl) found
  | case2 found c h => exact readItems_end (by rw [readItem_moved, h]; rfl) found
  | case3 found c piece next h ih =>
    have hmoved : bounded.readItem (c.moved k) = .ok (some (piece, next.moved k)) := by
      rw [readItem_moved, h]
      rfl
    rw [readItems_item hmoved]
    exact ih

end

/-! ### Items in front -/

/-- The pieces of the items before stay in front. -/
theorem readItems_behind (found before : List Piece) (c : Cursor) :
    bounded.readItems (found ++ before) c =
      (bounded.readItems found c).map (before.reverse ++ ·) := by
  fun_induction bounded.readItems found c with
  | case1 found c fault h => exact readItems_fault h _
  | case2 found c h =>
    rw [readItems_end h, List.reverse_append]
    rfl
  | case3 found c piece next h ih =>
    rw [readItems_item h, ← List.append_assoc]
    exact ih

theorem not_sign_append {t v : Text} (ht : ∀ s ∈ t.head?, isQuantifierSign s = false)
    (hv : ∀ s ∈ v.head?, isQuantifierSign s = false) :
    ∀ s ∈ (t ++ v).head?, isQuantifierSign s = false := by
  cases t with
  | nil => exact hv
  | cons c t => exact ht

/-- Items are read up to their end, if what stands behind them cannot go on with the last one. -/
theorem readItems_append {t : Text} {pieces : List Piece} (h : Items t pieces) {v : Text}
    (hv : ∀ s ∈ v.head?, isQuantifierSign s = false) (found : List Piece) (o : Nat) :
    bounded.readItems found ⟨o, t ++ v⟩ =
      bounded.readItems (pieces.reverse ++ found) ⟨o + t.length, v⟩ := by
  induction h generalizing found o with
  | nil => rfl
  | @anchor c t pieces hc _ ih =>
    rw [List.cons_append, readItems_item (readItem_anchor hc o (t ++ v)), Option.toList_none,
      List.nil_append, ih, List.length_cons, Nat.add_right_comm, Nat.add_assoc]
  | @piece a q t atom lower upper pieces ha hq ht ih =>
    have hnext := not_sign_append (not_sign_of_items ht) hv
    rw [List.append_assoc (a ++ q), readItems_item (readItem_piece ha hq hnext o), ih]
    simp [Nat.add_assoc]

/-! ### Patterns -/

/-- Read behind other items, a pattern is read as alone. -/
theorem readItems_eq_parse {v : Text} (hs : v.findIdx? isUnsupported = none) (found : List Piece)
    (k : Nat) :
    bounded.readItems found ⟨k, v⟩ = (movedAnswer k id (parse v)).map (found.reverse ++ ·) := by
  have hmoved : bounded.readItems [] ⟨k, v⟩ = movedAnswer k id (parse v) := by
    rw [parse_of_supported hs, ← readItems_moved]
    rfl
  have hbehind := readItems_behind [] found ⟨k, v⟩
  rwa [List.nil_append, hmoved] at hbehind

/-- A pattern with another text behind it is read as its own pieces, and then the text as it is read
    alone, further on by the length of the pattern. -/
theorem parse_append_eq {u v : Text} {pieces : List Piece} (hu : parse u = .ok pieces)
    (hv : ∀ s ∈ v.head?, isQuantifierSign s = false) :
    parse (u ++ v) = (movedAnswer u.length id (parse v)).map (pieces ++ ·) := by
  obtain ⟨hs, hitems⟩ := parse_eq_ok_iff.1 hu
  have hfirst : (u ++ v).findIdx? isUnsupported =
      (v.findIdx? isUnsupported).map (· + u.length) := by
    rw [List.findIdx?_append, List.findIdx?_eq_none_iff.2 hs, Option.none_or]
  cases hfind : v.findIdx? isUnsupported with
  | some i =>
    rw [hfind] at hfirst
    rw [parse_of_unsupported hfind, parse_of_unsupported hfirst]
    change Except.error (Fault.mk .group (i + u.length)) = .error ⟨.group, u.length + i⟩
    rw [Nat.add_comm]
  | none =>
    rw [hfind] at hfirst
    rw [parse_of_supported hfirst, readItems_append hitems hv, List.append_nil, Nat.zero_add,
      readItems_eq_parse hfind, List.reverse_reverse]

theorem parse_append_ok {u v : Text} {pieces more : List Piece} (hu : parse u = .ok pieces)
    (hv : parse v = .ok more) : parse (u ++ v) = .ok (pieces ++ more) := by
  have hsign := not_sign_of_items (parse_eq_ok_iff.1 hv).2
  rw [parse_append_eq hu hsign, hv]
  rfl

/-- Anchors make no pieces. -/
theorem parse_anchors {t : Text} (ht : ∀ s ∈ t, isAnchor s) : parse t = .ok [] := by
  induction t with
  | nil => exact parse_eq_ok_iff.2 ⟨by simp, .nil⟩
  | cons s t ih =>
    have hs : isAnchor s := ht s (by simp)
    have hone : parse [s] = .ok [] := by
      simp only [isAnchor, Bool.or_eq_true, decide_eq_true_eq] at hs
      rcases hs with rfl | rfl
      · exact parse_eq_ok_iff.2 ⟨by decide, .anchor rfl .nil⟩
      · exact parse_eq_ok_iff.2 ⟨by decide, .anchor rfl .nil⟩
    exact parse_append_ok hone (ih fun r hr => ht r (by simp [hr]))

/-- Reading is a homomorphism: a pattern behind a pattern has the pieces of both in order, with or
    without anchors around and between them. A text behind a pattern that is refused alone is
    refused for the same cause at the same place of it, unless it begins with a sign of a
    quantifier, which would go on with the last piece. -/
theorem parse_append {u : Text} {pieces : List Piece} (hu : parse u = .ok pieces) (v : Text) :
    (∀ more, parse v = .ok more →
      parse (u ++ v) = .ok (pieces ++ more) ∧
        ∀ a b c : Text, (∀ s ∈ a ++ b ++ c, isAnchor s) →
          parse (a ++ u ++ b ++ v ++ c) = .ok (pieces ++ more)) ∧
      ∀ fault, parse v = .error fault → (∀ s ∈ v.head?, isQuantifierSign s = false) →
        parse (u ++ v) = .error ⟨fault.cause, u.length + fault.position⟩ := by
  refine ⟨fun more hv => ⟨parse_append_ok hu hv, fun a b c hanchor => ?_⟩, fun fault hv hsign => ?_⟩
  · have ha := parse_anchors (t := a) fun s hs => hanchor s (by simp [hs])
    have hb := parse_anchors (t := b) fun s hs => hanchor s (by simp [hs])
    have hc := parse_anchors (t := c) fun s hs => hanchor s (by simp [hs])
    have hfirst := parse_append_ok (parse_append_ok ha hu) hb
    have hall := parse_append_ok (parse_append_ok hfirst hv) hc
    simpa using hall
  · rw [parse_append_eq hu hsign, hv]
    rfl

/-- A class that ends with a hyphen, before a text that begins with a hyphen and a bracket, and
    before a text with a range that is refused. -/
theorem parse_append_hyphens :
    parse (Text.lit "[a-]\\d") = .ok [⟨.charClass (Text.lit "a-"), 1, 1⟩, ⟨.digit, 1, 1⟩] ∧
      parse (Text.lit "-]*") = .ok [⟨.literal (cp '-'), 1, 1⟩, ⟨.literal (cp ']'), 0, 16⟩] ∧
      parse (Text.lit "[a-]\\d" ++ Text.lit "-]*") =
        .ok [⟨.charClass (Text.lit "a-"), 1, 1⟩, ⟨.digit, 1, 1⟩, ⟨.literal (cp '-'), 1, 1⟩,
          ⟨.literal (cp ']'), 0, 16⟩] ∧
      parse (Text.lit "^" ++ Text.lit "[a-]\\d" ++ Text.lit "$^" ++ Text.lit "-]*" ++
          Text.lit "$") =
        .ok [⟨.charClass (Text.lit "a-"), 1, 1⟩, ⟨.digit, 1, 1⟩, ⟨.literal (cp '-'), 1, 1⟩,
          ⟨.literal (cp ']'), 0, 16⟩] ∧
      parse (Text.lit "-[z-a]") = .error ⟨.reversedRange (cp 'z') (cp 'a'), 2⟩ ∧
      parse (Text.lit "[a-]\\d" ++ Text.lit "-[z-a]") =
        .error ⟨.reversedRange (cp 'z') (cp 'a'), 8⟩ := by
  have hu : parse (Text.lit "[a-]\\d") =
      .ok [⟨.charClass (Text.lit "a-"), 1, 1⟩, ⟨.digit, 1, 1⟩] := by cbv
  have hv : parse (Text.lit "-]*") =
      .ok [⟨.literal (cp '-'), 1, 1⟩, ⟨.literal (cp ']'), 0, 16⟩] := by cbv
  have hw : parse (Text.lit "-[z-a]") = .error ⟨.reversedRange (cp 'z') (cp 'a'), 2⟩ := by cbv
  obtain ⟨hboth, hanchors⟩ := (parse_append hu (Text.lit "-]*")).1 _ hv
  exact ⟨hu, hv, hboth, hanchors _ _ _ (by decide), hw,
    (parse_append hu (Text.lit "-[z-a]")).2 _ hw (by decide)⟩

end Keyspace.Pattern
