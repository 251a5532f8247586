import Keyspace.Proofs.Pattern.Sound

/-!
What is written is read back, and only writable pieces are.

The printer takes no risks: each member of a class and each literal stands behind a backslash, and
every piece has both bounds in braces. So each part of what it writes is that part of the grammar,
whatever stands beside it, and the reader accepts the grammar (`parse_eq_ok_iff`).

    pieces     ']' from 2 to 5       one of 'a', '-', 'a', at most once
    text       \]  {2,5}             [\a\-\a]  {0,1}
    grammar    Writes  Quantifies    Writes  Quantifies

The other way round, the reader makes sound pieces only (`sound_of_parse`), and a code point that no
pattern may hold is in what is written exactly if some atom offers it (`supported_render`).
-/

namespace Keyspace.Pattern

/-! ### Each part as the grammar has it -/

theorem numeral_ofNat (n : Nat) : Numeral (Text.ofNat n) n :=
  ⟨Text.ofNat_ne_nil n, Text.all_isDigit_ofNat n, Text.decimalValue_ofNat n⟩

theorem quantifies_boundsText {lower upper : Nat} (hle : lower ≤ upper) (hmax : upper ≤ maxRepeat) :
    Quantifies (boundsText lower upper) lower upper :=
  .between (numeral_ofNat lower) (numeral_ofNat upper) hle hmax

theorem escapeAtom_of_not_classLetter {c : CodePoint} (h : isClassLetter c = false) :
    escapeAtom c = .literal c := by
  simp only [isClassLetter, Bool.or_eq_false_iff, decide_eq_false_iff_not] at h
  obtain ⟨⟨hd, hw⟩, hs⟩ := h
  rw [escapeAtom, if_neg hd, if_neg hw, if_neg hs]

/-- A letter that a backslash would make a class stands for itself without one. -/
theorem writes_classLetter {c : CodePoint} (h : isClassLetter c) : Writes [c] (.literal c) := by
  simp only [isClassLetter, Bool.or_eq_true, decide_eq_true_eq] at h
  rcases h with (rfl | rfl) | rfl <;> exact .literal (by decide) (by decide) rfl rfl

theorem members_escaped (candidates : Text) :
    Members (candidates.flatMap fun c => [cp '\\', c]) candidates := by
  induction candidates with
  | nil => exact .nil
  | cons c candidates ih => exact .escaped ih

theorem writes_text {a : Atom} (h : a.alphabet ≠ []) : Writes a.text a := by
  cases a with
  | literal c =>
    cases hc : isClassLetter c with
    | false =>
      rw [Atom.text, hc, ← escapeAtom_of_not_classLetter hc]
      exact .escape
    | true =>
      rw [Atom.text, hc]
      exact writes_classLetter hc
  | charClass candidates =>
    cases candidates with
    | nil => exact absurd rfl h
    | cons c candidates =>
      refine .charClass (List.cons_ne_nil _ _) ?_ (members_escaped (c :: candidates))
      intro hhead
      exact absurd (Option.some.inj hhead) (by decide)
  | digit => exact .escape
  | word => exact .escape
  | space => exact .escape

theorem items_render {pieces : List Piece} (h : ∀ p ∈ pieces, p.Sound) :
    Items (render pieces) pieces := by
  induction pieces with
  | nil => exact .nil
  | cons p pieces ih =>
    have hp : p.Sound := h p (by simp)
    exact .piece (writes_text hp.alphabet_ne_nil) (quantifies_boundsText hp.lower_le hp.upper_le)
      (ih fun q hq => h q (by simp [hq]))

/-! ### The code points of what is written -/

theorem isUnsupported_of_isDigit {c : CodePoint} (h : Text.isDigit c) :
    isUnsupported c = false := by
  cases hc : isUnsupported c with
  | false => rfl
  | true =>
    simp only [isUnsupported, Bool.or_eq_true, decide_eq_true_eq] at hc
    rcases hc with (rfl | rfl) | rfl <;> exact absurd h (by decide)

theorem supported_boundsText (lower upper : Nat) :
    ∀ c ∈ boundsText lower upper, isUnsupported c = false := by
  have hnumeral (n : Nat) : ∀ c ∈ Text.ofNat n, isUnsupported c = false := fun c hc =>
    isUnsupported_of_isDigit (List.all_eq_true.1 (Text.all_isDigit_ofNat n) c hc)
  intro c hc
  simp only [boundsText, List.mem_append, List.mem_cons, List.not_mem_nil, or_false] at hc
  rcases hc with ((rfl | hc) | (rfl | hc)) | rfl
  · rfl
  · exact hnumeral lower c hc
  · rfl
  · exact hnumeral upper c hc
  · rfl

/-- The signs around what an atom offers are supported. -/
theorem supported_text (a : Atom) :
    (∀ c ∈ a.text, isUnsupported c = false) ↔ ∀ c ∈ a.alphabet, isUnsupported c = false := by
  have hsigns : isUnsupported (cp '\\') = false ∧ isUnsupported (cp '[') = false ∧
      isUnsupported (cp ']') = false := by decide
  cases a with
  | literal c =>
    rw [Atom.text]
    split <;> simp [Atom.alphabet, hsigns]
  | charClass candidates =>
    simp only [Atom.text, Atom.alphabet, List.mem_append, List.mem_cons, List.mem_flatMap,
      List.not_mem_nil, or_false]
    constructor
    · intro h c hc
      exact h c (.inl (.inr ⟨c, hc, .inr rfl⟩))
    · rintro h c ((rfl | ⟨d, hd, rfl | rfl⟩) | rfl)
      · exact hsigns.2.1
      · exact hsigns.1
      · exact h c hd
      · exact hsigns.2.2
  | digit => decide
  | word => decide
  | space => decide

theorem supported_render (pieces : List Piece) :
    (∀ c ∈ render pieces, isUnsupported c = false) ↔
      ∀ p ∈ pieces, ∀ c ∈ p.atom.alphabet, isUnsupported c = false := by
  simp only [← supported_text]
  constructor
  · intro h p hp c hc
    exact h c (List.mem_flatMap.2 ⟨p, hp, List.mem_append_left _ hc⟩)
  · intro h c hc
    obtain ⟨p, hp, hc⟩ := List.mem_flatMap.1 hc
    rcases List.mem_append.1 hc with hc | hc
    · exact h p hp c hc
    · exact supported_boundsText p.lower p.upper c hc

/-! ### Written and read back -/

/-- What pieces are written as is read as these pieces, exactly if all of them are writable: bounds
    in order and not over the limit, something to draw, and no code point that a pattern may not
    hold. -/
theorem parse_render_iff (pieces : List Piece) :
    parse (render pieces) = .ok pieces ↔ ∀ p ∈ pieces, p.Writable := by
  constructor
  · intro h p hp
    have hs := (supported_render pieces).1 (parse_eq_ok_iff.1 h).1
    exact ⟨sound_of_parse h p hp, hs p hp⟩
  · intro h
    have hs := (supported_render pieces).2 fun p hp => (h p hp).supported
    exact parse_eq_ok_iff.2 ⟨hs, items_render fun p hp => (h p hp).toSound⟩

example : render [⟨.literal (cp ']'), 2, 5⟩, ⟨.charClass (Text.lit "a-a"), 0, 1⟩] =
    Text.lit "\\]\x7b2,5\x7d[\\a\\-\\a]\x7b0,1\x7d" := by
  rfl

end Keyspace.Pattern
