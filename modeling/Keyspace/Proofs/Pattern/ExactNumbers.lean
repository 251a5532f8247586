import Keyspace.Operation
import Keyspace.Proofs.Pattern.Printing

/-!
Numbers of any length are read as if they were exact.

The parser keeps a number only up to the limit's digits and takes every longer one for the number
above the limit. A parser that keeps them all reads other numbers, but only over the limit
(`SameInLimit`), where both refuse the bounds; they may differ in which bound they find wrong, and
so in the message, but not in the kind of error or its place (`SameAnswer`). This holds of any two
ways to take digits that agree within the limit: of quantifiers, and so of items and of whole
patterns (`readQuantifier_agrees`, `readItem_agrees`, `parse_agrees`).

    between braces     kept to six digits     exact                  both
    0100000            100000                 100000                 accept
    999999,1000000     100001 < 999999        100000 < 1000000       refuse at the brace
-/

namespace Keyspace.Pattern

open NumberReader

/-- The reader that takes numbers as they are. -/
def NumberReader.exact : NumberReader := ⟨Text.decimalValue⟩

/-! ### Numbers within the limit -/

/-- The numbers are the same, unless both are over the limit. -/
def SameInLimit (m n : Nat) : Prop := m = n ∨ maxRepeat < m ∧ maxRepeat < n

theorem SameInLimit.add {m n : Nat} (h : SameInLimit m n) (k : Nat) :
    SameInLimit (m + k) (n + k) := by
  unfold SameInLimit at h ⊢
  omega

/-- Bounds that are the same within the limit are accepted together, and then they are the same. -/
theorem SameInLimit.accepted_iff {l l' u u' : Nat} (hl : SameInLimit l l')
    (hu : SameInLimit u u') :
    (l ≤ u ∧ u ≤ maxRepeat ↔ l' ≤ u' ∧ u' ≤ maxRepeat) ∧
      (l ≤ u ∧ u ≤ maxRepeat → l = l' ∧ u = u') := by
  unfold SameInLimit at hl hu
  omega

/-- Two readers take the same digits for numbers that are the same within the limit. -/
def NumberReader.Agree (reader reader' : NumberReader) : Prop :=
  ∀ t, t.all Text.isDigit → SameInLimit (reader.value t) (reader'.value t)

theorem NumberReader.bounded_agree_exact : bounded.Agree exact :=
  fun _ ht => boundedValue_eq_or_gt ht

section

variable {reader reader' : NumberReader} (h : reader.Agree reader')

include h

theorem readNumber_cases (c : Cursor) :
    (∃ next, reader.readNumber c = (none, next) ∧ reader'.readNumber c = (none, next)) ∨
      ∃ m n next, reader.readNumber c = (some m, next) ∧ reader'.readNumber c = (some n, next) ∧
        SameInLimit m n := by
  simp only [readNumber]
  split
  · exact Or.inl ⟨_, rfl, rfl⟩
  · exact Or.inr ⟨_, _, _, rfl, rfl, h _ List.all_takeWhile⟩

theorem readBounds_cases (c : Cursor) :
    (reader.readBounds c = none ∧ reader'.readBounds c = none) ∨
      ∃ l l' u u' next, reader.readBounds c = some (l, u, next) ∧
        reader'.readBounds c = some (l', u', next) ∧ SameInLimit l l' ∧ SameInLimit u u' := by
  rcases readNumber_cases h c with ⟨next, hr, hr'⟩ | ⟨l, l', next, hr, hr', hl⟩
  · rw [readBounds, readBounds, hr, hr']
    exact Or.inl ⟨rfl, rfl⟩
  rw [readBounds, readBounds, hr, hr']
  dsimp only
  split
  · rcases readNumber_cases h (next.advance 1) with ⟨last, hr, hr'⟩ | ⟨u, u', last, hr, hr', hu⟩
    · rw [hr, hr']
      exact Or.inr ⟨l, l', _, _, last, rfl, rfl, hl, hl.add openSpan⟩
    · rw [hr, hr']
      exact Or.inr ⟨l, l', u, u', last, rfl, rfl, hl, hu⟩
  · exact Or.inr ⟨l, l', l, l', next, rfl, rfl, hl, hl⟩

end

/-! ### Answers -/

/-- The same result, or errors of the same kind at the same place. -/
inductive SameAnswer {α : Type} : Except Fault α → Except Fault α → Prop where
  | ok (a : α) : SameAnswer (.ok a) (.ok a)
  | error {f g : Fault} :
    f.cause.kind = g.cause.kind → f.position = g.position → SameAnswer (.error f) (.error g)

theorem SameAnswer.refl {α : Type} (r : Except Fault α) : SameAnswer r r := by
  cases r with
  | ok a => exact .ok a
  | error f => exact .error rfl rfl

theorem SameAnswer.ok_iff {α : Type} {r r' : Except Fault α} (h : SameAnswer r r') (a : α) :
    r = .ok a ↔ r' = .ok a := by
  cases h with
  | ok b => exact Iff.rfl
  | error _ _ => exact ⟨nofun, nofun⟩

theorem SameAnswer.exists_error {α : Type} {r r' : Except Fault α} (h : SameAnswer r r')
    {f : Fault} (hr : r = .error f) :
    ∃ g, r' = .error g ∧ f.cause.kind = g.cause.kind ∧ f.position = g.position := by
  cases h with
  | ok a => cases hr
  | error hkind hpos =>
    cases hr
    exact ⟨_, rfl, hkind, hpos⟩

/-- What is said about bounds between braces that open at `o`; the cursor stands behind them. -/
def judged (o lower upper : Nat) (next : Cursor) : Except Fault (Nat × Nat × Cursor) :=
  if upper < lower then .error ⟨.reversedBounds lower upper, o⟩
  else if maxRepeat < upper then .error ⟨.tooManyRepeats, o⟩
  else .ok (lower, upper, next)

theorem judged_error {lower upper : Nat} (h : ¬ (lower ≤ upper ∧ upper ≤ maxRepeat)) (o : Nat)
    (next : Cursor) :
    ∃ f, judged o lower upper next = .error f ∧ f.cause.kind = .invalidQuantifier ∧
      f.position = o := by
  unfold judged
  split
  · exact ⟨_, rfl, rfl, rfl⟩
  split
  · exact ⟨_, rfl, rfl, rfl⟩
  · omega

/-- Bounds that are the same within the limit are judged alike. -/
theorem judged_agrees {l l' u u' : Nat} (hl : SameInLimit l l') (hu : SameInLimit u u') (o : Nat)
    (next : Cursor) : SameAnswer (judged o l u next) (judged o l' u' next) := by
  obtain ⟨hiff, heq⟩ := hl.accepted_iff hu
  by_cases h : l ≤ u ∧ u ≤ maxRepeat
  · obtain ⟨rfl, rfl⟩ := heq h
    exact .refl _
  · obtain ⟨f, hf, hkind, hpos⟩ := judged_error h o next
    obtain ⟨g, hg, hkind', hpos'⟩ := judged_error (mt hiff.2 h) o next
    rw [hf, hg]
    exact .error (hkind.trans hkind'.symm) (hpos.trans hpos'.symm)

/-! ### Quantifiers, items and patterns -/

section

variable {reader reader' : NumberReader} (h : reader.Agree reader')

include h

/-- Quantifiers are read alike. -/
theorem readQuantifier_agrees (c : Cursor) :
    SameAnswer (reader.readQuantifier c) (reader'.readQuantifier c) := by
  obtain ⟨o, s⟩ := c
  cases s with
  | nil => exact .refl _
  | cons sign s =>
  simp only [readQuantifier]
  split
  · exact .refl _
  split
  · exact .refl _
  split
  · exact .refl _
  split
  · rcases readBounds_cases h (Cursor.advance ⟨o, sign :: s⟩ 1) with ⟨hr, hr'⟩ |
      ⟨l, l', u, u', next, hr, hr', hl, hu⟩
    · rw [hr, hr']
      exact .refl _
    rw [hr, hr']
    dsimp only
    split
    · exact .refl _
    · exact judged_agrees hl hu o (next.advance 1)
  · exact .refl _

theorem readItem_agrees (c : Cursor) : SameAnswer (reader.readItem c) (reader'.readItem c) := by
  obtain ⟨o, s⟩ := c
  cases s with
  | nil => exact .refl _
  | cons first s =>
  simp only [readItem]
  split
  · exact .refl _
  rcases readAtom o first s with f | ⟨atom, next⟩
  · exact .refl _
  have hagrees := readQuantifier_agrees h next
  dsimp only
  generalize reader.readQuantifier next = answer, reader'.readQuantifier next = answer' at hagrees
  cases hagrees with
  | ok a => exact .refl _
  | error hkind hpos => exact .error hkind hpos

/-- Item by item both find the same pieces, up to the end or to a fault of both. -/
theorem readItems_agrees (found : List Piece) (c : Cursor) :
    SameAnswer (reader.readItems found c) (reader'.readItems found c) := by
  fun_induction reader.readItems found c with
  | case1 found c f hitem =>
    obtain ⟨g, hitem', hkind, hpos⟩ := (readItem_agrees h c).exists_error hitem
    rw [readItems_fault hitem']
    exact .error hkind hpos
  | case2 found c hitem =>
    rw [readItems_end (((readItem_agrees h c).ok_iff none).1 hitem)]
    exact .refl _
  | case3 found c piece next hitem ih =>
    rw [readItems_item (((readItem_agrees h c).ok_iff _).1 hitem)]
    exact ih

/-- Readers that take the same numbers within the limit answer every pattern alike. -/
theorem parse_agrees (p : Text) : SameAnswer (reader.parse p) (reader'.parse p) := by
  unfold NumberReader.parse
  cases p.findIdx? isUnsupported with
  | some i => exact .refl _
  | none => exact readItems_agrees h [] ⟨0, p⟩

end

/-! ### An atom and numbers in braces -/

theorem supported_of_braced {q : Text} {lower upper : Nat} (h : Braced q lower upper) :
    ∀ c ∈ cp '{' :: q ++ [cp '}'], isUnsupported c = false := by
  have hdigits {t : Text} (ht : t.all Text.isDigit) : ∀ c ∈ t, isUnsupported c = false :=
    fun c hc => isUnsupported_of_isDigit (List.all_eq_true.1 ht c hc)
  have hsigns : isUnsupported (cp '{') = false ∧ isUnsupported (cp '}') = false ∧
      isUnsupported (cp ',') = false := by decide
  cases h with
  | exactly _ ht => simpa [or_imp, forall_and, hsigns] using hdigits ht
  | atLeast _ ht => simpa [or_imp, forall_and, hsigns] using hdigits ht
  | between _ ht _ hu =>
    simpa [or_imp, forall_and, hsigns] using And.intro (hdigits ht) (hdigits hu)

theorem supported_atom_braces {a q : Text} {lower upper : Nat}
    (hs : ∀ c ∈ a, isUnsupported c = false) (hq : Braced q lower upper) :
    ∀ c ∈ a ++ (cp '{' :: q ++ [cp '}']), isUnsupported c = false := by
  intro c hc
  rcases List.mem_append.1 hc with hc | hc
  · exact hs c hc
  · exact supported_of_braced hq c hc

theorem parse_braces_ok {a q : Text} {atom : Atom} {lower upper : Nat} (ha : Writes a atom)
    (hs : ∀ c ∈ a, isUnsupported c = false) (hq : Braced q lower upper)
    (h : lower ≤ upper ∧ upper ≤ maxRepeat) :
    parse (a ++ (cp '{' :: q ++ [cp '}'])) = .ok [⟨atom, lower, upper⟩] := by
  have hitems := Items.piece ha (quantifies_of_braced hq h.1 h.2) .nil
  rw [List.append_nil] at hitems
  exact parse_eq_ok_iff.2 ⟨supported_atom_braces hs hq, hitems⟩

/-- Bounds that are refused are refused behind the atom, where the brace stands. -/
theorem parse_braces_error {a q : Text} {atom : Atom} {lower upper : Nat} (ha : Writes a atom)
    (hs : ∀ c ∈ a, isUnsupported c = false) (hq : Braced q lower upper)
    (h : ¬ (lower ≤ upper ∧ upper ≤ maxRepeat)) :
    ∃ f, parse (a ++ (cp '{' :: q ++ [cp '}'])) = .error f ∧
      f.cause.kind = .invalidQuantifier ∧ f.position = a.length := by
  obtain ⟨c, b, rfl, hc, _⟩ := exists_cons_of_writes ha
  have hatom := readAtom_of_writes ha 0 (cp '{' :: q ++ [cp '}'])
  rw [Nat.zero_add] at hatom
  obtain ⟨f, hf, hkind, hpos⟩ :=
    judged_error h (c :: b).length ⟨(c :: b).length + 1 + q.length + 1, []⟩
  have hquant : bounded.readQuantifier ⟨(c :: b).length, cp '{' :: q ++ [cp '}']⟩ = .error f := by
    rw [List.cons_append, readQuantifier_brace, readBounds_of_braced hq]
    exact hf
  have hitem : bounded.readItem ⟨0, c :: (b ++ (cp '{' :: q ++ [cp '}']))⟩ = .error f := by
    simp only [readItem, hc, hatom, hquant]
    rfl
  have hsupported := List.findIdx?_eq_none_iff.2 (supported_atom_braces hs hq)
  refine ⟨f, ?_, hkind, hpos⟩
  rw [parse_of_supported hsupported]
  exact readItems_fault hitem []

/-- The bounds that numbers between braces have behind an atom: in order and not over the limit
    they are the bounds of the one piece, and else the quantifier is refused at its brace. -/
structure HasBounds (a : Text) (atom : Atom) (numbers : Text) (lower upper : Nat) : Prop where
  accepted : lower ≤ upper ∧ upper ≤ maxRepeat →
    (Operation.compile (a ++ (cp '{' :: numbers ++ [cp '}']))).result =
      .ok [⟨atom, lower, upper⟩]
  refused : ¬ (lower ≤ upper ∧ upper ≤ maxRepeat) →
    ∃ f, (Operation.compile (a ++ (cp '{' :: numbers ++ [cp '}']))).result =
        .error (.pattern f) ∧
      f.cause.kind = .invalidQuantifier ∧ f.position = a.length

/-- Bounds that the reader takes for the true ones within the limit count as the true ones. -/
theorem hasBounds_of_braced {a q : Text} {atom : Atom} {l l' u u' : Nat} (ha : Writes a atom)
    (hs : ∀ c ∈ a, isUnsupported c = false) (hq : Braced q l u) (hl : SameInLimit l l')
    (hu : SameInLimit u u') : HasBounds a atom q l' u' := by
  obtain ⟨hiff, heq⟩ := hl.accepted_iff hu
  constructor
  · intro h
    obtain ⟨rfl, rfl⟩ := heq (hiff.2 h)
    rw [Operation.compile_result, parse_braces_ok ha hs hq h]
    rfl
  · intro h
    obtain ⟨f, hf, hkind, hpos⟩ := parse_braces_error ha hs hq (mt hiff.1 h)
    rw [Operation.compile_result, hf]
    exact ⟨f, rfl, hkind, hpos⟩

/-- Numbers of quantifiers are unbounded. Behind any atom, numerals of any length in braces have the
    bounds that they write; and a reader of exact numbers in the parser's place answers any pattern
    the same, up to the wording of an error. -/
theorem quantifier_numbers_exact :
    (∀ {a : Text} {atom : Atom} {t u : Text} {n m : Nat}, Writes a atom →
      (∀ c ∈ a, isUnsupported c = false) → Numeral t n → Numeral u m →
        HasBounds a atom t n n ∧ HasBounds a atom (t ++ [cp ',']) n (n + openSpan) ∧
          HasBounds a atom (t ++ cp ',' :: u) n m) ∧
      ∀ p, parse p = bounded.parse p ∧ SameAnswer (parse p) (exact.parse p) := by
  constructor
  · rintro a atom t u n m ha hs ⟨hne, ht, rfl⟩ ⟨hne', hu, rfl⟩
    have hn : SameInLimit (boundedValue t) (Text.decimalValue t) := boundedValue_eq_or_gt ht
    have hm : SameInLimit (boundedValue u) (Text.decimalValue u) := boundedValue_eq_or_gt hu
    exact ⟨hasBounds_of_braced ha hs (.exactly hne ht) hn hn,
      hasBounds_of_braced ha hs (.atLeast hne ht) hn (hn.add openSpan),
      hasBounds_of_braced ha hs (.between hne ht hne' hu) hn hm⟩
  · exact fun p => ⟨rfl, parse_agrees bounded_agree_exact p⟩

/-- Zeros in front count for nothing; of two bounds over the limit, the reader finds the order wrong
    and the exact numbers only their size. -/
theorem quantifier_numbers_exact_zeros :
    (Operation.compile (Text.lit "[a-c]{000100000}")).result =
        .ok [⟨.charClass (Text.lit "abc"), 100000, 100000⟩] ∧
      (∃ f, (Operation.compile (Text.lit "[a-c]{000100000,}")).result =
          .error (.pattern f) ∧
        f.cause.kind = .invalidQuantifier ∧ f.position = 5) ∧
      (∃ f, (Operation.compile (Text.lit "[a-c]{000100000,1000000}")).result =
          .error (.pattern f) ∧
        f.cause.kind = .invalidQuantifier ∧ f.position = 5) ∧
      parse (Text.lit "x{999999,1000000}") =
        .error ⟨.reversedBounds 999999 100001, 1⟩ ∧
      exact.parse (Text.lit "x{999999,1000000}") = .error ⟨.tooManyRepeats, 1⟩ := by
  have ha : Writes (Text.lit "[a-c]") (.charClass (Text.lit "abc")) :=
    .charClass (t := Text.lit "a-c") (by decide) (by decide)
      (.range (by decide) (by decide) (by decide) (by decide) .nil)
  have ht : Numeral (Text.lit "000100000") 100000 := ⟨by decide, by decide, by decide⟩
  have hu : Numeral (Text.lit "1000000") 1000000 := ⟨by decide, by decide, by decide⟩
  obtain ⟨hexactly, hopen, hboth⟩ := quantifier_numbers_exact.1 ha (by decide) ht hu
  exact ⟨hexactly.accepted (by decide), hopen.refused (by decide), hboth.refused (by decide),
    by cbv, by cbv⟩

end Keyspace.Pattern
