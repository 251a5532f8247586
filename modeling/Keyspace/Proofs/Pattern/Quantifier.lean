import Mathlib.Tactic.Ring
import Keyspace.Pattern.Grammar

/-!
Quantifiers are read as they are written.

The reader takes numbers of more digits than the limit has for one number over the limit. That loses
nothing: `boundedValue` is the number that the digits write, or both are over the limit
(`boundedValue_eq_or_gt`), and bounds over the limit are refused. What stands between the braces is
first split into its numbers (`Braced`), as the reader takes them; only then are the bounds
compared.

    readNumber ──▶ readBounds ──▶ readQuantifier
    digits         Braced         Quantifies
-/

namespace Keyspace

namespace Text

/-! ### Decimal numerals -/

theorem foldl_digitValue (n : Nat) (t : Text) :
    t.foldl (fun n d => n * 10 + digitValue d) n = n * 10 ^ t.length + decimalValue t := by
  induction t generalizing n with
  | nil => simp [decimalValue]
  | cons c t ih =>
    rw [decimalValue, List.foldl_cons, List.foldl_cons, ih, ih (0 * 10 + digitValue c),
      List.length_cons, pow_succ]
    ring

/-- The first digit counts as many tens as there are digits behind it. -/
theorem decimalValue_cons (c : CodePoint) (t : Text) :
    decimalValue (c :: t) = digitValue c * 10 ^ t.length + decimalValue t := by
  rw [decimalValue, List.foldl_cons, foldl_digitValue, Nat.zero_mul, Nat.zero_add]

theorem decimalValue_dropWhile_zero (t : Text) :
    decimalValue (t.dropWhile (· == cp '0')) = decimalValue t := by
  induction t with
  | nil => rfl
  | cons c t ih =>
    rw [List.dropWhile_cons]
    split
    · next hc =>
      rw [ih, decimalValue_cons, eq_of_beq hc]
      simp [digitValue]
    · rfl

/-- A numeral without a zero in front is at least the power of ten of its length. -/
theorem pow_le_decimalValue {c : CodePoint} (hd : isDigit c) (hc : c ≠ cp '0') (t : Text) :
    10 ^ t.length ≤ decimalValue (c :: t) := by
  have hpos : 1 ≤ digitValue c := by
    have hge : cp '0' ≤ c := by
      rw [isDigit, Bool.and_eq_true] at hd
      exact of_decide_eq_true hd.1
    exact Nat.sub_pos_of_lt (Nat.lt_of_le_of_ne hge (Ne.symm hc))
  rw [decimalValue_cons]
  calc 10 ^ t.length = 1 * 10 ^ t.length := (Nat.one_mul _).symm
    _ ≤ digitValue c * 10 ^ t.length := Nat.mul_le_mul_right _ hpos
    _ ≤ digitValue c * 10 ^ t.length + decimalValue t := Nat.le_add_right _ _

end Text

namespace Pattern

open NumberReader

/-- The number that is read is the number that the digits write, unless both are over the limit. -/
theorem boundedValue_eq_or_gt {t : Text} (ht : t.all Text.isDigit) :
    boundedValue t = Text.decimalValue t ∨
      (maxRepeat < boundedValue t ∧ maxRepeat < Text.decimalValue t) := by
  rw [← Text.decimalValue_dropWhile_zero t]
  simp only [boundedValue]
  split
  · next hlong =>
    refine Or.inr ⟨Nat.lt_succ_self _, ?_⟩
    cases hs : t.dropWhile (· == cp '0') with
    | nil => simp [hs] at hlong
    | cons c r =>
      have hc : c ≠ cp '0' := by
        have := List.head?_dropWhile_not (· == cp '0') t
        rw [hs] at this
        simpa using this
      have hd : Text.isDigit c := by
        have hmem : c ∈ t := (List.dropWhile_sublist _).subset (hs ▸ List.mem_cons_self)
        exact List.all_eq_true.1 ht c hmem
      have hlen : 6 ≤ r.length := by
        rw [hs, List.length_cons] at hlong
        exact Nat.le_of_lt_succ hlong
      calc maxRepeat < 10 ^ 6 := by decide
        _ ≤ 10 ^ r.length := Nat.pow_le_pow_right (by decide) hlen
        _ ≤ Text.decimalValue (c :: r) := Text.pow_le_decimalValue hd hc r
  · exact Or.inl rfl

theorem boundedValue_of_le {t : Text} (ht : t.all Text.isDigit)
    (hle : Text.decimalValue t ≤ maxRepeat) : boundedValue t = Text.decimalValue t := by
  rcases boundedValue_eq_or_gt ht with h | ⟨_, h⟩
  · exact h
  · omega

theorem numeral_of_boundedValue_le {t : Text} (hne : t ≠ []) (ht : t.all Text.isDigit)
    (hle : boundedValue t ≤ maxRepeat) : Numeral t (boundedValue t) := by
  rcases boundedValue_eq_or_gt ht with h | ⟨h, _⟩
  · exact ⟨hne, ht, h.symm⟩
  · omega

/-! ### Numbers between braces -/

/-- What stands between the braces of a quantifier, and the bounds that are read from it. -/
inductive Braced : Text → Nat → Nat → Prop where
  | exactly {t : Text} :
    t ≠ [] → t.all Text.isDigit → Braced t (boundedValue t) (boundedValue t)
  | atLeast {t : Text} :
    t ≠ [] → t.all Text.isDigit →
    Braced (t ++ [cp ',']) (boundedValue t) (boundedValue t + openSpan)
  | between {t u : Text} :
    t ≠ [] → t.all Text.isDigit → u ≠ [] → u.all Text.isDigit →
    Braced (t ++ cp ',' :: u) (boundedValue t) (boundedValue u)

/-- The text does not go on with a digit. -/
def NoDigit (t : Text) : Prop := ∀ d ∈ t.head?, Text.isDigit d = false

theorem noDigit_comma (t : Text) : NoDigit (cp ',' :: t) := by
  rintro d ⟨⟩
  decide

theorem noDigit_brace (t : Text) : NoDigit (cp '}' :: t) := by
  rintro d ⟨⟩
  decide

/-- Every text is digits and a text that does not go on with one. -/
theorem exists_digits_append (s : Text) :
    ∃ t rest, s = t ++ rest ∧ t.all Text.isDigit ∧ NoDigit rest := by
  refine ⟨s.takeWhile Text.isDigit, s.dropWhile Text.isDigit,
    List.takeWhile_append_dropWhile.symm, List.all_takeWhile, ?_⟩
  intro d hd
  have := List.head?_dropWhile_not Text.isDigit s
  rw [hd] at this
  simpa using this

/-- Digits are read up to the first code point that is none. -/
theorem readNumber_append {t rest : Text} (ht : t.all Text.isDigit) (hr : NoDigit rest) (o : Nat) :
    bounded.readNumber ⟨o, t ++ rest⟩ =
      (if t.isEmpty then none else some (boundedValue t), ⟨o + t.length, rest⟩) := by
  have hstop : rest.takeWhile Text.isDigit = [] := by
    cases rest with
    | nil => rfl
    | cons d r => rw [List.takeWhile_cons, hr d rfl]; rfl
  have htake : (t ++ rest).takeWhile Text.isDigit = t := by
    rw [List.takeWhile_append_of_pos (List.all_eq_true.1 ht), hstop, List.append_nil]
  simp only [readNumber, bounded, htake, Cursor.advance, List.drop_left]

/-- Without a digit there are no bounds. -/
theorem readBounds_noDigit {rest : Text} (hr : NoDigit rest) (o : Nat) :
    bounded.readBounds ⟨o, rest⟩ = none := by
  have h := readNumber_append (t := []) rfl hr o
  rw [List.nil_append] at h
  rw [readBounds, h]
  rfl

/-- A number without a comma behind it is both bounds. -/
theorem readBounds_exactly {t rest : Text} (hne : t ≠ []) (ht : t.all Text.isDigit)
    (hr : NoDigit rest) (hc : rest.head? ≠ some (cp ',')) (o : Nat) :
    bounded.readBounds ⟨o, t ++ rest⟩ =
      some (boundedValue t, boundedValue t, ⟨o + t.length, rest⟩) := by
  rw [readBounds, readNumber_append ht hr]
  simp [hne, hc]

/-- Behind a comma stands the upper bound; without a number the piece is open. -/
theorem readBounds_comma {t u rest : Text} (hne : t ≠ []) (ht : t.all Text.isDigit)
    (hu : u.all Text.isDigit) (hr : NoDigit rest) (o : Nat) :
    bounded.readBounds ⟨o, t ++ cp ',' :: (u ++ rest)⟩ =
      some (boundedValue t, if u.isEmpty then boundedValue t + openSpan else boundedValue u,
        ⟨o + (t ++ cp ',' :: u).length, rest⟩) := by
  have hlen : o + t.length + 1 + u.length = o + (t ++ cp ',' :: u).length := by
    simp only [List.length_append, List.length_cons]
    omega
  have hupper := readNumber_append hu hr (o + t.length + 1)
  rw [hlen] at hupper
  rw [readBounds, readNumber_append ht (noDigit_comma _)]
  simp only [List.isEmpty_eq_false_iff.2 hne, List.head?_cons, Cursor.advance, List.drop_succ_cons,
    List.drop_zero, hupper, if_true, Bool.false_eq_true, if_false]
  split <;> rfl

/-- What stands between braces is read up to the closing one. -/
theorem readBounds_of_braced {q : Text} {lower upper : Nat} (h : Braced q lower upper)
    (o : Nat) (rest : Text) :
    bounded.readBounds ⟨o, q ++ cp '}' :: rest⟩ =
      some (lower, upper, ⟨o + q.length, cp '}' :: rest⟩) := by
  have hstop := noDigit_brace rest
  cases h with
  | exactly hne ht => exact readBounds_exactly hne ht hstop nofun o
  | @atLeast t hne ht =>
    rw [List.append_assoc]
    exact readBounds_comma (u := []) hne ht rfl hstop o
  | @between t u hne ht hne' hu =>
    have h := readBounds_comma hne ht hu hstop o
    rw [List.isEmpty_eq_false_iff.2 hne'] at h
    rw [List.append_assoc]
    exact h

/-- Bounds are read from what stands between braces. -/
theorem braced_of_readBounds {c next : Cursor} {lower upper : Nat}
    (h : bounded.readBounds c = some (lower, upper, next)) :
    ∃ q, Braced q lower upper ∧ c.rest = q ++ next.rest ∧ next.offset = c.offset + q.length := by
  obtain ⟨o, s⟩ := c
  obtain ⟨t, rest, rfl, ht, hr⟩ := exists_digits_append s
  by_cases hne : t = []
  · subst hne
    rw [List.nil_append, readBounds_noDigit hr] at h
    cases h
  by_cases hc : rest.head? = some (cp ',')
  · obtain ⟨rest', rfl⟩ := List.head?_eq_some_iff.1 hc
    obtain ⟨u, rest, rfl, hu, hr⟩ := exists_digits_append rest'
    rw [readBounds_comma hne ht hu hr] at h
    cases h
    refine ⟨t ++ cp ',' :: u, ?_, by simp, rfl⟩
    cases u with
    | nil => exact .atLeast hne ht
    | cons d u => exact .between hne ht (by simp) hu
  · rw [readBounds_exactly hne ht hr hc] at h
    cases h
    exact ⟨t, .exactly hne ht, rfl, rfl⟩

/-! ### Quantifiers -/

/-- Bounds between braces, in order and not over the limit, make a quantifier. -/
theorem quantifies_of_braced {q : Text} {lower upper : Nat} (h : Braced q lower upper)
    (hle : lower ≤ upper) (hmax : upper ≤ maxRepeat) :
    Quantifies (cp '{' :: q ++ [cp '}']) lower upper := by
  cases h with
  | exactly hne ht => exact .exactly (numeral_of_boundedValue_le hne ht hmax) hmax
  | atLeast hne ht =>
    have := Quantifies.atLeast (numeral_of_boundedValue_le hne ht (by omega)) hmax
    simpa using this
  | between hne ht hne' hu =>
    have := Quantifies.between (numeral_of_boundedValue_le hne ht (by omega))
      (numeral_of_boundedValue_le hne' hu hmax) hle hmax
    simpa using this

theorem braced_exactly {t : Text} {n : Nat} (h : Numeral t n) (hn : n ≤ maxRepeat) :
    Braced t n n := by
  obtain ⟨hne, ht, rfl⟩ := h
  rw [← boundedValue_of_le ht hn]
  exact .exactly hne ht

theorem braced_atLeast {t : Text} {n : Nat} (h : Numeral t n) (hn : n ≤ maxRepeat) :
    Braced (t ++ [cp ',']) n (n + openSpan) := by
  obtain ⟨hne, ht, rfl⟩ := h
  rw [← boundedValue_of_le ht hn]
  exact .atLeast hne ht

theorem braced_between {t u : Text} {lower upper : Nat} (h : Numeral t lower)
    (h' : Numeral u upper) (hl : lower ≤ maxRepeat) (hu : upper ≤ maxRepeat) :
    Braced (t ++ cp ',' :: u) lower upper := by
  obtain ⟨hne, ht, rfl⟩ := h
  obtain ⟨hne', ht', rfl⟩ := h'
  rw [← boundedValue_of_le ht hl, ← boundedValue_of_le ht' hu]
  exact .between hne ht hne' ht'

/-- Behind an opening brace stand bounds and a closing one, and then the bounds are compared. -/
theorem readQuantifier_brace (o : Nat) (s : Text) :
    bounded.readQuantifier ⟨o, cp '{' :: s⟩ =
      match bounded.readBounds ⟨o + 1, s⟩ with
      | none => .error ⟨.missingNumber, o⟩
      | some (lower, upper, next) =>
        if next.rest.head? ≠ some (cp '}') then .error ⟨.missingBrace, next.offset⟩
        else if upper < lower then .error ⟨.reversedBounds lower upper, o⟩
        else if maxRepeat < upper then .error ⟨.tooManyRepeats, o⟩
        else .ok (lower, upper, next.advance 1) :=
  rfl

/-- Bounds in braces are read as a quantifier if they are in order and not over the limit. -/
theorem readQuantifier_braces {q : Text} {lower upper : Nat} (h : Braced q lower upper)
    (hle : lower ≤ upper) (hmax : upper ≤ maxRepeat) (o : Nat) (rest : Text) :
    bounded.readQuantifier ⟨o, cp '{' :: q ++ cp '}' :: rest⟩ =
      .ok (lower, upper, ⟨o + q.length + 2, rest⟩) := by
  rw [List.cons_append, readQuantifier_brace, readBounds_of_braced h]
  simp only [List.head?_cons, Cursor.advance, List.drop_succ_cons, List.drop_zero]
  rw [if_neg (not_not.2 rfl), if_neg (by omega), if_neg (by omega),
    show o + 1 + q.length + 1 = o + q.length + 2 by omega]

theorem quantifies_of_readQuantifier_brace {o lower upper : Nat} {s : Text} {next : Cursor}
    (h : bounded.readQuantifier ⟨o, cp '{' :: s⟩ = .ok (lower, upper, next)) :
    ∃ q, Quantifies q lower upper ∧ cp '{' :: s = q ++ next.rest ∧
      next.offset = o + q.length := by
  rw [readQuantifier_brace] at h
  cases hb : bounded.readBounds ⟨o + 1, s⟩ with
  | none => rw [hb] at h; cases h
  | some r =>
    obtain ⟨lower, upper, close⟩ := r
    obtain ⟨q, hq, hrest, hoffset⟩ := braced_of_readBounds hb
    rw [hb] at h
    simp only at h hrest hoffset
    split at h
    · cases h
    next hclose =>
    obtain ⟨rest, hr⟩ := List.head?_eq_some_iff.1 (not_not.1 hclose)
    split at h
    · cases h
    next hle =>
    split at h
    · cases h
    next hmax =>
    cases h
    refine ⟨cp '{' :: q ++ [cp '}'], quantifies_of_braced hq (by omega) (by omega), ?_, ?_⟩
    · simp [Cursor.advance, hrest, hr]
    · simp only [Cursor.advance, List.length_append, List.length_cons, List.length_nil]
      omega

/-- A quantifier is read as what it stands for, if the text behind it does not begin with a sign of
    another one. -/
theorem readQuantifier_of_quantifies {q : Text} {lower upper : Nat} (h : Quantifies q lower upper)
    {rest : Text} (hr : ∀ s ∈ rest.head?, isQuantifierSign s = false) (o : Nat) :
    bounded.readQuantifier ⟨o, q ++ rest⟩ = .ok (lower, upper, ⟨o + q.length, rest⟩) := by
  cases h with
  | none =>
    cases rest with
    | nil => rfl
    | cons s r =>
      have := hr s rfl
      simp [isQuantifierSign] at this
      simp [readQuantifier, this]
  | optional => rfl
  | some => rfl
  | any => rfl
  | exactly hn hmax =>
    have := readQuantifier_braces (braced_exactly hn hmax) (le_refl _) hmax o rest
    simpa [Nat.add_assoc] using this
  | atLeast hn hmax =>
    have := readQuantifier_braces (braced_atLeast hn (by omega)) (by omega) hmax o rest
    simpa [Nat.add_assoc] using this
  | between hl hu hle hmax =>
    have := readQuantifier_braces (braced_between hl hu (by omega) hmax) hle hmax o rest
    simpa [Nat.add_assoc] using this

/-- What is read as a quantifier is one. -/
theorem quantifies_of_readQuantifier {c next : Cursor} {lower upper : Nat}
    (h : bounded.readQuantifier c = .ok (lower, upper, next)) :
    ∃ q, Quantifies q lower upper ∧ c.rest = q ++ next.rest ∧
      next.offset = c.offset + q.length := by
  obtain ⟨o, s⟩ := c
  cases s with
  | nil => cases h; exact ⟨[], .none, rfl, rfl⟩
  | cons sign rest =>
    by_cases hb : sign = cp '{'
    · subst hb
      exact quantifies_of_readQuantifier_brace h
    · simp only [readQuantifier, if_neg hb] at h
      split at h
      · next hs => subst hs; cases h; exact ⟨[cp '?'], .optional, rfl, rfl⟩
      split at h
      · next hs => subst hs; cases h; exact ⟨[cp '+'], .some, rfl, rfl⟩
      split at h
      · next hs => subst hs; cases h; exact ⟨[cp '*'], .any, rfl, rfl⟩
      · cases h; exact ⟨[], .none, rfl, rfl⟩

end Pattern

end Keyspace
