import Mathlib.Data.List.Induction
import Mathlib.Data.Nat.Digits.Defs
import Keyspace.Text.Blank
import Keyspace.Text.Hexadecimal

/-!
Base-16 numerals of either case, and the one lower-case numeral of each number.

A digit of either case stands for the place of its lower-case form among the sixteen digits, and a
sequence of digits for the sum of their places, each sixteen times the one behind it
(`hexValue?_eq_some_iff`). What is read and written again at its own length is the same but for
the case (`hex_of_hexValue?`). So numerals of one length write the same number exactly if they
are the same in lower case.

    "00fF" ──read──▶ 255 ──write──▶ "00ff"
-/

namespace Keyspace.Text

/-- The base-16 digits in the order of what they stand for. -/
def hexAlphabet : Text := lit "0123456789abcdef"

/-- The base-16 digits of either case. -/
def IsHexDigit (c : CodePoint) : Prop := c ∈ lit "0123456789abcdefABCDEF"

instance : DecidablePred IsHexDigit := fun c => inferInstanceAs (Decidable (c ∈ _))

/-- A code point in lower case, if it is an ASCII letter. -/
def lowerCodePoint (c : CodePoint) : CodePoint := if cp 'A' ≤ c && c ≤ cp 'Z' then c + 32 else c

/-- What a base-16 digit stands for. -/
def hexNumber (c : CodePoint) : Nat := hexAlphabet.idxOf (lowerCodePoint c)

/-- What a sequence of base-16 digits stands for, the last digit counting once. -/
def hexNumeral (t : Text) : Nat := Nat.ofDigits 16 (t.map hexNumber).reverse

/-! ### One digit -/

theorem lowerAscii_concat (t : Text) (c : CodePoint) :
    lowerAscii (t ++ [c]) = lowerAscii t ++ [lowerCodePoint c] := by
  rw [lowerAscii, List.map_append]
  rfl

theorem lt_of_isHexDigit {c : CodePoint} (h : IsHexDigit c) : c < 128 :=
  have hall : ∀ c ∈ lit "0123456789abcdefABCDEF", c < 128 := by decide
  hall c h

theorem isBlank_of_isHexDigit {c : CodePoint} (h : IsHexDigit c) : isBlank c = false :=
  have hall : ∀ c ∈ lit "0123456789abcdefABCDEF", isBlank c = false := by decide
  hall c h

theorem hexDigit_hexNumber {c : CodePoint} (h : IsHexDigit c) :
    hexDigit (hexNumber c) = lowerCodePoint c :=
  have hall : ∀ c ∈ lit "0123456789abcdefABCDEF", hexDigit (hexNumber c) = lowerCodePoint c := by
    decide
  hall c h

theorem hexNumber_lt {c : CodePoint} (h : IsHexDigit c) : hexNumber c < 16 :=
  have hall : ∀ c ∈ lit "0123456789abcdefABCDEF", hexNumber c < 16 := by decide
  hall c h

theorem hexDigitValue?_of_lt {c : CodePoint} (h : c < 128) :
    hexDigitValue? c = if IsHexDigit c then some (hexNumber c) else none := by
  revert c
  decide +kernel

theorem hexDigitValue?_of_ge {c : CodePoint} (h : ¬ c < 128) : hexDigitValue? c = none := by
  have above : ∀ a b : CodePoint, b < 128 → ¬ (a ≤ c && c ≤ b) = true := by
    intro a b hb hc
    simp only [Bool.and_eq_true, decide_eq_true_eq] at hc
    exact h (Nat.lt_of_le_of_lt hc.2 hb)
  rw [hexDigitValue?, isDigit, if_neg (above _ _ (by decide)), if_neg (above _ _ (by decide)),
    if_neg (above _ _ (by decide))]

theorem hexDigitValue?_eq_some_iff {c : CodePoint} {d : Nat} :
    hexDigitValue? c = some d ↔ IsHexDigit c ∧ hexNumber c = d := by
  by_cases hc : c < 128
  · rw [hexDigitValue?_of_lt hc]
    split <;> simp_all
  · rw [hexDigitValue?_of_ge hc]
    constructor
    · intro h
      cases h
    · rintro ⟨h, _⟩
      exact absurd (lt_of_isHexDigit h) hc

/-- An ASCII code point is a digit exactly if its lower-case form is. -/
theorem isHexDigit_iff_lowerCodePoint {c : CodePoint} (h : c < 128) :
    IsHexDigit c ↔ lowerCodePoint c ∈ hexAlphabet := by
  revert c
  decide +kernel

theorem lt_of_mem_hexAlphabet {c : CodePoint} (h : c ∈ hexAlphabet) : c < 128 :=
  have hall : ∀ c ∈ hexAlphabet, c < 128 := by decide
  hall c h

theorem lowerCodePoint_of_ge {c : CodePoint} (h : ¬ c < 128) : lowerCodePoint c = c := by
  rw [lowerCodePoint, if_neg]
  simp only [Bool.and_eq_true, decide_eq_true_eq]
  rintro ⟨_, hc⟩
  exact h (Nat.lt_of_le_of_lt hc (by decide))

/-! ### Sequences of digits -/

theorem hexNumeral_concat (t : Text) (c : CodePoint) :
    hexNumeral (t ++ [c]) = hexNumeral t * 16 + hexNumber c := by
  rw [hexNumeral, hexNumeral, List.map_append, List.map_singleton, List.reverse_concat,
    Nat.ofDigits_cons]
  ring

/-- A text is read exactly if it is all digits, and then as what they stand for. -/
theorem hexValue?_eq_some_iff {t : Text} {n : Nat} :
    hexValue? t = some n ↔ (∀ c ∈ t, IsHexDigit c) ∧ hexNumeral t = n := by
  induction t using List.reverseRecOn generalizing n with
  | nil =>
    change some 0 = some n ↔ _ ∧ 0 = n
    simp
  | append_singleton t c ih =>
    rw [hexValue?_concat, Option.bind_eq_some_iff]
    simp only [Option.map_eq_some_iff, ih, hexDigitValue?_eq_some_iff, hexNumeral_concat,
      List.forall_mem_append, List.forall_mem_singleton]
    constructor
    · rintro ⟨_, ⟨ht, rfl⟩, _, ⟨hc, rfl⟩, rfl⟩
      exact ⟨⟨ht, hc⟩, rfl⟩
    · rintro ⟨⟨ht, hc⟩, rfl⟩
      exact ⟨_, ⟨ht, rfl⟩, _, ⟨hc, rfl⟩, rfl⟩

theorem hexNumeral_lt {t : Text} (h : ∀ c ∈ t, IsHexDigit c) : hexNumeral t < 16 ^ t.length := by
  have hlt := Nat.ofDigits_lt_base_pow_length (b := 16) (l := (t.map hexNumber).reverse)
    (by decide) ?_
  · simpa [hexNumeral] using hlt
  · intro d hd
    obtain ⟨c, hc, rfl⟩ := List.mem_map.1 (List.mem_reverse.1 hd)
    exact hexNumber_lt (h c hc)

/-- What is read, written again at its own length, is the text in lower case. -/
theorem hex_hexNumeral {t : Text} (h : ∀ c ∈ t, IsHexDigit c) :
    hex t.length (hexNumeral t) = lowerAscii t := by
  induction t using List.reverseRecOn with
  | nil => rfl
  | append_singleton t c ih =>
    rw [List.forall_mem_append, List.forall_mem_singleton] at h
    obtain ⟨ht, hc⟩ := h
    have hlt := hexNumber_lt hc
    have hfront : (hexNumeral t * 16 + hexNumber c) / 16 = hexNumeral t := by omega
    have hlast : (hexNumeral t * 16 + hexNumber c) % 16 = hexNumber c := by omega
    rw [List.length_append, List.length_singleton, hex, hexNumeral_concat, hfront, hlast, ih ht,
      hexDigit_hexNumber hc, lowerAscii_concat]

/-! ### What is written -/

/-- Nothing but lower-case base-16 digits. -/
def IsHex (t : Text) : Prop := ∀ c ∈ t, ∃ d, d < 16 ∧ c = hexDigit d

theorem isHex_append {s t : Text} (hs : IsHex s) (ht : IsHex t) : IsHex (s ++ t) := by
  intro c hc
  rcases List.mem_append.1 hc with hc | hc
  · exact hs c hc
  · exact ht c hc

theorem isHex_hex (width n : Nat) : IsHex (hex width n) := by
  induction width generalizing n with
  | zero => intro c hc; cases hc
  | succ width ih =>
    refine isHex_append (ih _) ?_
    intro c hc
    rw [List.mem_singleton.1 hc]
    exact ⟨n % 16, Nat.mod_lt _ (by decide), rfl⟩

theorem isHexDigit_hexDigit {d : Nat} (h : d < 16) : IsHexDigit (hexDigit d) := by
  revert d
  decide

theorem IsHex.isHexDigit {t : Text} (h : IsHex t) : ∀ c ∈ t, IsHexDigit c := by
  intro c hc
  obtain ⟨d, hd, rfl⟩ := h c hc
  exact isHexDigit_hexDigit hd

/-- What is in lower case stays as it is. -/
theorem IsHex.lowerAscii_eq {t : Text} (h : IsHex t) : lowerAscii t = t := by
  have hall : ∀ d < 16, lowerCodePoint (hexDigit d) = hexDigit d := by decide
  refine (List.map_congr_left fun c hc => ?_).trans (List.map_id t)
  obtain ⟨d, hd, rfl⟩ := h c hc
  exact hall d hd

end Keyspace.Text
