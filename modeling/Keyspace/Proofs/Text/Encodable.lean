import Mathlib.Data.List.Basic
import Keyspace.Decimal.Shortest
import Keyspace.Text.Quoted
import Keyspace.Text.Utf8

/-!
Which texts have a UTF-8 form.

A text has one if each of its code points has, so what is put together from such texts has one too.
Literals are made of characters, and numerals of ASCII. Between quotes every code point is shown
that prints, and no surrogate prints: a quoted text has a UTF-8 form whatever was quoted, as long as
it was made of code points (`encodable_quoted`).
-/

namespace Keyspace.Text

/-- The text is made of code points. -/
def InCodeSpace (t : Text) : Prop := ∀ c ∈ t, c < 0x110000

@[simp] theorem encodable_nil : encodable [] = true := rfl

@[simp] theorem encodable_cons (c : CodePoint) (t : Text) :
    encodable (c :: t) = (isScalar c && encodable t) := rfl

@[simp] theorem encodable_append (s t : Text) :
    encodable (s ++ t) = (encodable s && encodable t) :=
  List.all_append

theorem encodable_of_forall {t : Text} (h : ∀ c ∈ t, isScalar c) : encodable t :=
  List.all_eq_true.2 h

theorem isScalar_of_mem {t : Text} (h : encodable t) {c : CodePoint} (hc : c ∈ t) : isScalar c :=
  List.all_eq_true.1 h c hc

/-- What is taken from an encodable text is encodable. -/
theorem encodable_of_subset {s t : Text} (h : s ⊆ t) (ht : encodable t) : encodable s :=
  encodable_of_forall fun _ hc => isScalar_of_mem ht (h hc)

theorem isScalar_iff {c : Nat} :
    isScalar c ↔ c < 0xD800 ∨ 0xE000 ≤ c ∧ c < 0x110000 := by
  simp [isScalar]

theorem isScalar_of_lt {c : CodePoint} (h : c < 0xD800) : isScalar c :=
  isScalar_iff.2 (Or.inl h)

theorem isScalar_toNat (c : Char) : isScalar c.toNat := by
  rcases c.valid with h | ⟨h, h'⟩
  · exact isScalar_of_lt h
  · exact isScalar_iff.2 (Or.inr ⟨h, h'⟩)

@[simp] theorem isScalar_cp (c : Char) : isScalar (cp c) = true := isScalar_toNat c

theorem lt_of_isScalar {c : Nat} (h : isScalar c) : c < 0x110000 := by
  rw [isScalar_iff] at h
  omega

/-- Whatever has a UTF-8 form is made of code points. -/
theorem inCodeSpace_of_encodable {t : Text} (h : encodable t) : InCodeSpace t :=
  fun _ hc => lt_of_isScalar (isScalar_of_mem h hc)

/-! ### Literals and numerals -/

theorem encodable_map_toNat (cs : List Char) : encodable (cs.map Char.toNat) := by
  refine encodable_of_forall fun c hc => ?_
  obtain ⟨d, _, rfl⟩ := List.mem_map.1 hc
  exact isScalar_toNat d

@[simp] theorem encodable_lit (s : String) : encodable (lit s) = true := encodable_map_toNat _

@[simp] theorem encodable_ofNat (n : Nat) : encodable (ofNat n) = true := encodable_map_toNat _

@[simp] theorem encodable_ofInt (n : Int) : encodable (ofInt n) = true := by
  unfold ofInt
  split <;> simp

@[simp] theorem encodable_replicate (n : Nat) (c : CodePoint) (h : isScalar c) :
    encodable (List.replicate n c) = true := by
  refine encodable_of_forall fun d hd => ?_
  rw [List.eq_of_mem_replicate hd]
  exact h

theorem encodable_leftpad {t : Text} (h : encodable t) (n : Nat) {c : CodePoint}
    (hc : isScalar c) : encodable (t.leftpad n c) := by
  rw [List.leftpad, encodable_append, encodable_replicate _ _ hc, h]
  rfl

theorem encodable_rightpad {t : Text} (h : encodable t) (n : Nat) {c : CodePoint}
    (hc : isScalar c) : encodable (t.rightpad n c) := by
  rw [List.rightpad, encodable_append, encodable_replicate _ _ hc, h]
  rfl

theorem encodable_join {sep : Text} (hs : encodable sep) {parts : List Text}
    (h : ∀ t ∈ parts, encodable t) : encodable (join sep parts) := by
  unfold join
  induction parts with
  | nil => rfl
  | cons t parts ih =>
    have ht := h t (by simp)
    cases parts with
    | nil => simpa [List.intercalate] using ht
    | cons u parts =>
      have hrest := ih fun t ht => h t (by simp [ht])
      rw [List.intercalate_cons_cons, encodable_append, encodable_append, ht, hs, hrest]
      rfl

theorem isScalar_hexDigit {d : Nat} (h : d < 16) : isScalar (hexDigit d) := by
  revert d
  decide

theorem encodable_hex (width n : Nat) : encodable (hex width n) := by
  induction width generalizing n with
  | zero => rfl
  | succ width ih =>
    rw [hex, encodable_append, ih, encodable_cons, isScalar_hexDigit (Nat.mod_lt _ (by decide))]
    rfl

/-! ### Quoted texts -/

/-- A code point that prints has a UTF-8 form. -/
theorem isScalar_of_isPrintable {c : Nat} (hc : c < 0x110000) (h : isPrintable c) :
    isScalar c := by
  have hmem : (0xD7FC, 0xF8FF) ∈ unprintableRanges.toList := by decide +kernel
  rw [isScalar_iff]
  by_contra hsurrogate
  have hany : unprintableRanges.any (fun r => r.1 ≤ c && c ≤ r.2) = true := by
    rw [Array.any_eq_true']
    have hin : 0xD7FC ≤ c ∧ c ≤ 0xF8FF := by omega
    exact ⟨_, Array.mem_toList_iff.1 hmem, by simpa using hin⟩
  rw [isPrintable, hany] at h
  cases h

theorem encodable_numbered (c : CodePoint) : encodable (numbered c) := by
  unfold numbered
  split_ifs <;> rw [encodable_append, encodable_lit, encodable_hex] <;> rfl

theorem encodable_escaped {quote c : CodePoint} (hq : isScalar quote) (hc : c < 0x110000) :
    encodable (escaped quote c) := by
  unfold escaped
  split_ifs with hsign _ _ _ hprints
  · have hc' : c = quote ∨ c = cp '\\' := by simpa using hsign
    rcases hc' with rfl | rfl
    · simp [hq]
    · rfl
  · exact encodable_lit _
  · exact encodable_lit _
  · exact encodable_lit _
  · rw [encodable_cons, isScalar_of_isPrintable hc hprints]
    rfl
  · exact encodable_numbered c

theorem isScalar_quoteFor (t : Text) : isScalar (quoteFor t) := by
  unfold quoteFor
  split_ifs <;> rfl

/-- A quoted text has a UTF-8 form. -/
theorem encodable_quoted {t : Text} (h : InCodeSpace t) : encodable (quoted t) := by
  have hflat : encodable (t.flatMap (escaped (quoteFor t))) := by
    refine encodable_of_forall fun c hc => ?_
    obtain ⟨d, hd, hcd⟩ := List.mem_flatMap.1 hc
    exact isScalar_of_mem (encodable_escaped (isScalar_quoteFor t) (h d hd)) hcd
  simp [quoted, hflat, isScalar_quoteFor t]

end Keyspace.Text

namespace Keyspace.Decimal

open Text

/-! ### Reals -/

theorem encodable_exponentPart (layout : Layout) (e : Int) : encodable (layout.exponentPart e) := by
  have hpad : encodable ((ofNat e.natAbs).leftpad layout.exponentDigits (cp '0')) :=
    encodable_leftpad (encodable_ofNat _) _ rfl
  unfold Layout.exponentPart
  rw [encodable_append, hpad]
  split_ifs <;> rfl

theorem encodable_significant (d : Digits) : encodable d.significant := by
  refine encodable_of_subset ?_ (encodable_ofNat d.coefficient)
  intro c hc
  have hc' := (List.dropWhile_sublist _).subset (List.mem_reverse.1 hc)
  exact List.mem_reverse.1 hc'

theorem encodable_render (layout : Layout) (d : Digits) : encodable (layout.render d) := by
  have hdigits := encodable_significant d
  have hpart := encodable_exponentPart layout (d.exponent + (ofNat d.coefficient).length - 1)
  unfold Layout.render
  dsimp only
  generalize d.exponent + ((ofNat d.coefficient).length : Int) - 1 = e at hpart ⊢
  split
  · split
    · simp [hdigits]
    · have htake := encodable_of_subset (List.take_subset (e.natAbs + 1) _) hdigits
      have hdrop := encodable_of_subset (List.drop_subset (e.natAbs + 1) _) hdigits
      have hwhole := encodable_rightpad htake (e.natAbs + 1) (isScalar_cp '0')
      rw [encodable_append, encodable_cons, hwhole, isScalar_cp]
      split
      · simp
      · exact hdrop
  · split
    · rfl
    · next first heq =>
      rw [heq] at hdigits
      simp_all
    · next first rest _ heq =>
      rw [heq] at hdigits
      simp_all

/-- Whatever the layout, a real is written in a text that has a UTF-8 form. -/
theorem encodable_text (layout : Layout) (x : Float) : encodable (layout.text x) := by
  unfold Layout.text
  dsimp only
  split <;> try split
  all_goals simp [encodable_render]

end Keyspace.Decimal
