/-!
Texts as sequences of code points.

A text is a list of code points, each a natural number. It is not a `String`: a character class may
run across U+D800..U+DFFF, so a generated key can hold a surrogate, and no `Char` is one. Lengths
and positions count code points.
-/

namespace Keyspace

/-- A position in the code space; surrogates count, and nothing above U+10FFFF is written. -/
abbrev CodePoint := Nat

/-- A sequence of code points. -/
abbrev Text := List CodePoint

/-- The code point of a character. -/
abbrev cp (c : Char) : CodePoint := c.toNat

namespace Text

/-- The text of a string literal. -/
def lit (s : String) : Text := s.toList.map Char.toNat

/-- The decimal numeral of a natural number, without leading zeros. -/
def ofNat (n : Nat) : Text := (Nat.toDigits 10 n).map Char.toNat

/-- The decimal numeral of an integer, a minus sign before it when it is negative. -/
def ofInt (n : Int) : Text :=
  if n < 0 then cp '-' :: ofNat n.natAbs else ofNat n.natAbs

/-- The most digits that an integer is written with. -/
def maxDigits : Nat := 4300

/-- Whether an integer has no more digits than integers are written with. -/
def isWritable (n : Int) : Bool := (ofNat n.natAbs).length ≤ maxDigits

/-- The texts one after the other, `sep` between each two. -/
def join (sep : Text) (parts : List Text) : Text := sep.intercalate parts

/-- The text `times` times over. -/
def repeated (times : Nat) (t : Text) : Text := (List.replicate times t).flatten

/-- Spaces after the text up to `width` code points; longer texts stay as they are. -/
def padRight (width : Nat) (t : Text) : Text := t.rightpad width (cp ' ')

/-- Spaces before the text up to `width` code points; longer texts stay as they are. -/
def padLeft (width : Nat) (t : Text) : Text := t.leftpad width (cp ' ')

/-- Whether the code point is one of the ten ASCII digits. -/
def isDigit (c : CodePoint) : Bool := cp '0' ≤ c && c ≤ cp '9'

/-- The value of an ASCII digit. -/
def digitValue (c : CodePoint) : Nat := c - cp '0'

/-- The number that a sequence of ASCII digits writes, the empty one writing zero. -/
def decimalValue (digits : Text) : Nat := digits.foldl (fun n d => n * 10 + digitValue d) 0

/-- The ASCII letters in lower case, all else unchanged. -/
def lowerAscii (t : Text) : Text :=
  t.map fun c => if cp 'A' ≤ c && c ≤ cp 'Z' then c + 32 else c

/-- Whether a text comes no later than another: at the first difference the lesser code point comes
first, and a text comes before those that it begins. -/
def precedes : Text → Text → Bool
  | [], _ => true
  | _ :: _, [] => false
  | c :: s, d :: t => c < d || (c == d && precedes s t)

/-- Cuts the text at every occurrence of the code point, which goes away. -/
def splitAt (sep : CodePoint) (t : Text) : List Text :=
  go [] [] t
where
  /-- `part` and `done` hold what was read, last first. -/
  go (part : Text) (done : List Text) : Text → List Text
    | [] => (part.reverse :: done).reverse
    | c :: rest =>
      if c = sep then go [] (part.reverse :: done) rest else go (c :: part) done rest

/-! ### Numerals -/

theorem ofNat_ne_nil (n : Nat) : ofNat n ≠ [] := by
  simp [ofNat]

theorem all_isDigit_ofNat (n : Nat) : (ofNat n).all isDigit := by
  rw [List.all_eq_true]
  intro c hc
  obtain ⟨d, hd, rfl⟩ := List.mem_map.1 hc
  have h := Nat.isDigit_of_mem_toDigits (by decide) (by decide) hd
  simp [Char.isDigit] at h
  simp [isDigit, cp]
  exact h

theorem decimalValue_ofNat (n : Nat) : decimalValue (ofNat n) = n := by
  have h := Nat.ofDigitChars_toDigits (b := 10) (n := n) (by decide) (by decide)
  rw [Nat.ofDigitChars_eq_foldl] at h
  rw [decimalValue, ofNat, List.foldl_map]
  simpa [digitValue, cp, Nat.mul_comm] using h

/-- The least number with more digits than the given number of them. -/
def leastBeyond (digits : Nat) : Nat := Nat.pow 10 digits

theorem leastBeyond_pos (digits : Nat) : 0 < leastBeyond digits := Nat.pow_pos (by decide)

theorem length_ofNat_le_iff {n digits : Nat} (h : 0 < digits) :
    (ofNat n).length ≤ digits ↔ n < leastBeyond digits := by
  rw [ofNat, List.length_map]
  exact Nat.length_toDigits_le_iff (by decide) h

/-- The least number with more digits than integers are written with. -/
def overlong : Nat := leastBeyond maxDigits

theorem overlong_pos : 0 < overlong := leastBeyond_pos _

theorem isWritable_iff {n : Int} : isWritable n ↔ n.natAbs < overlong := by
  rw [isWritable, decide_eq_true_iff]
  exact length_ofNat_le_iff (by decide)

theorem not_isWritable_overlong : ¬ isWritable overlong := by
  rw [isWritable_iff, Int.natAbs_natCast]
  exact Nat.lt_irrefl _

theorem not_isWritable_neg_overlong : ¬ isWritable (-overlong) := by
  rw [isWritable_iff, Int.natAbs_neg, Int.natAbs_natCast]
  exact Nat.lt_irrefl _

end Text

end Keyspace
