import Keyspace.Text.Basic

/-!
Hexadecimal numerals of a fixed width, and the reading of them.

`hex width n` writes the last `width` base-16 digits of `n` in lower case, zeros in front;
`hexValue?` reads digits of either case. Reading undoes writing for every number below
`16 ^ width` (`hexValue?_hex`).
-/

namespace Keyspace.Text

/-- The lower-case digit for a value below sixteen. -/
def hexDigit (d : Nat) : CodePoint := if d < 10 then cp '0' + d else cp 'a' + (d - 10)

/-- The last `width` base-16 digits of a number. -/
def hex : Nat → Nat → Text
  | 0, _ => []
  | width + 1, n => hex width (n / 16) ++ [hexDigit (n % 16)]

/-- The value of a base-16 digit of either case. -/
def hexDigitValue? (c : CodePoint) : Option Nat :=
  if isDigit c then some (c - cp '0')
  else if cp 'a' ≤ c && c ≤ cp 'f' then some (c - cp 'a' + 10)
  else if cp 'A' ≤ c && c ≤ cp 'F' then some (c - cp 'A' + 10)
  else none

/-- The number that a sequence of base-16 digits writes; `none` if another code point is in it. -/
def hexValue? (t : Text) : Option Nat :=
  t.foldlM (fun n c => (hexDigitValue? c).map (n * 16 + ·)) 0

theorem length_hex (width n : Nat) : (hex width n).length = width := by
  induction width generalizing n with
  | zero => rfl
  | succ width ih => simp [hex, ih]

theorem hexDigitValue?_hexDigit {d : Nat} (h : d < 16) : hexDigitValue? (hexDigit d) = some d := by
  revert d
  decide

theorem hexValue?_concat (t : Text) (c : CodePoint) :
    hexValue? (t ++ [c]) =
      (hexValue? t).bind fun n => (hexDigitValue? c).map (n * 16 + ·) := by
  simp [hexValue?, List.foldlM_append]

theorem hexValue?_hex {width n : Nat} (h : n < Nat.pow 16 width) :
    hexValue? (hex width n) = some n := by
  induction width generalizing n with
  | zero => simp_all [hex, hexValue?]
  | succ width ih =>
    have hq : n / 16 < Nat.pow 16 width := by
      rw [Nat.div_lt_iff_lt_mul (by decide)]; exact h
    rw [hex, hexValue?_concat, ih hq, hexDigitValue?_hexDigit (Nat.mod_lt _ (by decide))]
    simp only [Option.bind_some, Option.map_some]
    congr 1
    omega

end Keyspace.Text
