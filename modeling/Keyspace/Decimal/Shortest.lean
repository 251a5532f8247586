import Keyspace.Binary64
import Keyspace.Text.Basic

/-!
The shortest decimal that reads back as a double.

A positive double stands for every rational that rounds to it: an interval around its value whose
ends belong to it exactly when its significand is even. For one digit, two digits and so on, the two
decimals next to the value with that many significant digits are tried; the first count with a hit
wins, and of two hits the nearer one, the even one if both are as near.
-/

namespace Keyspace.Decimal

/-- The number `coefficient * 10 ^ exponent`. -/
structure Digits where
  coefficient : Nat
  exponent : Int
  deriving DecidableEq

/-- The number that the digits write. -/
def Digits.value (d : Digits) : Rat := (d.coefficient : Rat) * (10 : Rat) ^ d.exponent

/-- The `k` with `10 ^ (k - 1) ≤ q < 10 ^ k`, for a positive rational. Below one it is read off the
digits of the reciprocal. -/
def magnitude (q : Rat) : Int :=
  let n := q.num.natAbs
  if q.den ≤ n then (Nat.toDigits 10 (n / q.den)).length
  else 1 - ((Nat.toDigits 10 ((q.den - 1) / n)).length : Int)

/-- The rationals that round to a double: from `low` to `high`, with both ends or without. -/
structure Basin where
  low : Rat
  value : Rat
  high : Rat
  closed : Bool

/-- The basin of the double `m * 2 ^ e`. Below a power of two the doubles are twice as dense, unless
`e` is the least exponent. -/
def Basin.ofUnpacked (m : Nat) (e : Int) : Basin :=
  let unit : Rat := (2 : Rat) ^ e
  let below : Rat := if m = Nat.pow 2 52 && -1074 < e then 1 / 4 else 1 / 2
  ⟨(m - below) * unit, m * unit, (m + 1 / 2) * unit, m % 2 = 0⟩

/-- Whether the rational rounds to the double of the basin. -/
def Basin.holds (b : Basin) (q : Rat) : Bool :=
  if b.closed then b.low ≤ q && q ≤ b.high else b.low < q && q < b.high

/-- The decimal with `count` significant digits that rounds to the double of the basin and is
nearest to it, if there is one. -/
def Basin.nearest? (b : Basin) (count : Nat) : Option Digits :=
  let exponent := magnitude b.value - count
  let units := (b.value / (10 : Rat) ^ exponent).floor.toNat
  let lower : Digits := ⟨units, exponent⟩
  let upper : Digits := ⟨units + 1, exponent⟩
  match b.holds lower.value, b.holds upper.value with
  | true, true =>
    let down := b.value - lower.value
    let up := upper.value - b.value
    if down < up || (down = up && units % 2 = 0) then some lower else some upper
  | true, false => some lower
  | false, true => some upper
  | false, false => none

/-- The fewest digits that read back; seventeen always do. -/
def Basin.shortest (b : Basin) : Digits :=
  ((List.range' 1 17).findSome? b.nearest?).getD ⟨0, 0⟩

/-- How digits are laid out: which decimal exponents are written without an exponent part, and the
least number of digits in an exponent part. -/
structure Layout where
  positionalFrom : Int
  positionalBelow : Int
  exponentDigits : Nat

/-- The digits without the zeros at their end. -/
def Digits.significant (d : Digits) : Text :=
  ((Text.ofNat d.coefficient).reverse.dropWhile (· == cp '0')).reverse

/-- An exponent part: the letter, the sign and the digits. -/
def Layout.exponentPart (layout : Layout) (e : Int) : Text :=
  [cp 'e', if e < 0 then cp '-' else cp '+'] ++
    (Text.ofNat e.natAbs).leftpad layout.exponentDigits (cp '0')

/-- Positive digits in a layout. A positional numeral has at least one digit on either side of its
point; a numeral with an exponent part has a point only between digits. -/
def Layout.render (layout : Layout) (d : Digits) : Text :=
  let digits := d.significant
  let e := d.exponent + (Text.ofNat d.coefficient).length - 1
  if layout.positionalFrom ≤ e && e < layout.positionalBelow then
    if e < 0 then
      Text.lit "0." ++ List.replicate (e.natAbs - 1) (cp '0') ++ digits
    else
      let whole := (digits.take (e.natAbs + 1)).rightpad (e.natAbs + 1) (cp '0')
      let fraction := digits.drop (e.natAbs + 1)
      whole ++ cp '.' :: (if fraction.isEmpty then [cp '0'] else fraction)
  else
    match digits with
    | [] => []
    | first :: [] => first :: layout.exponentPart e
    | first :: rest => first :: cp '.' :: rest ++ layout.exponentPart e

/-- The shortest text of a double in a layout. -/
def Layout.text (layout : Layout) (x : Float) : Text :=
  let signed (body : Text) : Text := if Binary64.isNegative x then cp '-' :: body else body
  match x.toModel.unpack with
  | .notANumber => Text.lit "nan"
  | .infinity _ => signed (Text.lit "inf")
  | .zero _ => signed (Text.lit "0.0")
  | .finite _ m e _ => signed (layout.render (Basin.ofUnpacked m e).shortest)

end Keyspace.Decimal
