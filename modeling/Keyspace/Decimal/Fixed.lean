import Keyspace.Binary64
import Keyspace.Decimal.Rounding
import Keyspace.Text.Basic

/-!
Doubles with a fixed number of decimal places.

The exact value is rounded once, a half going to the even neighbour in the last place. A negative
double keeps its minus sign also where all its places round to zero.
-/

namespace Keyspace.Decimal

/-- The numeral of `units` in units of the last of `places` decimal places. -/
def placed (places units : Nat) : Text :=
  let digits := (Text.ofNat units).leftpad (places + 1) (cp '0')
  let whole := digits.take (digits.length - places)
  if places = 0 then whole else whole ++ cp '.' :: digits.drop (digits.length - places)

/-- The double with `places` decimal places. -/
def fixed (places : Nat) (x : Float) : Text :=
  let body := match Binary64.rational? x with
    | some q => placed places (roundHalfEven (q * (10 : Rat) ^ places)).natAbs
    | none => if x.isNaN then Text.lit "nan" else Text.lit "inf"
  if Binary64.isNegative x then cp '-' :: body else body

end Keyspace.Decimal
