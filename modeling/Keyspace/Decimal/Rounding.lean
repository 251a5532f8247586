/-!
Rounding of rationals to integers, a half going to the even neighbour.
-/

namespace Keyspace.Decimal

/-- The integer nearest to a rational; of two at the same distance, the even one. -/
def roundHalfEven (q : Rat) : Int :=
  let below := q.floor
  let rest := q - below
  if rest < 1 / 2 then below
  else if 1 / 2 < rest then below + 1
  else if below % 2 = 0 then below
  else below + 1

end Keyspace.Decimal
