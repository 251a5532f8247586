/-!
Doubles as exact rationals.

A finite double stands for one rational number (`rational?`), an infinity for a bound past every
rational, and not-a-number for nothing. Floors, comparisons with integers and conversions go through
that rational, so none of them rounds unless it says so. `ofInt` and `quotient` round once, to the
nearest double with ties to the even significand; `ofInt?` and `quotient?` answer `none` where that
overflows, which is decided on the integers.
-/

namespace Keyspace.Binary64

open Float.Model

/-- The rational that a finite double stands for; both zeros stand for zero. -/
def rational? (x : Float) : Option Rat :=
  match x.toModel.unpack with
  | .zero _ => some 0
  | .finite .positive m e _ => some ((m : Rat) * (2 : Rat) ^ e)
  | .finite .negative m e _ => some (-((m : Rat) * (2 : Rat) ^ e))
  | .infinity _ => none
  | .notANumber => none

/-- Whether the sign bit is set; not-a-number has none. -/
def isNegative (x : Float) : Bool :=
  match x.toModel.unpack with
  | .zero .negative | .infinity .negative | .finite .negative .. => true
  | _ => false

/-- The greatest integer not above a finite double. -/
def floor? (x : Float) : Option Int := (rational? x).map Rat.floor

/-- Whether the integer is greater than the double, without rounding either. Every integer is
greater than minus infinity, none is greater than infinity or not-a-number. -/
def exceeds (n : Int) (x : Float) : Bool :=
  match rational? x with
  | some q => q < (n : Rat)
  | none => x.isInf && isNegative x

/-- An integer as an unrounded double. -/
def unpackInt (n : Int) : UnpackedFloat :=
  if h : 0 < n.natAbs then
    .finite (if n < 0 then .negative else .positive) n.natAbs 0 h
  else
    .zero .positive

/-- The double nearest to an integer; infinity from `overflowFrom` on. -/
def ofInt (n : Int) : Float := .ofModel (.ofInt n)

/-- The double nearest to the quotient of two integers, the second of them not zero; infinity from
`overflowFrom` on. A zero quotient has the sign of its operands' quotient. -/
def quotient (a b : Int) : Float :=
  .ofModel (.pack (UnpackedFloat.div Format.binary64 (unpackInt a) (unpackInt b)))

/-- The least number that rounds to infinity: half a unit above the greatest finite double, which is
`2 ^ 1024 - 2 ^ 971`. -/
def overflowFrom : Nat := Nat.pow 2 1024 - Nat.pow 2 970

/-- The double nearest to an integer, if it is finite. -/
def ofInt? (n : Int) : Option Float := if n.natAbs < overflowFrom then some (ofInt n) else none

/-- The double nearest to the quotient of two integers, if there is a quotient and the double is
finite. -/
def quotient? (a b : Int) : Option Float :=
  if a.natAbs < overflowFrom * b.natAbs then some (quotient a b) else none

end Keyspace.Binary64
