import Keyspace.Decimal.Shortest
import Keyspace.Text.Quoted

/-!
Untyped values, as callers offer them for a count, a digest, a hash key or a factor.

What is wanted is checked where the value is used; a value that is refused is shown in the message
by `render`, or by the name of its kind. A value that holds an integer with too many digits cannot
be shown.

Numbers that come from outside are read from texts with no more digits than that, so they are kept
with the proof that they can be shown.
-/

namespace Keyspace

/-- A value of any kind. -/
inductive Value where
  | int (n : Int)
  | real (x : Float)
  | bool (b : Bool)
  | text (t : Text)
  | list (items : List Value)
  | absent
  deriving Inhabited

namespace Value

/-- The greatest integer not above a number. Truth values are no numbers, and an infinity has no
floor. -/
def floor? : Value → Option Int
  | .int n => some n
  | .real x => Binary64.floor? x
  | _ => none

/-- Reals are shown without an exponent from 0.0001 up to, but without, 10 ^ 16; an exponent has a
sign and at least two digits. -/
def realLayout : Decimal.Layout := ⟨-4, 16, 2⟩

mutual

/-- The value as a message shows it. -/
def render : Value → Text
  | .int n => Text.ofInt n
  | .real x => realLayout.text x
  | .bool true => Text.lit "True"
  | .bool false => Text.lit "False"
  | .text t => Text.quoted t
  | .list items => cp '[' :: Text.join (Text.lit ", ") (renderAll items) ++ [cp ']']
  | .absent => Text.lit "None"

/-- Each of the values as a message shows it. -/
def renderAll : List Value → List Text
  | [] => []
  | v :: rest => render v :: renderAll rest

end

mutual

/-- Whether the value can be shown. -/
def isWritable : Value → Bool
  | .int n => Text.isWritable n
  | .list items => allWritable items
  | .real _ | .bool _ | .text _ | .absent => true

/-- Whether all the values can be shown. -/
def allWritable : List Value → Bool
  | [] => true
  | v :: rest => isWritable v && allWritable rest

end

/-- The value as plain output shows it, if it can be shown: a text stands without quotes. -/
def display? : Value → Option Text
  | .text t => some t
  | v => if v.isWritable then some v.render else none

/-- The name of the value's kind. -/
def kindName : Value → Text
  | .int _ => Text.lit "int"
  | .real _ => Text.lit "float"
  | .bool _ => Text.lit "bool"
  | .text _ => Text.lit "str"
  | .list _ => Text.lit "list"
  | .absent => Text.lit "NoneType"

end Value

/-- An integer that can be shown. -/
structure Figure where
  toInt : Int
  isWritable : Text.isWritable toInt

instance : Coe Figure Int := ⟨Figure.toInt⟩

/-- The integer, if it can be shown. -/
def Figure.ofInt? (n : Int) : Option Figure :=
  if h : Text.isWritable n then some ⟨n, h⟩ else none

/-- An integer or a real, as requests name it. -/
inductive Number where
  | int (n : Figure)
  | real (x : Float)

namespace Number

/-- The number among the values of any kind. -/
def value : Number → Value
  | .int n => .int n
  | .real x => .real x

theorem isWritable_value (x : Number) : x.value.isWritable := by
  cases x with
  | int n =>
    rw [value, Value.isWritable]
    exact n.isWritable
  | real x => rw [value, Value.isWritable]

end Number

end Keyspace
