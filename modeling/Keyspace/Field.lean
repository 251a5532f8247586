import Keyspace.Json.Basic
import Keyspace.Decimal.Reading
import Keyspace.Value

/-!
Typed readings of loosely typed fields.

A field of a request or of a configuration may come as a value of its type or as a text that writes
one. Integers are also taken from truth values and from reals without a fraction. A field that
cannot be read is a fault, which holds the value that stands in the way.
-/

namespace Keyspace.Field

/-- A truth value as a number. -/
def bit (b : Bool) : Int := if b then 1 else 0

/-- The words for a truth value, in letters of either case. -/
def flagWord? (t : Text) : Option Bool :=
  let words (ws : List String) : Bool := ws.any fun w => Text.lit w = Text.lowerAscii t
  if words ["1", "t", "true", "y", "yes", "on"] then some true
  else if words ["0", "f", "false", "n", "no", "off"] then some false
  else none

/-- An integer. Of the reals only those within a machine word of 64 bits, without its ends, are
taken for one. -/
def int? : Json → Option Int
  | .int n => some n
  | .bool b => some (bit b)
  | .real x =>
    match Binary64.rational? x with
    | some q => if q.den = 1 && q.num.natAbs < 0x8000000000000000 then some q.num else none
    | none => none
  | .text t => Decimal.looseInt? t
  | _ => none

/-- A real. -/
def real? : Json → Option Float
  | .real x => some x
  | .int n => Binary64.ofInt? n
  | .bool b => some (if b then 1.0 else 0.0)
  | .text t => Decimal.looseReal? t
  | _ => none

/-- A truth value. -/
def flag? : Json → Option Bool
  | .bool b => some b
  | .int 0 => some false
  | .int 1 => some true
  | .real x => if x == 0.0 then some false else if x == 1.0 then some true else none
  | .text t => flagWord? t
  | _ => none

/-- A text; nothing else is made into one. -/
def text? : Json → Option Text
  | .text t => some t
  | _ => none

/-- An integer that can be shown. No longer one is read from a text. -/
def figure? (j : Json) : Option Figure := (int? j).bind Figure.ofInt?

/-- An integer or a real, told apart as they are written. -/
def number? : Json → Option Number
  | .int n => (Figure.ofInt? n).map .int
  | .real x => some (.real x)
  | .bool b => (Figure.ofInt? (bit b)).map .int
  | .text t =>
    match Decimal.looseInt? t with
    | some n => (Figure.ofInt? n).map .int
    | none => (Decimal.looseReal? t).map .real
  | _ => none

/-- A reading of a field: the value, or those that stand in its way. -/
abbrev Reading (α : Type) := Json → Except (List Json) α

/-- A reading of a value as a whole. -/
def whole {α : Type} (read? : Json → Option α) : Reading α := fun j =>
  match read? j with
  | some a => .ok a
  | none => .error [j]

/-- An integer, read as a whole. -/
def figure : Reading Figure := whole figure?

/-- A real, read as a whole. -/
def real : Reading Float := whole real?

/-- A truth value, read as a whole. -/
def flag : Reading Bool := whole flag?

/-- A text, read as a whole. -/
def text : Reading Text := whole text?

/-- An integer or a real, read as a whole. -/
def number : Reading Number := whole number?

/-- A list of texts; the items that are no texts stand in its way. -/
def texts : Reading (List Text)
  | .array items =>
    let others := items.filter fun item => (text? item).isNone
    if others.isEmpty then .ok (items.filterMap text?) else .error others
  | j => .error [j]

/-- A reading that also takes null, for nothing. -/
def optional {α : Type} (read : Reading α) : Reading (Option α)
  | .null => .ok none
  | j => (read j).map some

/-- A field that cannot be read, and a value that stands in the way. -/
structure Fault where
  name : Text
  given : Json

/-- A field of an object: what is read, the default if the field is not there, and the faults. -/
def read {α : Type} (members : List (Text × Json)) (name : Text) (read : Reading α)
    (default : α) : α × List Fault :=
  match members.lookup name with
  | none => (default, [])
  | some j =>
    match read j with
    | .ok a => (a, [])
    | .error given => (default, given.map (⟨name, ·⟩))

end Keyspace.Field
