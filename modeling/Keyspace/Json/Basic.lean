import Keyspace.Text.Basic

/-!
Values of the data-exchange notation.

Integers and reals are told apart, because a request that says `4.0` and one that says `4` are
answered differently. The members of an object keep the order in which their names first came.
-/

namespace Keyspace

/-- A value of the notation. -/
inductive Json where
  | null
  | bool (b : Bool)
  | int (n : Int)
  | real (x : Float)
  | text (t : Text)
  | array (items : List Json)
  | object (members : List (Text × Json))
  deriving Inhabited

namespace Json

/-- The members with `name` bound to `value`: in its old place if the name is there, else at the
end. -/
def bind (name : Text) (value : Json) : List (Text × Json) → List (Text × Json)
  | [] => [(name, value)]
  | (n, v) :: rest => if n = name then (n, value) :: rest else (n, v) :: bind name value rest

/-- The members of an object; other values have none. -/
def members : Json → List (Text × Json)
  | .object ms => ms
  | _ => []

/-- The member of a name. -/
def get? (name : Text) (j : Json) : Option Json := j.members.lookup name

/-- A text value from a literal. -/
def lit (s : String) : Json := .text (Text.lit s)

/-- An object from literal names. -/
def record (members : List (String × Json)) : Json :=
  .object (members.map fun m => (Text.lit m.1, m.2))

end Json

end Keyspace
