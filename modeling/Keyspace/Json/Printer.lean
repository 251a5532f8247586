import Keyspace.Decimal.Shortest
import Keyspace.Json.Basic
import Keyspace.Text.Hexadecimal

/-!
The notation written, in ASCII and without spaces.

Code points outside printing ASCII are escaped by number, those above U+FFFF as a surrogate pair.
-/

namespace Keyspace.Json

/-- Reals are written with an exponent below 0.0001 and from 10 ^ 16 on. -/
def realLayout : Decimal.Layout := ⟨-4, 16, 2⟩

/-- What stands for one code point in a text. -/
def escaped (c : CodePoint) : Text :=
  let numbered (unit : Nat) : Text := Text.lit "\\u" ++ Text.hex 4 unit
  if c = cp '"' || c = cp '\\' then [cp '\\', c]
  else if 0x20 ≤ c && c < 0x7F then [c]
  else if c < 0x10000 then numbered c
  else numbered (0xD800 + (c - 0x10000) / 0x400) ++ numbered (0xDC00 + (c - 0x10000) % 0x400)

/-- A text between double quotes. -/
def renderText (t : Text) : Text := cp '"' :: t.flatMap escaped ++ [cp '"']

/-- A real; those that no numeral writes are written as words. -/
def renderReal (x : Float) : Text :=
  if x.isFinite then realLayout.text x
  else if x.isNaN then Text.lit "NaN"
  else if x < 0 then Text.lit "-Infinity"
  else Text.lit "Infinity"

/-- The text of a value. -/
def render : Json → Text
  | .null => Text.lit "null"
  | .bool true => Text.lit "true"
  | .bool false => Text.lit "false"
  | .int n => Text.ofInt n
  | .real x => renderReal x
  | .text t => renderText t
  | .array items =>
    cp '[' :: Text.join [cp ','] (items.attach.map fun ⟨j, _⟩ => render j) ++ [cp ']']
  | .object members =>
    cp '{' :: Text.join [cp ','] (members.attach.map fun ⟨(name, j), _⟩ =>
      renderText name ++ cp ':' :: render j) ++ [cp '}']
termination_by j => sizeOf j
decreasing_by
  · rename_i h
    have := List.sizeOf_lt_of_mem h
    simp; omega
  · rename_i h
    have := List.sizeOf_lt_of_mem h
    simp at this ⊢; omega

end Keyspace.Json
