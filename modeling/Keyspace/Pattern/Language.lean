import Keyspace.Pattern.Basic

/-!
The texts that pieces can become.

A piece can become any text of a length between its bounds over its alphabet, and pieces in order
can become what they can become one after the other.
-/

namespace Keyspace.Pattern

/-- A text that one piece can become. -/
structure Piece.Yields (p : Piece) (t : Text) : Prop where
  lower_le : p.lower ≤ t.length
  le_upper : t.length ≤ p.upper
  mem_alphabet : ∀ c ∈ t, c ∈ p.atom.alphabet

/-- A text that pieces can become. -/
inductive Yields : List Piece → Text → Prop where
  | nil : Yields [] []
  | cons {p : Piece} {pieces : List Piece} {segment t : Text} :
    p.Yields segment → Yields pieces t → Yields (p :: pieces) (segment ++ t)

end Keyspace.Pattern
