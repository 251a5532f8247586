import Keyspace.Pattern.Parser

/-!
Patterns written.

Each piece is written with both bounds in braces, and each code point of a class, as each literal,
behind a backslash, so nothing that is written can be taken for part of its neighbours. What cannot
be written is a piece that no pattern reads as: one that is not sound, or one with a code point that
no pattern may hold.
-/

namespace Keyspace.Pattern

/-- Whether a backslash makes the code point a class. -/
def isClassLetter (c : CodePoint) : Bool := c = cp 'd' || c = cp 'w' || c = cp 's'

/-- An atom as a pattern writes it. A literal that a backslash would make a class stands alone. -/
def Atom.text : Atom → Text
  | .literal c => if isClassLetter c then [c] else [cp '\\', c]
  | .charClass candidates => cp '[' :: candidates.flatMap (fun c => [cp '\\', c]) ++ [cp ']']
  | .digit => [cp '\\', cp 'd']
  | .word => [cp '\\', cp 'w']
  | .space => [cp '\\', cp 's']

/-- Bounds in braces. -/
def boundsText (lower upper : Nat) : Text :=
  cp '{' :: Text.ofNat lower ++ cp ',' :: Text.ofNat upper ++ [cp '}']

/-- A piece as a pattern writes it. -/
def Piece.text (p : Piece) : Text := p.atom.text ++ boundsText p.lower p.upper

/-- The pattern of a list of pieces. -/
def render (pieces : List Piece) : Text := pieces.flatMap Piece.text

/-- Bounds in their order and below the limit, and something to draw. -/
structure Piece.Sound (p : Piece) : Prop where
  lower_le : p.lower ≤ p.upper
  upper_le : p.upper ≤ maxRepeat
  alphabet_ne_nil : p.atom.alphabet ≠ []

/-- A sound piece without a code point that no pattern may hold. -/
structure Piece.Writable (p : Piece) : Prop extends p.Sound where
  supported : ∀ c ∈ p.atom.alphabet, isUnsupported c = false

end Keyspace.Pattern
