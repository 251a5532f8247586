import Keyspace.Text.Basic

/-!
Patterns of keys: pieces, and what can be wrong with a pattern.

A pattern is a sequence of pieces. A piece is an atom, which offers an alphabet, with the least and
the greatest number of times that it is drawn from. There are no groups and no alternatives.
-/

namespace Keyspace.Pattern

/-- How often an atom without an upper bound may be drawn from beyond its lower bound. -/
def openSpan : Nat := 16

/-- The greatest upper bound of a piece. -/
def maxRepeat : Nat := 100000

/-- What a piece draws from. The candidates of a class are in the order of its members, and one that
comes twice is drawn twice as often. -/
inductive Atom where
  | literal (c : CodePoint)
  | charClass (candidates : Text)
  | digit
  | word
  | space
  deriving DecidableEq

/-- The ASCII digits. -/
def digits : Text := List.range' (cp '0') 10

/-- The ASCII letters, digits and the low line. -/
def wordSigns : Text :=
  List.range' (cp 'a') 26 ++ List.range' (cp 'A') 26 ++ digits ++ [cp '_']

/-- The space and the tabulator. -/
def spaces : Text := [cp ' ', cp '\t']

/-- The code points that an atom offers. -/
def Atom.alphabet : Atom → Text
  | .literal c => [c]
  | .charClass candidates => candidates
  | .digit => digits
  | .word => wordSigns
  | .space => spaces

/-- The name of the atom's kind. -/
def Atom.kindName : Atom → Text
  | .literal _ => Text.lit "literal"
  | .charClass _ => Text.lit "charclass"
  | .digit => Text.lit "digit"
  | .word => Text.lit "word"
  | .space => Text.lit "space"

/-- The names of all kinds of atom. -/
def kindNames : List Text :=
  [Atom.literal 0, .charClass [], .digit, .word, .space].map Atom.kindName

/-- An atom and how often it is drawn from. -/
structure Piece where
  atom : Atom
  lower : Nat
  upper : Nat
  deriving DecidableEq

/-- Why a pattern is refused. -/
inductive Cause where
  /-- A group or an alternative. -/
  | group
  /-- A class that begins with a circumflex. -/
  | negatedClass
  | emptyClass
  /-- A range whose last code point comes before its first. -/
  | reversedRange (first last : CodePoint)
  | unclosedClass
  | unfinishedEscape
  /-- A quantifier sign where an atom must stand. -/
  | danglingQuantifier (sign : CodePoint)
  /-- No number after an opening brace. -/
  | missingNumber
  /-- No closing brace after the numbers. -/
  | missingBrace
  /-- An upper bound below the lower one. -/
  | reversedBounds (lower upper : Nat)
  | tooManyRepeats
  deriving DecidableEq

/-- A cause, and the offset in the pattern that it is reported at. -/
structure Fault where
  cause : Cause
  position : Nat
  deriving DecidableEq

end Keyspace.Pattern
