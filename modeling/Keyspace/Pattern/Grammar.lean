import Keyspace.Pattern.Parser

/-!
What a pattern says, as a grammar.

A pattern is a sequence of items; an item is an anchor, or an atom with at most one quantifier
behind it. The relations tell which text is which part and what it stands for, without any order of
reading. They look at the text behind a part in one place only: a member of a class that stands for
itself is not followed by a hyphen and a member, because the three would be a range.
-/

namespace Keyspace.Pattern

/-- A sequence of at least one digit, and the number that it writes. -/
def Numeral (t : Text) (n : Nat) : Prop := t ≠ [] ∧ t.all Text.isDigit ∧ Text.decimalValue t = n

/-- What stands between the brackets of a class, and the candidates that it stands for. -/
inductive Members : Text → Text → Prop where
  | nil : Members [] []
  | escaped {c : CodePoint} {t candidates : Text} :
    Members t candidates → Members (cp '\\' :: c :: t) (c :: candidates)
  | range {first last : CodePoint} {t candidates : Text} :
    first ≠ cp ']' → first ≠ cp '\\' → last ≠ cp ']' → first ≤ last → Members t candidates →
    Members (first :: cp '-' :: last :: t) (expandRange first last ++ candidates)
  | single {c : CodePoint} {t candidates : Text} :
    c ≠ cp ']' → c ≠ cp '\\' → (∀ d r, t = cp '-' :: d :: r → d = cp ']') → Members t candidates →
    Members (c :: t) (c :: candidates)

/-- The text of an atom. -/
inductive Writes : Text → Atom → Prop where
  | literal {c : CodePoint} :
    c ≠ cp '[' → c ≠ cp '\\' → isQuantifierSign c = false → isAnchor c = false →
    Writes [c] (.literal c)
  | escape {c : CodePoint} : Writes [cp '\\', c] (escapeAtom c)
  | charClass {t candidates : Text} :
    t ≠ [] → t.head? ≠ some (cp '^') → Members t candidates →
    Writes (cp '[' :: t ++ [cp ']']) (.charClass candidates)

/-- The text of a quantifier, and its bounds. -/
inductive Quantifies : Text → Nat → Nat → Prop where
  | none : Quantifies [] 1 1
  | optional : Quantifies [cp '?'] 0 1
  | some : Quantifies [cp '+'] 1 openSpan
  | any : Quantifies [cp '*'] 0 openSpan
  | exactly {t : Text} {n : Nat} :
    Numeral t n → n ≤ maxRepeat → Quantifies (cp '{' :: t ++ [cp '}']) n n
  | atLeast {t : Text} {n : Nat} :
    Numeral t n → n + openSpan ≤ maxRepeat →
    Quantifies (cp '{' :: t ++ [cp ',', cp '}']) n (n + openSpan)
  | between {t u : Text} {lower upper : Nat} :
    Numeral t lower → Numeral u upper → lower ≤ upper → upper ≤ maxRepeat →
    Quantifies (cp '{' :: t ++ cp ',' :: u ++ [cp '}']) lower upper

/-- A sequence of items, and the pieces that it stands for. -/
inductive Items : Text → List Piece → Prop where
  | nil : Items [] []
  | anchor {c : CodePoint} {t : Text} {pieces : List Piece} :
    isAnchor c → Items t pieces → Items (c :: t) pieces
  | piece {a q t : Text} {atom : Atom} {lower upper : Nat} {pieces : List Piece} :
    Writes a atom → Quantifies q lower upper → Items t pieces →
    Items (a ++ q ++ t) (⟨atom, lower, upper⟩ :: pieces)

/-- The pattern `t` stands for the pieces. -/
def StandsFor (t : Text) (pieces : List Piece) : Prop :=
  (∀ c ∈ t, isUnsupported c = false) ∧ Items t pieces

end Keyspace.Pattern
