import Keyspace.Pattern.Basic

/-!
Patterns read.

The reader goes from left to right and never back. A cursor holds the text that is left and the
offset at which it starts; every reader answers the cursor behind what it took, and each item takes
at least one code point (`readItem_lt`), so the reading of items ends.

A class range looks two code points ahead, a quantifier one; nothing else looks past what it takes.

What the digits of a quantifier count for is up to a `NumberReader`. The parser's own keeps numbers
to the limit's digits (`NumberReader.bounded`); the readers are the same for every other.
-/

namespace Keyspace.Pattern

/-- The text that is left, and its offset in the pattern. -/
structure Cursor where
  offset : Nat
  rest : Text

/-- The cursor `n` code points further on. -/
def Cursor.advance (c : Cursor) (n : Nat) : Cursor := ⟨c.offset + n, c.rest.drop n⟩

/-- The code points that no pattern may hold. -/
def isUnsupported (c : CodePoint) : Bool := c = cp '(' || c = cp ')' || c = cp '|'

/-- The code points that belong to quantifiers. -/
def isQuantifierSign (c : CodePoint) : Bool :=
  c = cp '{' || c = cp '}' || c = cp '?' || c = cp '+' || c = cp '*'

/-- The code points that are read over. -/
def isAnchor (c : CodePoint) : Bool := c = cp '^' || c = cp '$'

/-- The atom that a backslash and a code point write. -/
def escapeAtom (c : CodePoint) : Atom :=
  if c = cp 'd' then .digit
  else if c = cp 'w' then .word
  else if c = cp 's' then .space
  else .literal c

/-- All code points from the first to the last, both included. -/
def expandRange (first last : CodePoint) : Text := List.range' first (last + 1 - first)

/-- Reads the members of a class up to its closing bracket and answers the candidates. The class was
opened at `opened`, and `found` holds the candidates so far, last first. A hyphen makes a range if
it stands between two members; at either end of the class it is a member itself. -/
def readMembers (opened : Nat) (found : Text) (offset : Nat) :
    Text → Except Fault (Text × Cursor)
  | [] => .error ⟨.unclosedClass, opened⟩
  | c :: rest =>
    if c = cp ']' then
      if found.isEmpty then .error ⟨.emptyClass, opened⟩
      else .ok (found.reverse, ⟨offset + 1, rest⟩)
    else if c = cp '\\' then
      match rest with
      | [] => .error ⟨.unfinishedEscape, offset⟩
      | e :: rest => readMembers opened (e :: found) (offset + 2) rest
    else
      match rest with
      | [] => readMembers opened (c :: found) (offset + 1) []
      | [d] => readMembers opened (c :: found) (offset + 1) [d]
      | d :: last :: rest =>
        if d = cp '-' && last != cp ']' then
          if last < c then .error ⟨.reversedRange c last, offset⟩
          else readMembers opened ((expandRange c last).reverse ++ found) (offset + 3) rest
        else readMembers opened (c :: found) (offset + 1) (d :: last :: rest)

/-- Reads the atom that begins with `c` at the given offset; `rest` is the text behind `c`. -/
def readAtom (offset : Nat) (c : CodePoint) (rest : Text) : Except Fault (Atom × Cursor) :=
  if c = cp '[' then
    if rest.head? = some (cp '^') then .error ⟨.negatedClass, offset + 1⟩
    else
      match readMembers offset [] (offset + 1) rest with
      | .error fault => .error fault
      | .ok (candidates, next) => .ok (.charClass candidates, next)
  else if c = cp '\\' then
    match rest with
    | [] => .error ⟨.unfinishedEscape, offset⟩
    | e :: rest => .ok (escapeAtom e, ⟨offset + 2, rest⟩)
  else if isQuantifierSign c then .error ⟨.danglingQuantifier c, offset⟩
  else .ok (.literal c, ⟨offset + 1, rest⟩)

/-- How many significant digits are read exactly: those of `maxRepeat`. -/
def exactDigits : Nat := (Text.ofNat maxRepeat).length

/-- The number that digits write, if it has no more significant digits than `maxRepeat`, and else
one more than `maxRepeat`: every greater number is refused just the same. -/
def boundedValue (digits : Text) : Nat :=
  let significant := digits.dropWhile (· == cp '0')
  if exactDigits < significant.length then maxRepeat + 1 else Text.decimalValue significant

/-! ### Atoms take what they read -/

theorem readMembers_lt {opened : Nat} {found : Text} {offset : Nat} {t : Text} {r : Text × Cursor}
    (h : readMembers opened found offset t = .ok r) : r.2.rest.length < t.length := by
  fun_induction readMembers opened found offset t with
  | case1 => cases h
  | case2 => cases h
  | case3 => cases h; simp
  | case4 => cases h
  | case5 _ _ _ _ _ ih => have := ih h; simp only [List.length_cons]; omega
  | case6 _ _ _ _ _ ih => have := ih h; simp at this
  | case7 _ _ _ _ _ _ ih => have := ih h; simp only [List.length_cons] at this ⊢; omega
  | case8 => cases h
  | case9 _ _ _ _ _ _ _ _ _ _ ih => have := ih h; simp only [List.length_cons]; omega
  | case10 _ _ _ _ _ _ _ _ _ ih => have := ih h; simp only [List.length_cons] at this ⊢; omega

theorem readAtom_le {offset : Nat} {c : CodePoint} {rest : Text} {r : Atom × Cursor}
    (h : readAtom offset c rest = .ok r) : r.2.rest.length ≤ rest.length := by
  unfold readAtom at h
  split at h
  · split at h
    · cases h
    · split at h
      · cases h
      · next hm => cases h; exact Nat.le_of_lt (readMembers_lt hm)
  · split at h
    · split at h
      · cases h
      · cases h; simp
    · split at h
      · cases h
      · cases h; simp

theorem Cursor.length_advance_le (c : Cursor) (n : Nat) :
    (c.advance n).rest.length ≤ c.rest.length := by
  simp [Cursor.advance]

/-- A way to take digits for a number. -/
structure NumberReader where
  value : Text → Nat

namespace NumberReader

/-- The reader that keeps numbers to the limit's digits. -/
def bounded : NumberReader := ⟨boundedValue⟩

variable (reader : NumberReader)

/-- Reads the digits at the cursor; without any there is no number. -/
def readNumber (c : Cursor) : Option Nat × Cursor :=
  let digits := c.rest.takeWhile Text.isDigit
  (if digits.isEmpty then none else some (reader.value digits), c.advance digits.length)

/-- Reads the numbers between braces, the cursor standing behind the opening brace: the lower bound,
then after a comma the upper one. Without a comma both are the same; with a comma and no number
after it the piece is open. -/
def readBounds (c : Cursor) : Option (Nat × Nat × Cursor) :=
  match reader.readNumber c with
  | (none, _) => none
  | (some lower, c) =>
    if c.rest.head? = some (cp ',') then
      let (upper, c) := reader.readNumber (c.advance 1)
      some (lower, upper.getD (lower + openSpan), c)
    else some (lower, lower, c)

/-- Reads the quantifier at the cursor, if there is one; without one an atom is drawn from once. -/
def readQuantifier (c : Cursor) : Except Fault (Nat × Nat × Cursor) :=
  match c.rest with
  | [] => .ok (1, 1, c)
  | sign :: _ =>
    if sign = cp '?' then .ok (0, 1, c.advance 1)
    else if sign = cp '+' then .ok (1, openSpan, c.advance 1)
    else if sign = cp '*' then .ok (0, openSpan, c.advance 1)
    else if sign = cp '{' then
      match reader.readBounds (c.advance 1) with
      | none => .error ⟨.missingNumber, c.offset⟩
      | some (lower, upper, next) =>
        if next.rest.head? ≠ some (cp '}') then .error ⟨.missingBrace, next.offset⟩
        else if upper < lower then .error ⟨.reversedBounds lower upper, c.offset⟩
        else if maxRepeat < upper then .error ⟨.tooManyRepeats, c.offset⟩
        else .ok (lower, upper, next.advance 1)
    else .ok (1, 1, c)

/-- Reads one item: an anchor, which makes no piece, or an atom and its quantifier. At the end of
the text there is none. -/
def readItem (c : Cursor) : Except Fault (Option (Option Piece × Cursor)) :=
  match c.rest with
  | [] => .ok none
  | first :: rest =>
    if isAnchor first then .ok (some (none, ⟨c.offset + 1, rest⟩))
    else
      match readAtom c.offset first rest with
      | .error fault => .error fault
      | .ok (atom, next) =>
        match reader.readQuantifier next with
        | .error fault => .error fault
        | .ok (lower, upper, next) => .ok (some (some ⟨atom, lower, upper⟩, next))

/-! ### Every item takes something -/

theorem readNumber_le (c : Cursor) : (reader.readNumber c).2.rest.length ≤ c.rest.length :=
  c.length_advance_le _

variable {reader}

theorem readBounds_le {c : Cursor} {r : Nat × Nat × Cursor} (h : reader.readBounds c = some r) :
    r.2.2.rest.length ≤ c.rest.length := by
  have hn := reader.readNumber_le c
  unfold readBounds at h
  split at h
  · cases h
  · next lower c' hc =>
    rw [hc] at hn
    split at h
    · cases h
      exact Nat.le_trans (reader.readNumber_le _) (Nat.le_trans (c'.length_advance_le 1) hn)
    · cases h; exact hn

theorem readQuantifier_le {c : Cursor} {r : Nat × Nat × Cursor}
    (h : reader.readQuantifier c = .ok r) : r.2.2.rest.length ≤ c.rest.length := by
  unfold readQuantifier at h
  split at h
  · cases h; exact Nat.le_refl _
  · split at h
    · cases h; exact c.length_advance_le 1
    split at h
    · cases h; exact c.length_advance_le 1
    split at h
    · cases h; exact c.length_advance_le 1
    split at h
    · split at h
      · cases h
      · next hb =>
        have := Nat.le_trans (readBounds_le hb) (c.length_advance_le 1)
        split at h
        · cases h
        split at h
        · cases h
        split at h
        · cases h
        cases h
        exact Nat.le_trans (Cursor.length_advance_le _ 1) this
    · cases h; exact Nat.le_refl _

theorem readItem_lt {c : Cursor} {r : Option Piece × Cursor}
    (h : reader.readItem c = .ok (some r)) : r.2.rest.length < c.rest.length := by
  unfold readItem at h
  split at h
  · cases h
  · next hc =>
    rw [hc]
    split at h
    · cases h; simp
    · split at h
      · cases h
      · next ha =>
        split at h
        · cases h
        · next hq =>
          cases h
          have h₁ := readAtom_le ha
          have h₂ := readQuantifier_le hq
          simp only [List.length_cons]
          simp only at h₁ h₂
          omega

/-! ### Patterns -/

variable (reader)

/-- Reads items up to the end of the text; `found` holds the pieces so far, last first. -/
def readItems (found : List Piece) (c : Cursor) : Except Fault (List Piece) :=
  match _ : reader.readItem c with
  | .error fault => .error fault
  | .ok none => .ok found.reverse
  | .ok (some (piece, next)) => readItems (piece.toList ++ found) next
termination_by c.rest.length
decreasing_by exact readItem_lt ‹_›

/-- The pieces of a pattern. A code point that no pattern may hold is reported before anything else,
wherever it stands. -/
def parse (pattern : Text) : Except Fault (List Piece) :=
  match pattern.findIdx? isUnsupported with
  | some i => .error ⟨.group, i⟩
  | none => reader.readItems [] ⟨0, pattern⟩

end NumberReader

/-- The pieces of a pattern, its numbers kept to the limit's digits. -/
def parse (pattern : Text) : Except Fault (List Piece) := NumberReader.bounded.parse pattern

end Keyspace.Pattern
