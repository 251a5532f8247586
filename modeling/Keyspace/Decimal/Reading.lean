import Keyspace.Text.Blank

/-!
Numerals read as numbers.

Three grammars share their parts: the integer numeral and the real numeral of data exchange, which
admit no spelling but the plain one, and the loose numerals that people type, with blanks around
them, a plus sign, leading zeros and single underscores between digits. A real numeral is rounded
once, to the nearest double; one that is too large reads as an infinity. An integer numeral is read
exactly, so its length has a bound.
-/

namespace Keyspace.Decimal

/-- The exponent, brought near to zero where that makes no difference: from 10 ^ 400 on every
product rounds to infinity, and below 10 ^ -400 to zero. -/
def nearby (coefficient : Nat) (exponent : Int) : Int :=
  max (-(coefficient.log2 + 400 : Int)) (min exponent 400)

/-- The double nearest to `coefficient * 10 ^ exponent`, negated on demand. -/
def nearest (negative : Bool) (coefficient : Nat) (exponent : Int) : Float :=
  let e := nearby coefficient exponent
  let x := Float.ofScientific coefficient (e < 0) e.natAbs
  if negative then -x else x

/-- The parts of a real numeral: what stands before its point, after its point and in its exponent.
-/
structure Parts where
  whole : Text
  fraction : Option Text
  exponent : Option Int

/-- A signed sequence of at least one digit. -/
def signedDigits? (t : Text) : Option Int :=
  let read (digits : Text) : Option Nat :=
    if !digits.isEmpty && digits.all Text.isDigit then some (Text.decimalValue digits) else none
  match t with
  | [] => none
  | c :: rest =>
    if c = cp '-' then (read rest).map fun n => -(n : Int)
    else if c = cp '+' then (read rest).map fun n => (n : Int)
    else (read t).map fun n => (n : Int)

/-- Splits an unsigned numeral into its parts; `none` if something else is left over. -/
def parts? (t : Text) : Option Parts :=
  let whole := t.takeWhile Text.isDigit
  let (fraction, rest) : Option Text × Text :=
    match t.dropWhile Text.isDigit with
    | [] => (none, [])
    | c :: rest =>
      if c = cp '.' then (some (rest.takeWhile Text.isDigit), rest.dropWhile Text.isDigit)
      else (none, c :: rest)
  match rest with
  | [] => some ⟨whole, fraction, none⟩
  | c :: rest =>
    if c = cp 'e' || c = cp 'E' then
      (signedDigits? rest).map fun e => ⟨whole, fraction, some e⟩
    else none

/-- The double that the parts write. -/
def Parts.value (negative : Bool) (p : Parts) : Float :=
  let fraction := p.fraction.getD []
  nearest negative (Text.decimalValue (p.whole ++ fraction))
    (p.exponent.getD 0 - (fraction.length : Int))

/-- Whether the whole part is spelled plainly: at least one digit, and no zero in front of others.
-/
def Parts.isPlain (p : Parts) : Bool :=
  match p.whole with
  | [] => false
  | [_] => p.fraction != some []
  | c :: _ => c != cp '0' && p.fraction != some []

/-- The integer that the parts write, if they have neither a point nor an exponent. -/
def Parts.int? (negative : Bool) (p : Parts) : Option Int :=
  if p.fraction.isNone && p.exponent.isNone then
    let n := Text.decimalValue p.whole
    some (if negative then -(n : Int) else n)
  else none

/-- The most code points of an integer numeral that is read. -/
def maxIntLength : Nat := 4300

/-- A minus sign in front of a numeral, and what it stands before. -/
def splitMinus : Text → Bool × Text
  | [] => (false, [])
  | c :: rest => if c = cp '-' then (true, rest) else (false, c :: rest)

/-- A sign of either kind in front of a numeral, and what it stands before. -/
def splitSign (t : Text) : Bool × Text :=
  if t.head? = some (cp '+') then (false, t.drop 1) else splitMinus t

/-- An integer in its plain spelling: no plus sign, and no zero in front of other digits. -/
def plainInt? (t : Text) : Option Int := do
  if maxIntLength < t.length then none
  let (negative, body) := splitMinus t
  let parts ← parts? body
  if parts.isPlain then parts.int? negative else none

/-! ### Loose numerals -/

/-- The blanks that a loose numeral may have around it: all but the four information separators. -/
def isMargin (c : CodePoint) : Bool := Text.isBlank c && !(0x1C ≤ c && c ≤ 0x1F)

/-- The text without its margins. -/
def trimMargins (t : Text) : Text := Text.trimEnd isMargin (Text.trimStart isMargin t)

/-- The text without its underscores; `none` if one of them does not stand alone between two other
code points. -/
def ungrouped? (t : Text) : Option Text :=
  let groups := Text.splitAt (cp '_') t
  if groups.any List.isEmpty then none else some groups.flatten

/-- What is left of a numeral after zeros in front of it, which may have any underscores among them
and a minus sign behind them. The last of them, `last`, stays where a point or nothing follows. -/
def afterZeros? (last : CodePoint) : Text → Option Text
  | [] => some [last]
  | c :: rest =>
    if c = cp '0' || c = cp '_' then afterZeros? c rest
    else if c = cp '.' then some (last :: c :: rest)
    else if Text.isDigit c || c = cp '-' then some (c :: rest)
    else none

/-- A numeral without the zeros in front of it; `none` if it does not begin like a numeral. -/
def withoutZeros? : Text → Option Text
  | [] => none
  | c :: rest =>
    if c = cp '0' then afterZeros? c rest
    else if Text.isDigit c || c = cp '-' then some (c :: rest)
    else none

/-- A numeral without a point and the zeros behind it, at least one. -/
def withoutPoint (t : Text) : Text :=
  match Text.splitAt (cp '.') t with
  | [whole, fraction] => if !fraction.isEmpty && fraction.all (· == cp '0') then whole else t
  | _ => t

/-- An integer from a loose numeral. One sign may come first; then come zeros in front, digits in
groups, and a point with zeros behind it. -/
def looseInt? (t : Text) : Option Int := do
  let core := trimMargins t
  let (negative, body) := splitSign core
  if body.length < core.length && body.head? = some (cp '-') then none
  let digits := withoutPoint (← withoutZeros? body)
  let digits := (ungrouped? digits).getD digits
  plainInt? (if negative then cp '-' :: digits else digits)

/-- A double from a numeral without blanks and underscores, or from the words for infinity and
not-a-number, in letters of either case. -/
def bareReal? (t : Text) : Option Float := do
  let (negative, body) := splitSign (Text.lowerAscii t)
  if body = Text.lit "nan" then some (0.0 / 0.0)
  else if body = Text.lit "inf" || body = Text.lit "infinity" then
    some (if negative then -(1.0 / 0.0) else 1.0 / 0.0)
  else
    let parts ← parts? body
    if parts.whole.isEmpty && (parts.fraction.getD []).isEmpty then none
    else some (parts.value negative)

/-- A double from a loose numeral: it may have margins or underscores, but not both. -/
def looseReal? (t : Text) : Option Float :=
  (bareReal? (trimMargins t)).or ((ungrouped? t).bind bareReal?)

end Keyspace.Decimal
