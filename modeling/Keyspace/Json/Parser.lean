import Keyspace.Decimal.Reading
import Keyspace.Json.Basic
import Keyspace.Text.Hexadecimal
import Keyspace.Text.Wide

/-!
The notation read.

Reading goes in two passes. `tokens` takes the text one code point at a time and cuts it into
punctuation and scalars; `read` feeds the tokens to a machine that keeps the containers it has not
seen the end of. Both recurse on their input, so neither needs a bound. Beyond the plain notation
the words for infinity and not-a-number are read as reals, a repeated name in an object takes the
last of its values, and an escaped surrogate pair is one code point while a lone surrogate stays.

A reader may set limits. Of several faults in a text the first one from its start is told.
-/

namespace Keyspace.Json

/-- Why a text is not read: it is not in the notation, or a part of it, if it is in the notation so
far, goes beyond the limits. -/
inductive Fault where
  | malformed
  | excessive

/-- How many digits an integer may have, and how deep containers may lie in each other. -/
structure Limits where
  digits : Option Nat
  depth : Option Nat

/-- No limits. -/
def Limits.unbounded : Limits := ⟨none, none⟩

/-- The limits for texts from outside. -/
def Limits.usual : Limits := ⟨some Decimal.maxIntLength, some 950⟩

/-- Whether containers may lie in this many others. -/
def Limits.admitsDepth {α : Type} (limits : Limits) (around : List α) : Bool :=
  match limits.depth with
  | none => true
  | some most => (around.drop most).isEmpty

/-- Whether an integer may have these digits. -/
def Limits.admitsDigits (limits : Limits) (digits : Text) : Bool :=
  match limits.digits with
  | none => true
  | some most => digits.length ≤ most

/-- A unit of the notation: punctuation, or a value without parts. -/
inductive Token where
  | openObject
  | closeObject
  | openArray
  | closeArray
  | colon
  | comma
  | scalar (value : Json)

/-- What is being read: nothing yet, a text, an escape in a text, the digits of a numbered escape,
or a word or numeral. What was found is kept last first. -/
inductive Mode where
  | between
  | text (found : Text)
  | escape (found : Text)
  | numbered (found : Text) (digits : Text)
  | bare (found : Text)

/-- The punctuation that a code point is. -/
def punctuation? (c : CodePoint) : Option Token :=
  if c = cp '{' then some .openObject
  else if c = cp '}' then some .closeObject
  else if c = cp '[' then some .openArray
  else if c = cp ']' then some .closeArray
  else if c = cp ':' then some .colon
  else if c = cp ',' then some .comma
  else none

/-- The code points that may stand between tokens. -/
def isSpace (c : CodePoint) : Bool :=
  c = cp ' ' || c = cp '\t' || c = cp '\n' || c = cp '\r'

/-- The code point for a one-letter escape. -/
def escape? (c : CodePoint) : Option CodePoint :=
  if c = cp '"' || c = cp '\\' || c = cp '/' then some c
  else if c = cp 'b' then some 0x08
  else if c = cp 'f' then some 0x0C
  else if c = cp 'n' then some (cp '\n')
  else if c = cp 'r' then some (cp '\r')
  else if c = cp 't' then some (cp '\t')
  else none

/-- A numeral: an integer if it has neither a point nor an exponent. -/
def number (limits : Limits) (t : Text) : Except Fault Json :=
  let (negative, body) := Decimal.splitMinus t
  match Decimal.parts? body with
  | none => .error .malformed
  | some parts =>
    if !parts.isPlain then .error .malformed
    else
      match parts.int? negative with
      | none => .ok (.real (parts.value negative))
      | some n => if limits.admitsDigits parts.whole then .ok (.int n) else .error .excessive

/-- The value of a word or numeral. -/
def bareValue (limits : Limits) (t : Text) : Except Fault Json :=
  if t = Text.lit "null" then .ok .null
  else if t = Text.lit "true" then .ok (.bool true)
  else if t = Text.lit "false" then .ok (.bool false)
  else if t = Text.lit "NaN" then .ok (.real (0.0 / 0.0))
  else if t = Text.lit "Infinity" then .ok (.real (1.0 / 0.0))
  else if t = Text.lit "-Infinity" then .ok (.real (-(1.0 / 0.0)))
  else number limits t

/-- The mode after a code point outside texts, with the tokens so far, last first. -/
def between (found : List Token) (c : CodePoint) : List Token × Mode :=
  match punctuation? c with
  | some token => (token :: found, .between)
  | none =>
    if isSpace c then (found, .between)
    else if c = cp '"' then (found, .text [])
    else (found, .bare [c])

/-- Whether a code point ends a word or numeral. -/
def endsBare (c : CodePoint) : Bool := isSpace c || (punctuation? c).isSome || c = cp '"'

/-- The tokens of a text up to its first fault, given those found so far, last first. -/
def scan (limits : Limits) (found : List Token) : Mode → Text → List Token × Option Fault
  | .between, [] => (found.reverse, none)
  | .bare word, [] =>
    match bareValue limits word.reverse with
    | .error fault => (found.reverse, some fault)
    | .ok v => ((Token.scalar v :: found).reverse, none)
  | _, [] => (found.reverse, some .malformed)
  | .between, c :: rest =>
    let (found, mode) := between found c
    scan limits found mode rest
  | .bare word, c :: rest =>
    if endsBare c then
      match bareValue limits word.reverse with
      | .error fault => (found.reverse, some fault)
      | .ok v =>
        let (found, mode) := between (.scalar v :: found) c
        scan limits found mode rest
    else scan limits found (.bare (c :: word)) rest
  | .text read, c :: rest =>
    if c = cp '"' then
      scan limits (.scalar (.text (Text.pairSurrogates read.reverse)) :: found) .between rest
    else if c = cp '\\' then scan limits found (.escape read) rest
    else if c < 0x20 then (found.reverse, some .malformed)
    else scan limits found (.text (c :: read)) rest
  | .escape read, c :: rest =>
    if c = cp 'u' then scan limits found (.numbered read []) rest
    else
      match escape? c with
      | none => (found.reverse, some .malformed)
      | some e => scan limits found (.text (e :: read)) rest
  | .numbered read digits, c :: rest =>
    if digits.length < 3 then scan limits found (.numbered read (digits ++ [c])) rest
    else
      match Text.hexValue? (digits ++ [c]) with
      | none => (found.reverse, some .malformed)
      | some e => scan limits found (.text (e :: read)) rest

/-- The tokens of a text up to its first fault. -/
def tokens (limits : Limits) (t : Text) : List Token × Option Fault := scan limits [] .between t

/-- A container that is not closed yet, and what it holds so far, last first. An object also has the
name whose value is being read. -/
inductive Frame where
  | array (items : List Json)
  | object (members : List (Text × Json)) (name : Text)

/-- What may come next: a value, or the end of an array that is still empty; the name of a member,
or the end of an object that is still empty; the colon after a name; whatever follows a value. -/
inductive Expected where
  | value (orClose : Bool)
  | name (members : List (Text × Json)) (orClose : Bool)
  | colon (members : List (Text × Json)) (name : Text)
  | afterValue (value : Json)

/-- The object of members kept last first, a repeated name having its last value. -/
def closeObject (members : List (Text × Json)) : Json :=
  .object (members.reverse.foldl (fun ms m => bind m.1 m.2 ms) [])

/-- One token taken in, if it may come here; the stack holds the containers around, innermost first.
-/
def Expected.step (limits : Limits) (stack : List Frame) :
    Expected → Token → Except Fault (Expected × List Frame)
  | .value _, .scalar v => .ok (.afterValue v, stack)
  | .value _, .openArray =>
    if limits.admitsDepth stack then .ok (.value true, .array [] :: stack) else .error .excessive
  | .value _, .openObject =>
    if limits.admitsDepth stack then .ok (.name [] true, stack) else .error .excessive
  | .value true, .closeArray =>
    match stack with
    | .array [] :: stack => .ok (.afterValue (.array []), stack)
    | _ => .error .malformed
  | .name members _, .scalar (.text t) => .ok (.colon members t, stack)
  | .name _ true, .closeObject => .ok (.afterValue (.object []), stack)
  | .colon members t, .colon => .ok (.value false, .object members t :: stack)
  | .afterValue v, .comma =>
    match stack with
    | .array items :: stack => .ok (.value false, .array (v :: items) :: stack)
    | .object members t :: stack => .ok (.name ((t, v) :: members) false, stack)
    | [] => .error .malformed
  | .afterValue v, .closeArray =>
    match stack with
    | .array items :: stack => .ok (.afterValue (.array (v :: items).reverse), stack)
    | _ => .error .malformed
  | .afterValue v, .closeObject =>
    match stack with
    | .object members t :: stack => .ok (.afterValue (closeObject ((t, v) :: members)), stack)
    | _ => .error .malformed
  | _, _ => .error .malformed

/-- What a text comes to whose tokens end in a state, with the fault after them: what goes beyond
the limits does so only where a value may come. -/
def Expected.finish (stack : List Frame) : Expected → Option Fault → Except Fault Json
  | .value _, some fault => .error fault
  | .afterValue v, none => if stack.isEmpty then .ok v else .error .malformed
  | _, _ => .error .malformed

/-- The value that a text writes, read within limits. -/
def read (limits : Limits) (t : Text) : Except Fault Json := do
  let (tokens, fault) := tokens limits t
  let (expected, stack) ← tokens.foldlM
    (fun (state : Expected × List Frame) token => state.1.step limits state.2 token)
    (.value false, [])
  expected.finish stack fault

/-- The value that a text writes; `none` if it writes none, or something is left over. -/
def parse? (t : Text) : Option Json := (read .unbounded t).toOption

end Keyspace.Json
