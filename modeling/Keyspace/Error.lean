import Keyspace.Pattern.Basic
import Keyspace.Text.Utf8
import Keyspace.Value

/-!
What can go wrong, the kinds of domain errors, and the wording of all of them.

A domain error is a refusal that callers are told about: it has a kind, and the kinds form a tree.
The other errors are faults of the data that no rule of the domain covers. A refusal that would show
a value which cannot be shown is none: what goes wrong then is the wording (`Error.showing`).
-/

namespace Keyspace

/-- The kinds of domain errors. -/
inductive ErrorKind where
  | general
  | digestFormat
  | partitionCount
  | hashKey
  | pattern
  | unsupportedSyntax
  | emptyCharClass
  | invalidRange
  | unterminatedCharClass
  | unterminatedEscape
  | danglingQuantifier
  | invalidQuantifier
  deriving DecidableEq

namespace ErrorKind

/-- Every kind. -/
def all : List ErrorKind :=
  [.general, .digestFormat, .partitionCount, .hashKey, .pattern, .unsupportedSyntax,
    .emptyCharClass, .invalidRange, .unterminatedCharClass, .unterminatedEscape,
    .danglingQuantifier, .invalidQuantifier]

/-- The public name of a kind. -/
def name : ErrorKind → Text
  | .general => Text.lit "ShardScopeError"
  | .digestFormat => Text.lit "InvalidDigestFormat"
  | .partitionCount => Text.lit "InvalidPartitionCount"
  | .hashKey => Text.lit "InvalidHashKey"
  | .pattern => Text.lit "PatternError"
  | .unsupportedSyntax => Text.lit "UnsupportedSyntax"
  | .emptyCharClass => Text.lit "EmptyCharClass"
  | .invalidRange => Text.lit "InvalidRange"
  | .unterminatedCharClass => Text.lit "UnterminatedCharClass"
  | .unterminatedEscape => Text.lit "UnterminatedEscape"
  | .danglingQuantifier => Text.lit "DanglingQuantifier"
  | .invalidQuantifier => Text.lit "InvalidQuantifier"

/-- The kind with a public name. -/
def ofName? (t : Text) : Option ErrorKind := all.find? (·.name = t)

/-- The kind, and every more general one, ending in the most general. -/
def lineage : ErrorKind → List ErrorKind
  | .general => [.general]
  | .digestFormat => [.digestFormat, .general]
  | .partitionCount => [.partitionCount, .general]
  | .hashKey => [.hashKey, .general]
  | .pattern => [.pattern, .general]
  | k => [k, .pattern, .general]

/-- Whether errors of the kind are about a pattern, and so can have a position. -/
def isPattern (k : ErrorKind) : Bool := k.lineage.contains .pattern

end ErrorKind

/-- A domain error as callers are told about it. -/
structure ErrorReport where
  kind : ErrorKind
  code : Text
  message : Text
  position : Option Int

namespace ErrorReport

/-- A report with a code of its own; an empty code is no code, and the kind's name stands for it. -/
def plain (kind : ErrorKind) (message : Text) (code : Text) : ErrorReport :=
  ⟨kind, if code.isEmpty then kind.name else code, message, none⟩

/-- A report about a pattern: the message ends with the position, if there is one. -/
def located (kind : ErrorKind) (message : Text) (position : Option Int) : ErrorReport :=
  let suffixed := match position with
    | none => message
    | some i => message ++ Text.lit " (at position " ++ Text.ofInt i ++ Text.lit ")"
  ⟨kind, kind.name, suffixed, position⟩

end ErrorReport

namespace Pattern

/-- The kind of error that a cause is. -/
def Cause.kind : Cause → ErrorKind
  | .group | .negatedClass => .unsupportedSyntax
  | .emptyClass => .emptyCharClass
  | .reversedRange _ _ => .invalidRange
  | .unclosedClass => .unterminatedCharClass
  | .unfinishedEscape => .unterminatedEscape
  | .danglingQuantifier _ => .danglingQuantifier
  | .missingNumber | .missingBrace | .reversedBounds _ _ | .tooManyRepeats => .invalidQuantifier

/-- The wording of a cause. -/
def Cause.message : Cause → Text
  | .group => Text.lit "Groups and alternation are not supported"
  | .negatedClass => Text.lit "Negated character classes ([^...]) are not supported"
  | .emptyClass => Text.lit "Empty character class [] is not supported"
  | .reversedRange first last => Text.lit "Invalid range " ++ [first] ++ Text.lit "-" ++ [last]
  | .unclosedClass => Text.lit "Unterminated character class"
  | .unfinishedEscape => Text.lit "Invalid escape at end of pattern"
  | .danglingQuantifier sign => Text.lit "Dangling quantifier '" ++ [sign] ++ Text.lit "'"
  | .missingNumber => Text.lit "Invalid quantifier: expected number after \x7b"
  | .missingBrace => Text.lit "Invalid quantifier: expected \x7d"
  | .reversedBounds lower upper =>
    Text.lit "Invalid quantifier bounds \x7b" ++ Text.ofNat lower ++ [cp ','] ++ Text.ofNat upper ++
      Text.lit "\x7d"
  | .tooManyRepeats =>
    Text.lit "Quantifier too large (max " ++ Text.ofNat maxRepeat ++ Text.lit ")"

/-- The report of a fault. -/
def Fault.report (f : Fault) : ErrorReport :=
  .located f.cause.kind f.cause.message (some f.position)

end Pattern

/-- What can go wrong. -/
inductive Error where
  /-- A digest that is no text. -/
  | digestKind (given : Value)
  /-- A digest that is not thirty-two base-16 digits. -/
  | digestText (given : Text)
  /-- A partition count that is no finite number from one on. -/
  | partitionCount (given : Value)
  /-- A hash key that is no integer. -/
  | hashKeyKind (given : Value)
  /-- A hash key outside the keyspace. -/
  | hashKeyOutside (given : Int)
  /-- A pattern that does not parse. -/
  | pattern (fault : Pattern.Fault)
  /-- A text without a UTF-8 form where its bytes are needed. -/
  | unencodable (text : Text)
  /-- A partition index outside the table of counts. -/
  | noSuchPartition
  /-- A partition index that no machine word holds. -/
  | indexTooLarge
  /-- An integer that no double is near to. -/
  | tooLargeForDouble
  /-- A quotient of integers that no double is near to. -/
  | quotientTooLarge
  /-- An integer with more digits than integers are written with. -/
  | integerTooLong
  /-- A factor that is no number. -/
  | factorKind (given : Value)
  /-- A name that no log level has. -/
  | unknownLevel (name : Text)

namespace Error

/-- The report of a domain error; other errors have none. -/
def report? : Error → Option ErrorReport
  | .digestKind v =>
    some (.plain .digestFormat (Text.lit "Invalid MD5 hex: expected str, got " ++ v.kindName) [])
  | .digestText t => some (.plain .digestFormat (Text.lit "Invalid MD5 hex: " ++ Text.quoted t) [])
  | .partitionCount v =>
    some (.plain .partitionCount (Text.lit "Invalid partition count: " ++ v.render) [])
  | .hashKeyKind v =>
    some (.plain .hashKey (Text.lit "Hash key must be an int, got " ++ v.kindName) [])
  | .hashKeyOutside n =>
    some (.plain .hashKey (Text.lit "Hash key out of 128-bit keyspace: " ++ Text.ofInt n) [])
  | .pattern fault => some fault.report
  | .unencodable _ | .noSuchPartition | .indexTooLarge | .tooLargeForDouble | .quotientTooLarge
  | .integerTooLong | .factorKind _ | .unknownLevel _ => none

/-- A refusal that shows a value; if that cannot be shown, the refusal cannot be worded. -/
def showing (shown : Value) (refusal : Error) : Error :=
  if shown.isWritable then refusal else .integerTooLong

/-- The wording of a text without a UTF-8 form: the first stretch that has none, and where it is. -/
def unencodableMessage (t : Text) : Text :=
  match Text.unencodableStretch? t with
  | none => []
  | some (start, stretch) =>
    let place := if stretch.length = 1 then
        Text.lit "character '" ++ stretch.flatMap Text.numbered ++ Text.lit "' in position " ++
          Text.ofNat start
      else
        Text.lit "characters in position " ++ Text.ofNat start ++ Text.lit "-" ++
          Text.ofNat (start + stretch.length - 1)
    Text.lit "'utf-8' codec can't encode " ++ place ++ Text.lit ": surrogates not allowed"

/-- The wording of an error. -/
def message (e : Error) : Text :=
  match e.report? with
  | some report => report.message
  | none =>
    match e with
    | .unencodable t => unencodableMessage t
    | .noSuchPartition => Text.lit "list index out of range"
    | .indexTooLarge => Text.lit "cannot fit 'int' into an index-sized integer"
    | .tooLargeForDouble => Text.lit "int too large to convert to float"
    | .quotientTooLarge => Text.lit "integer division result too large for a float"
    | .integerTooLong =>
      Text.lit "Exceeds the limit (" ++ Text.ofNat Text.maxDigits ++
        Text.lit " digits) for integer string conversion; use sys.set_int_max_str_digits() to " ++
        Text.lit "increase the limit"
    | .factorKind .absent =>
      Text.lit "unsupported operand type(s) for *: 'float' and 'NoneType'"
    | .factorKind _ => Text.lit "can't multiply sequence by non-int of type 'float'"
    | .unknownLevel name => Text.lit "Level '" ++ name ++ Text.lit "' does not exist"
    | _ => []

end Error

end Keyspace
