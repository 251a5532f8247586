import Keyspace.Text.Basic

/-!
The UTF-8 form of a text.

A surrogate has no UTF-8 form, so a text that holds one has none either: `utf8?` answers `none`
exactly for the texts with a code point that is not a scalar value.
-/

namespace Keyspace.Text

/-- Whether UTF-8 has a form for the code point. -/
def isScalar (c : CodePoint) : Bool := c < 0xD800 || (0xE000 ≤ c && c < 0x110000)

/-- The one to four bytes of a scalar value: the lead byte tells their number and each continuation
byte carries six bits. -/
def scalarBytes (c : CodePoint) : List UInt8 :=
  let continuation (shift : Nat) : UInt8 := UInt8.ofNat (0x80 + (c >>> shift) % 0x40)
  if c < 0x80 then [UInt8.ofNat c]
  else if c < 0x800 then [UInt8.ofNat (0xC0 + c >>> 6), continuation 0]
  else if c < 0x10000 then [UInt8.ofNat (0xE0 + c >>> 12), continuation 6, continuation 0]
  else [UInt8.ofNat (0xF0 + c >>> 18), continuation 12, continuation 6, continuation 0]

/-- Whether every code point of the text has a UTF-8 form. -/
def encodable (t : Text) : Bool := t.all isScalar

/-- The UTF-8 bytes of the text, if it has them. -/
def utf8? (t : Text) : Option (List UInt8) :=
  if encodable t then some (t.flatMap scalarBytes) else none

/-- The first stretch of code points without a UTF-8 form: where it starts and what is in it. -/
def unencodableStretch? (t : Text) : Option (Nat × Text) :=
  match t.span isScalar with
  | (_, []) => none
  | (before, rest) => some (before.length, rest.takeWhile (!isScalar ·))

end Keyspace.Text
