import Keyspace.Text.Basic

/-!
Texts from bytes in UTF-16 and UTF-32.

Both encodings write a text in units of a fixed number of bytes, in either byte order. A surrogate
pair is one code point, and a surrogate without its other half stays.
-/

namespace Keyspace.Text

/-- The order of the bytes of a unit. -/
inductive ByteOrder where
  | big
  | little

/-- The number that two bytes write. -/
def ByteOrder.pair (order : ByteOrder) (a b : UInt8) : Nat :=
  match order with
  | .big => a.toNat * 0x100 + b.toNat
  | .little => b.toNat * 0x100 + a.toNat

/-- The number that four bytes write. -/
def ByteOrder.quad (order : ByteOrder) (a b c d : UInt8) : Nat :=
  match order with
  | .big => order.pair a b * 0x10000 + order.pair c d
  | .little => order.pair c d * 0x10000 + order.pair a b

/-- Each high surrogate with the low one after it as the code point that the pair stands for. -/
def pairSurrogates : Text → Text
  | [] => []
  | [c] => [c]
  | c :: d :: rest =>
    if 0xD800 ≤ c && c < 0xDC00 && 0xDC00 ≤ d && d < 0xE000 then
      (0x10000 + (c - 0xD800) * 0x400 + (d - 0xDC00)) :: pairSurrogates rest
    else
      c :: pairSurrogates (d :: rest)

/-- The units of two bytes; `none` if a byte is left over. -/
def units16? (order : ByteOrder) : List UInt8 → Option (List Nat)
  | [] => some []
  | [_] => none
  | a :: b :: rest => (units16? order rest).map (order.pair a b :: ·)

/-- The text that the bytes write in UTF-16. -/
def ofUtf16? (order : ByteOrder) (bytes : List UInt8) : Option Text :=
  (units16? order bytes).map pairSurrogates

/-- The text that the bytes write in UTF-32; `none` if bytes are left over or a unit lies outside
the code space. -/
def ofUtf32? (order : ByteOrder) : List UInt8 → Option Text
  | [] => some []
  | a :: b :: c :: d :: rest =>
    let unit := order.quad a b c d
    if unit < 0x110000 then (ofUtf32? order rest).map (unit :: ·) else none
  | _ => none

end Keyspace.Text
