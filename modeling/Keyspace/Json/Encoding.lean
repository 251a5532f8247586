import Keyspace.Text.Utf8
import Keyspace.Text.Wide

/-!
The encoding that a text of the notation comes in.

A text of the notation begins with two code points of ASCII, so the zeros among its first four bytes
tell the encoding. Bytes without a zero among the first two are UTF-8, and a mark of byte order in
front of these is no part of the text.
-/

namespace Keyspace.Json

/-- The text that bytes in another encoding than UTF-8 write; `none` within if they write none. -/
def wideText? (bytes : List UInt8) : Option (Option Text) :=
  match bytes with
  | [0, _] => some (Text.ofUtf16? .big bytes)
  | [_, 0] => some (Text.ofUtf16? .little bytes)
  | a :: b :: c :: d :: _ =>
    if a = 0 then some (if b = 0 then Text.ofUtf32? .big bytes else Text.ofUtf16? .big bytes)
    else if b = 0 then
      some (if c = 0 && d = 0 then Text.ofUtf32? .little bytes else Text.ofUtf16? .little bytes)
    else none
  | _ => none

/-- The text of the notation in a body, which is given as if its bytes were UTF-8; `none` if its
bytes write no text in the encoding that they tell. -/
def decode? (body : Text) : Option Text :=
  let plain := if body.head? = some 0xFEFF then body.drop 1 else body
  if (body.take 2).contains 0 then (wideText? (body.flatMap Text.scalarBytes)).getD (some plain)
  else some plain

end Keyspace.Json
