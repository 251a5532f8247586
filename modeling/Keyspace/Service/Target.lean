import Keyspace.Text.Hexadecimal

/-!
Targets of requests: a path, a query after a question mark, and a fragment after a hash sign, which
is not looked at.

In the path and in the query a percent sign and two base-16 digits stand for an ASCII code point.
Escapes of other bytes stay as they are, since neither a path nor a number has one.
-/

namespace Keyspace.Service

/-- The text with its escapes replaced. -/
def unescaped : Text → Text
  | c :: d :: e :: rest =>
    match Text.hexValue? [d, e] with
    | some n =>
      if c = cp '%' && n < 0x80 then n :: unescaped rest else c :: unescaped (d :: e :: rest)
    | none => c :: unescaped (d :: e :: rest)
  | t => t

/-- The path of a target: two slashes in front name a host, which is passed over, and the path
begins with one slash. -/
def pathOf (target : Text) : Text :=
  let path := target.takeWhile fun c => c != cp '?' && c != cp '#'
  let path :=
    if (Text.lit "//").isPrefixOf path then (path.drop 2).dropWhile (· != cp '/') else path
  cp '/' :: unescaped (path.dropWhile (· == cp '/'))

/-- A name and its value from one part of a query: they stand around an equals sign, and a plus sign
is a space. -/
def pairOf (part : Text) : Text × Text :=
  let clear (t : Text) : Text := unescaped (t.map fun c => if c = cp '+' then cp ' ' else c)
  (clear (part.takeWhile (· != cp '=')), clear ((part.dropWhile (· != cp '=')).drop 1))

/-- The names and values in the query of a target. -/
def queryOf (target : Text) : List (Text × Text) :=
  let query := ((target.takeWhile (· != cp '#')).dropWhile (· != cp '?')).drop 1
  ((Text.splitAt (cp '&') query).filter (!·.isEmpty)).map pairOf

end Keyspace.Service
