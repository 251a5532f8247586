import Keyspace.Text.Blank

/-!
Lists of keys, one key a line.

Lines end in a line feed, or in a carriage return and a line feed. Blanks at both ends of a line go
away, and so do lines without anything else.
-/

namespace Keyspace.KeyList

/-- The lines of a text. `line` holds the line that is being read and `found` the lines before it,
both last first. -/
def splitLines (found : List Text) (line : Text) : Text → List Text
  | [] => (line.reverse :: found).reverse
  | c :: rest =>
    if c = cp '\n' then splitLines (line.reverse :: found) [] rest
    else
      match rest with
      | [] => splitLines found (c :: line) []
      | d :: rest =>
        if c = cp '\r' && d = cp '\n' then splitLines (line.reverse :: found) [] rest
        else splitLines found (c :: line) (d :: rest)

/-- The keys that a text lists. -/
def parse (raw : Text) : List Text :=
  ((splitLines [] [] raw).map Text.strip).filter (!·.isEmpty)

end Keyspace.KeyList
