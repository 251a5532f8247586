import Keyspace.Text.Hexadecimal
import Keyspace.Text.Printable

/-!
Texts between quotes, as messages show them.

A quoted text is between apostrophes, or between double quotes if it holds an apostrophe and no
double quote. The backslash and the quote in use follow a backslash; line feed, carriage return and
tabulator have names; any other code point that does not print is written by its number in the
shortest of the forms with two, four or eight base-16 digits.
-/

namespace Keyspace.Text

/-- The quote that goes around a text. -/
def quoteFor (t : Text) : CodePoint :=
  if t.contains (cp '\'') && !t.contains (cp '"') then cp '"' else cp '\''

/-- The numbered form of a code point: `\x`, `\u` or `\U` and its digits. -/
def numbered (c : CodePoint) : Text :=
  if c < 0x100 then lit "\\x" ++ hex 2 c
  else if c < 0x10000 then lit "\\u" ++ hex 4 c
  else lit "\\U" ++ hex 8 c

/-- What stands for one code point between quotes of the given kind. -/
def escaped (quote c : CodePoint) : Text :=
  if c = quote || c = cp '\\' then [cp '\\', c]
  else if c = cp '\n' then lit "\\n"
  else if c = cp '\r' then lit "\\r"
  else if c = cp '\t' then lit "\\t"
  else if isPrintable c then [c]
  else numbered c

/-- The text between quotes. -/
def quoted (t : Text) : Text :=
  let quote := quoteFor t
  quote :: t.flatMap (escaped quote) ++ [quote]

end Keyspace.Text
