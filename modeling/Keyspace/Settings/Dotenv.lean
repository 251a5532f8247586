import Keyspace.Text.Blank

/-!
Variables in the notation of `.env` files.

A file is a sequence of bindings, one a line: a name, an equals sign and a value. Names may follow
the word `export`; values may stand between single or double quotes and then go on over line ends
and hold escapes; what follows a hash sign after a blank is a comment. A mark of byte order in front
and the way in which lines end make no difference. A name without an equals sign is bound to
nothing, and a line that is no binding is passed over. In a value, `$` and a name in braces stand
for the value of that name, and after a colon and a hyphen in the braces a default may come.

The notation is that of the library that reads such files, as it is documented.
-/

namespace Keyspace.Settings.Dotenv

/-- Whether the code point ends a line. -/
def isLineEnd (c : CodePoint) : Bool := c = cp '\n'

/-- Whether the code point is a blank inside a line. -/
def isInlineBlank (c : CodePoint) : Bool := Text.isBlank c && !isLineEnd c

/-- The text with every line end written as a line feed: a carriage return, and one with a line feed
after it, are line ends too. -/
def unifyLineEnds : Text → Text
  | [] => []
  | [c] => [if c = cp '\r' then cp '\n' else c]
  | c :: d :: rest =>
    if c = cp '\r' then
      cp '\n' :: if d = cp '\n' then unifyLineEnds rest else unifyLineEnds (d :: rest)
    else c :: unifyLineEnds (d :: rest)

/-- The text behind the rest of the line and its end. -/
def skipLine (t : Text) : Text := (t.dropWhile (!isLineEnd ·)).drop 1

/-- The text behind a comment and the end of the line; `none` if something else comes first. -/
def endLine? (t : Text) : Option Text :=
  let t := t.dropWhile isInlineBlank
  let t := if t.head? = some (cp '#') then t.dropWhile (!isLineEnd ·) else t
  match t with
  | [] => some []
  | c :: rest => if isLineEnd c then some rest else none

/-- What a letter stands for after a backslash between double quotes. -/
def escapeLetter? (c : CodePoint) : Option CodePoint :=
  if c = cp '\\' || c = cp '\'' || c = cp '"' then some c
  else if c = cp 'a' then some 0x07
  else if c = cp 'b' then some 0x08
  else if c = cp 'f' then some 0x0C
  else if c = cp 'n' then some (cp '\n')
  else if c = cp 'r' then some (cp '\r')
  else if c = cp 't' then some (cp '\t')
  else if c = cp 'v' then some 0x0B
  else none

/-- Reads a value up to its closing quote; `found` holds what was read, last first. A backslash
keeps the code point after it from closing the value; `none` if nothing closes it. -/
def readQuoted? (quote : CodePoint) (found : Text) : Text → Option (Text × Text)
  | [] => none
  | [c] => if c = quote then some (found.reverse, []) else none
  | c :: d :: rest =>
    if c = quote then some (found.reverse, d :: rest)
    else if c = cp '\\' then readQuoted? quote (d :: c :: found) rest
    else readQuoted? quote (c :: found) (d :: rest)

/-- A quoted value with its escapes replaced. Between single quotes only the backslash and the
single quote have an escape. -/
def unescape (quote : CodePoint) : Text → Text
  | [] => []
  | [c] => [c]
  | c :: d :: rest =>
    if c = cp '\\' then
      if quote = cp '"' || d = cp '\\' || d = cp '\'' then
        match escapeLetter? d with
        | some e => e :: unescape quote rest
        | none => c :: unescape quote (d :: rest)
      else c :: unescape quote (d :: rest)
    else c :: unescape quote (d :: rest)

/-- A value without quotes, up to the blanks before a hash sign. -/
def beforeComment : Text → Text
  | [] => []
  | c :: rest =>
    if Text.isBlank c && (rest.dropWhile Text.isBlank).head? = some (cp '#') then []
    else c :: beforeComment rest

/-- Reads the value behind an equals sign. Blanks in front of it are no part of it, but a hash sign
after them begins a comment. -/
def readValue? (t : Text) : Option (Text × Text) :=
  let line := t.takeWhile (!isLineEnd ·)
  let plain := some (Text.strip (beforeComment line), t.dropWhile (!isLineEnd ·))
  match t.dropWhile isInlineBlank with
  | [] => plain
  | c :: rest =>
    if c = cp '\'' || c = cp '"' then
      (readQuoted? c [] rest).map fun (value, rest) => (unescape c value, rest)
    else plain

/-- The text behind the word `export` and the blanks after it, if it is there. -/
def skipExport (t : Text) : Text :=
  let word := Text.lit "export"
  if word.isPrefixOf t then
    let rest := t.drop word.length
    if rest.head?.any isInlineBlank then rest.dropWhile isInlineBlank else t
  else t

/-- Reads a name. -/
def readName? (t : Text) : Option (Text × Text) :=
  let isQuoted := t.head? = some (cp '\'')
  let stops (c : CodePoint) : Bool :=
    if isQuoted then c = cp '\'' else c = cp '=' || c = cp '#' || Text.isBlank c
  let body := if isQuoted then t.drop 1 else t
  let name := body.takeWhile (!stops ·)
  let rest := body.dropWhile (!stops ·)
  if name.isEmpty then none
  else if isQuoted then
    match rest with
    | [] => none
    | _ :: rest => some (name, rest)
  else some (name, rest)

/-- Reads one line that is not blank: a binding, or no binding for a comment, and the text behind
it. A line that is neither fails at the text from which it cannot be read. -/
def readBinding (t : Text) : Except Text (Option (Text × Option Text) × Text) :=
  let finish (binding : Option (Text × Option Text)) (rest : Text) :=
    match endLine? rest with
    | some rest => .ok (binding, rest)
    | none => .error rest
  let t := skipExport t
  if t.head? = some (cp '#') then finish none t
  else
    match readName? t with
    | none => .error t
    | some (name, rest) =>
      let rest := rest.dropWhile isInlineBlank
      if rest.head? = some (cp '=') then
        match readValue? (rest.drop 1) with
        | none => .error (rest.drop 1)
        | some (value, rest) => finish (some (name, some value)) rest
      else finish (some (name, none)) rest

/-- Reads bindings to the end of the text; at most `lines` of them, and `found` holds those so far,
last first. -/
def readAll (found : List (Text × Option Text)) : Nat → Text → List (Text × Option Text)
  | 0, _ => found.reverse
  | lines + 1, t =>
    let t := t.dropWhile Text.isBlank
    if t.isEmpty then found.reverse
    else
      match readBinding t with
      | .ok (binding, rest) => readAll (binding.toList ++ found) lines rest
      | .error rest => readAll found lines (skipLine rest)

/-- What the braces at the start of the text refer to, by the values known so far, and how long they
are with what is in them. -/
def reference? (values : List (Text × Option Text)) (t : Text) : Option (Text × Nat) :=
  if t.head? != some (cp '{') then none
  else
    let name := (t.drop 1).takeWhile fun c => c != cp '}' && c != cp ':'
    let tail := t.drop (1 + name.length)
    let hasDefault := (Text.lit ":-").isPrefixOf tail
    let default := if hasDefault then (tail.drop 2).takeWhile (· != cp '}') else []
    let length := 1 + name.length + if hasDefault then 2 + default.length else 0
    if (t.drop length).head? != some (cp '}') then none
    else
      let value := match values.lookup name with
        | some (some value) => value
        | some none => []
        | none => default
      some (value, length + 1)

/-- A value with its references replaced, its first `skip` code points left out. -/
def expand (values : List (Text × Option Text)) : Nat → Text → Text
  | _, [] => []
  | skip + 1, _ :: rest => expand values skip rest
  | 0, c :: rest =>
    if c = cp '$' then
      match reference? values rest with
      | some (value, length) => value ++ expand values length rest
      | none => c :: expand values 0 rest
    else c :: expand values 0 rest

/-- A value bound to a name: in its old place if the name is there, else at the end. -/
def bind (name : Text) (value : Option Text) : List (Text × Option Text) → List (Text × Option Text)
  | [] => [(name, value)]
  | (n, v) :: rest => if n = name then (n, value) :: rest else (n, v) :: bind name value rest

/-- The variables of a file. A reference sees the variables bound before it, and after them those of
the environment. -/
def parse (environment : List (Text × Text)) (t : Text) : List (Text × Option Text) :=
  let outer := environment.reverse.map fun v => (v.1, some v.2)
  let t := unifyLineEnds (if t.head? = some 0xFEFF then t.drop 1 else t)
  (readAll [] (t.length + 1) t).foldl (fun values binding =>
    bind binding.1 (binding.2.map (expand (values ++ outer) 0)) values) []

end Keyspace.Settings.Dotenv
