import Keyspace.Error
import Keyspace.Pattern.Parser

/-!
Keys drawn at random from a pattern.

A source of random decisions answers two questions: a number between two bounds, and a member of an
alphabet. Its state is passed along, so whatever it answers can be followed. A key is drawn piece by
piece: first how often, unless the bounds leave no choice, then each code point.
-/

namespace Keyspace.Sampling

/-- A source of random decisions with states of type `σ`. -/
structure Source (σ : Type) where
  /-- A number from the first bound to the second. -/
  between : Nat → Nat → σ → Nat × σ
  /-- A member of an alphabet. -/
  choose : Array CodePoint → σ → CodePoint × σ

/-- A source that keeps to what it is asked. -/
structure Source.Lawful {σ : Type} (source : Source σ) : Prop where
  between_ge : ∀ a b s, a ≤ b → a ≤ (source.between a b s).1
  between_le : ∀ a b s, a ≤ b → (source.between a b s).1 ≤ b
  choose_mem : ∀ alphabet s, alphabet ≠ #[] → (source.choose alphabet s).1 ∈ alphabet

/-- The source with a count of the decisions that it took. -/
def Source.counted {σ : Type} (source : Source σ) : Source (σ × Nat) where
  between a b s := let (n, t) := source.between a b s.1; (n, t, s.2 + 1)
  choose alphabet s := let (c, t) := source.choose alphabet s.1; (c, t, s.2 + 1)

/-- A piece made ready to be drawn from many times. -/
structure Urn where
  alphabet : Array CodePoint
  lower : Nat
  upper : Nat

/-- The urn of a piece. -/
def Urn.ofPiece (p : Pattern.Piece) : Urn := ⟨p.atom.alphabet.toArray, p.lower, p.upper⟩

section

variable {σ : Type} (source : Source σ)

/-- How often an urn is drawn from this time. Bounds that are the same take no decision. -/
def drawCount (u : Urn) (s : σ) : Nat × σ :=
  if u.lower = u.upper then (u.lower, s) else source.between u.lower u.upper s

/-- Draws a number of code points; `drawn` holds those before them, last first. -/
def drawFrom (alphabet : Array CodePoint) (drawn : Text) : Nat → σ → Text × σ
  | 0, s => (drawn, s)
  | n + 1, s =>
    let (c, s) := source.choose alphabet s
    drawFrom alphabet (c :: drawn) n s

/-- Draws from urns in order; `drawn` holds what came before, last first. -/
def drawAll (drawn : Text) : List Urn → σ → Text × σ
  | [], s => (drawn, s)
  | u :: rest, s =>
    let (n, s) := drawCount source u s
    let (drawn, s) := drawFrom source u.alphabet drawn n s
    drawAll drawn rest s

/-- One key. -/
def drawKey (urns : List Urn) (s : σ) : Text × σ :=
  let (drawn, s) := drawAll source [] urns s
  (drawn.reverse, s)

/-- A number of keys; `keys` holds those before them, last first. -/
def drawKeys (urns : List Urn) (keys : List Text) : Nat → σ → List Text × σ
  | 0, s => (keys.reverse, s)
  | n + 1, s =>
    let (key, s) := drawKey source urns s
    drawKeys urns (key :: keys) n s

/-- One key of the given pieces. -/
def generateOne (pieces : List Pattern.Piece) (s : σ) : Text × σ :=
  drawKey source (pieces.map Urn.ofPiece) s

/-! ### One step of each run -/

variable {source}

theorem drawFrom_succ (alphabet : Array CodePoint) (drawn : Text) (n : Nat) (s : σ) :
    drawFrom source alphabet drawn (n + 1) s =
      drawFrom source alphabet ((source.choose alphabet s).1 :: drawn) n
        (source.choose alphabet s).2 :=
  rfl

theorem drawAll_cons (drawn : Text) (u : Urn) (rest : List Urn) (s : σ) :
    drawAll source drawn (u :: rest) s =
      drawAll source
        (drawFrom source u.alphabet drawn (drawCount source u s).1 (drawCount source u s).2).1 rest
        (drawFrom source u.alphabet drawn (drawCount source u s).1 (drawCount source u s).2).2 :=
  rfl

theorem drawKeys_succ (urns : List Urn) (keys : List Text) (n : Nat) (s : σ) :
    drawKeys source urns keys (n + 1) s =
      drawKeys source urns ((drawKey source urns s).1 :: keys) n (drawKey source urns s).2 :=
  rfl

end

/-- The greatest number of keys that are generated at once. -/
def maxCount : Nat := 50000

/-- A number from 0 to `maxCount`. -/
def clampInt (n : Int) : Nat := min maxCount n.toNat

/-- The number of keys that a value asks for: its floor, from 0 to `maxCount`. What is no number
asks for none. -/
def clampCount : Value → Nat
  | .int n => clampInt n
  | .real x =>
    match Binary64.floor? x with
    | some n => clampInt n
    | none => if x.isInf && !Binary64.isNegative x then maxCount else 0
  | _ => 0

/-- Keys of the given pieces, as many as a count asks for. -/
def generateMany {σ : Type} (source : Source σ) (pieces : List Pattern.Piece) (count : Value)
    (s : σ) : List Text × σ :=
  drawKeys source (pieces.map Urn.ofPiece) [] (clampCount count) s

/-- The keys of a pattern, as many as a count asks for. A pattern that does not parse takes no
decision. -/
def generate {σ : Type} (source : Source σ) (pattern : Text) (count : Value) (s : σ) :
    Except Error (List Text) × σ :=
  match Pattern.parse pattern with
  | .error fault => (.error (.pattern fault), s)
  | .ok pieces =>
    let (keys, s) := generateMany source pieces count s
    (.ok keys, s)

end Keyspace.Sampling
