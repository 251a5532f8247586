import Keyspace.Pattern.Parser

/-!
Patterns read by places.

The readers hold the text that is left, so nothing of them can leave the pattern. A walker stands at
a place of the pattern instead. It knows no more of it than it asks for: it can test for the end,
look at a code point some way on, go on, and refuse. All that is noted, before a fault as well, and
each pass of a loop with the places that it led from and to. Nothing keeps a walker from looking
past the end, and a loop that stays where it is would go on for ever, so it is given up.

The notes leave nothing out (`Walker.Accounts`): what a walker answers depends on no code point that
it is not noted to have looked at, and it stands where it is noted to have gone last.

    a [ b - d ] { 2 }        items     0 ──▶ 1 ──▶ 9 = length
    0 1 2 3 4 5 6 7 8        members   2 ──▶ 5 ──▶ 6
                             digits    7 ──▶ 8
-/

namespace Keyspace.Pattern

/-- The loops of the reading. -/
inductive LoopName where
  | items
  | members
  | digits
  deriving DecidableEq

/-- One thing that is done on the way. -/
inductive Event where
  /-- The code point at the place is looked at. -/
  | look (place : Nat)
  /-- The walker goes to the place. -/
  | move (place : Nat)
  /-- A pass of a loop has come to its end. -/
  | pass (loop : LoopName) (start stop : Nat)
  deriving DecidableEq

/-- Why there is no answer. -/
inductive Stop where
  /-- The pattern is refused. -/
  | fault (f : Fault)
  /-- There is no code point at the place looked at. -/
  | outside (place : Nat)
  /-- The loop was passed more often than there are code points. -/
  | endless (loop : LoopName)
  deriving DecidableEq

/-- What was done, and the answer with the place at the end of the way. -/
structure Walk (α : Type) where
  events : List Event
  answer : Except Stop (α × Nat)

/-- The way that is taken through a pattern from a place of it. -/
def Walker (α : Type) := Text → Nat → Walk α

instance : Monad Walker where
  pure a := fun _ q => ⟨[], .ok (a, q)⟩
  bind m k := fun p q =>
    match (m p q).answer with
    | .error stop => ⟨(m p q).events, .error stop⟩
    | .ok (a, next) => ⟨(m p q).events ++ (k a p next).events, (k a p next).answer⟩

/-! ### What a walker can do -/

namespace Walker

variable {α : Type}

/-- The place where the walker stands. -/
def place : Walker Nat := fun _ q => ⟨[], .ok (q, q)⟩

/-- Whether the pattern has no code point `k` places on. -/
def atEnd (k : Nat) : Walker Bool := fun p q => ⟨[], .ok (decide (p.length ≤ q + k), q)⟩

/-- The code point `k` places on. -/
def look (k : Nat) : Walker CodePoint := fun p q =>
  ⟨[.look (q + k)],
    match p[q + k]? with
    | none => .error (.outside (q + k))
    | some c => .ok (c, q)⟩

/-- Goes `k` places on. -/
def advance (k : Nat) : Walker Unit := fun _ q => ⟨[.move (q + k)], .ok ((), q + k)⟩

/-- Refuses the pattern for a cause at the offset `o`. -/
def refuse (cause : Cause) (o : Nat) : Walker α := fun _ _ => ⟨[], .error (.fault ⟨cause, o⟩)⟩

/-- Notes a pass of a loop that was begun at a place. -/
def passed (loop : LoopName) (start : Nat) : Walker Unit := fun _ q =>
  ⟨[.pass loop start q], .ok ((), q)⟩

end Walker

/-- A loop: while the test holds, the body goes on with another state or comes to an answer. -/
structure Loop (σ α : Type) where
  name : LoopName
  test : Walker Bool
  body : σ → Walker (σ ⊕ α)
  exit : σ → Walker α

namespace Loop

variable {σ α : Type}

/-- The loop, given up after `n` passes. -/
def passes (l : Loop σ α) : Nat → σ → Walker α
  | 0, _ => fun _ _ => ⟨[], .error (.endless l.name)⟩
  | n + 1, s => do
    if ← l.test then
      let start ← Walker.place
      let next ← l.body s
      Walker.passed l.name start
      match next with
      | .inl s => l.passes n s
      | .inr a => return a
    else l.exit s

/-- The loop, given up only if it is passed more often than the pattern has code points. -/
def run (l : Loop σ α) (s : σ) : Walker α := fun p => l.passes (p.length + 1) s p

end Loop

namespace Walker

/-- Whether there is a code point here. -/
def more : Walker Bool := do return !(← atEnd 0)

/-- The code point `k` places on, if the pattern goes on so far. -/
def peek (k : Nat) : Walker (Option CodePoint) := do
  if ← atEnd k then return none
  else return some (← look k)

/-! ### The readers by places -/

/-- Goes over an escape. -/
def escape : Walker Atom := do
  let start ← place
  advance 1
  if ← atEnd 0 then refuse .unfinishedEscape start
  else
    let c ← look 0
    advance 1
    return escapeAtom c

/-- Whether a range begins here: a hyphen is next, and then a code point that is not the end of the
    class. -/
def atRange : Walker Bool := do
  if ← atEnd 2 then return false
  else
    let hyphen ← peek 1
    if hyphen = some (cp '-') then
      let last ← peek 2
      return last ≠ some (cp ']')
    else return false

/-- Goes over the next member of a class, or its end; what was found is held last first. -/
def member (opened : Nat) (found : Text) : Walker (Text ⊕ Text) := do
  let c ← look 0
  if c = cp ']' then
    if found.isEmpty then refuse .emptyClass opened
    else
      advance 1
      return .inr found.reverse
  else if c = cp '\\' then
    advance 1
    if ← atEnd 0 then
      let q ← place
      refuse .unfinishedEscape (q - 1)
    else
      let e ← look 0
      advance 1
      return .inl (e :: found)
  else if ← atRange then
    let last ← look 2
    if last < c then
      let q ← place
      refuse (.reversedRange c last) q
    else
      advance 3
      return .inl ((expandRange c last).reverse ++ found)
  else
    advance 1
    return .inl (c :: found)

/-- Goes over the members of a class. -/
def members (opened : Nat) : Loop Text Text where
  name := .members
  test := more
  body := member opened
  exit _ := refuse .unclosedClass opened

/-- Goes over a class. -/
def charClass : Walker Atom := do
  let start ← place
  advance 1
  let first ← peek 0
  if first = some (cp '^') then
    let q ← place
    refuse .negatedClass q
  else
    let candidates ← (members start).run []
    return .charClass candidates

/-- Goes over an atom. -/
def atom : Walker Atom := do
  let c ← look 0
  if c = cp '[' then charClass
  else if c = cp '\\' then escape
  else if isQuantifierSign c then
    let q ← place
    refuse (.danglingQuantifier c) q
  else
    advance 1
    return .literal c

/-- Goes over digits, held last first. -/
def digits : Loop Text Text where
  name := .digits
  test := do
    let next ← peek 0
    return next.any Text.isDigit
  body found := do
    let d ← look 0
    advance 1
    return .inl (d :: found)
  exit found := return found.reverse

/-- Goes over a number, if there is one. -/
def number : Walker (Option Nat) := do
  let found ← digits.run []
  return if found.isEmpty then none else some (boundedValue found)

/-- Goes over the numbers between braces. -/
def bounds : Walker (Option (Nat × Nat)) := do
  match ← number with
  | none => return none
  | some lower =>
    let comma ← peek 0
    if comma = some (cp ',') then
      advance 1
      let upper ← number
      return some (lower, upper.getD (lower + openSpan))
    else return some (lower, lower)

/-- Goes over a quantifier in braces. -/
def braces : Walker (Nat × Nat) := do
  let start ← place
  advance 1
  match ← bounds with
  | none => refuse .missingNumber start
  | some (lower, upper) =>
    let close ← peek 0
    if close ≠ some (cp '}') then
      let q ← place
      refuse .missingBrace q
    else
      advance 1
      if upper < lower then refuse (.reversedBounds lower upper) start
      else if maxRepeat < upper then refuse .tooManyRepeats start
      else return (lower, upper)

/-- Goes over a quantifier, if there is one. -/
def quantifier : Walker (Nat × Nat) := do
  let sign ← peek 0
  if sign = some (cp '?') then
    advance 1
    return (0, 1)
  else if sign = some (cp '+') then
    advance 1
    return (1, openSpan)
  else if sign = some (cp '*') then
    advance 1
    return (0, openSpan)
  else if sign = some (cp '{') then braces
  else return (1, 1)

/-- Goes over an atom and its quantifier. -/
def piece : Walker Piece := do
  let a ← atom
  let (lower, upper) ← quantifier
  return ⟨a, lower, upper⟩

/-- Goes over an item; the pieces found are held last first. -/
def item (found : List Piece) : Walker (List Piece ⊕ List Piece) := do
  let c ← look 0
  if isAnchor c then
    advance 1
    return .inl found
  else
    let p ← piece
    return .inl (p :: found)

/-- Goes over the items of a pattern. -/
def items : Loop (List Piece) (List Piece) where
  name := .items
  test := more
  body := item
  exit found := return found.reverse

/-- Looks at `n` code points from the `k`-th on for one that no pattern may hold. -/
def scan : Nat → Nat → Walker Unit
  | 0, _ => pure ()
  | n + 1, k => do
    let c ← look k
    if isUnsupported c then refuse .group k
    else scan n (k + 1)

end Walker

/-- The way that is taken through a whole pattern: first it is looked over without going on. -/
def walk (p : Text) : Walk (List Piece) :=
  (do
    Walker.scan p.length 0
    Walker.items.run []) p 0

/-! ### What the notes account for -/

/-- Where a walker stands that started at `q`, by its notes. -/
def standing (q : Nat) (events : List Event) : Nat :=
  events.foldl (fun q e => match e with
    | .move next => next
    | _ => q) q

theorem standing_append (q : Nat) (es es' : List Event) :
    standing q (es ++ es') = standing (standing q es) es' :=
  List.foldl_append

/-- Nothing is left out of the notes: a pattern of the same length that is the same at the places
    looked at is walked the same way, and the walker stands where the notes tell. -/
structure Walker.Accounts {α : Type} (m : Walker α) : Prop where
  looks : ∀ {p p' : Text} {q : Nat}, p'.length = p.length →
    (∀ i, .look i ∈ (m p q).events → p'[i]? = p[i]?) → m p' q = m p q
  stands : ∀ {p : Text} {q next : Nat} {a : α}, (m p q).answer = .ok (a, next) →
    next = standing q (m p q).events

namespace Walker

variable {α β σ : Type}

/-- A walker that asks for nothing but its place. -/
theorem accounts_still (answer : Nat → Except Stop α) :
    Accounts fun _ q => ⟨[], (answer q).map (·, q)⟩ where
  looks _ _ := rfl
  stands {p q next a} h := by
    simp only at h
    cases hanswer : answer q with
    | error stop => rw [hanswer] at h; cases h
    | ok b => rw [hanswer] at h; cases h; rfl

theorem accounts_pure (a : α) : Accounts (pure a) :=
  accounts_still fun _ => .ok a

theorem accounts_place : Accounts place :=
  accounts_still fun q => .ok q

theorem accounts_refuse (cause : Cause) (o : Nat) : Accounts (refuse cause o : Walker α) :=
  accounts_still fun _ => .error (.fault ⟨cause, o⟩)

theorem accounts_atEnd (k : Nat) : Accounts (atEnd k) where
  looks hlen _ := by simp only [atEnd, hlen]
  stands h := by cases h; rfl

theorem accounts_look (k : Nat) : Accounts (look k) where
  looks _ h := by simp only [look, h _ (List.mem_singleton_self _)]
  stands {p q next a} h := by
    simp only [look] at h
    split at h
    · cases h
    · cases h; rfl

theorem accounts_advance (k : Nat) : Accounts (advance k) where
  looks _ _ := rfl
  stands h := by cases h; rfl

theorem bind_of_error {m : Walker α} {k : α → Walker β} {p : Text} {q : Nat} {stop : Stop}
    (h : (m p q).answer = .error stop) : (m >>= k) p q = ⟨(m p q).events, .error stop⟩ := by
  simp only [Bind.bind, h]

theorem bind_of_ok {m : Walker α} {k : α → Walker β} {p : Text} {q next : Nat} {a : α}
    (h : (m p q).answer = .ok (a, next)) :
    (m >>= k) p q = ⟨(m p q).events ++ (k a p next).events, (k a p next).answer⟩ := by
  simp only [Bind.bind, h]

theorem accounts_bind {m : Walker α} {k : α → Walker β} (hm : Accounts m)
    (hk : ∀ a, Accounts (k a)) : Accounts (m >>= k) where
  looks {p p' q} hlen h := by
    cases hanswer : (m p q).answer with
    | error stop =>
      rw [bind_of_error hanswer] at h ⊢
      have hsame := hm.looks hlen h
      rw [bind_of_error (by rw [hsame, hanswer]), hsame]
    | ok r =>
      obtain ⟨a, next⟩ := r
      rw [bind_of_ok hanswer] at h ⊢
      have hsame := hm.looks hlen fun i hi => h i (List.mem_append_left _ hi)
      have hsame' := (hk a).looks hlen fun i hi => h i (List.mem_append_right _ hi)
      rw [bind_of_ok (by rw [hsame, hanswer]), hsame, hsame']
  stands {p q last b} h := by
    cases hanswer : (m p q).answer with
    | error stop => rw [bind_of_error hanswer] at h; cases h
    | ok r =>
      obtain ⟨a, next⟩ := r
      rw [bind_of_ok hanswer] at h ⊢
      rw [standing_append, ← hm.stands hanswer]
      exact (hk a).stands h

theorem accounts_passed (loop : LoopName) (start : Nat) : Accounts (passed loop start) where
  looks _ _ := rfl
  stands h := by cases h; rfl

theorem accounts_passes {l : Loop σ α} (htest : Accounts l.test) (hbody : ∀ s, Accounts (l.body s))
    (hexit : ∀ s, Accounts (l.exit s)) (n : Nat) (s : σ) : Accounts (l.passes n s) := by
  induction n generalizing s with
  | zero => exact accounts_still fun _ => .error (.endless l.name)
  | succ n ih =>
    refine accounts_bind htest fun on => ?_
    split
    · refine accounts_bind accounts_place fun start => accounts_bind (hbody s) fun next => ?_
      refine accounts_bind (accounts_passed _ _) fun _ => ?_
      cases next with
      | inl s => exact ih s
      | inr a => exact accounts_pure a
    · exact hexit s

theorem accounts_run {l : Loop σ α} (htest : Accounts l.test) (hbody : ∀ s, Accounts (l.body s))
    (hexit : ∀ s, Accounts (l.exit s)) (s : σ) : Accounts (l.run s) where
  looks {p p' q} hlen h := by
    have hpasses := accounts_passes htest hbody hexit (p.length + 1) s
    rw [Loop.run, hlen]
    exact hpasses.looks hlen h
  stands h := (accounts_passes htest hbody hexit _ s).stands h

theorem accounts_more : Accounts more :=
  accounts_bind (accounts_atEnd 0) fun _ => accounts_pure _

theorem accounts_peek (k : Nat) : Accounts (peek k) := by
  refine accounts_bind (accounts_atEnd k) fun _ => ?_
  split
  · exact accounts_pure _
  · exact accounts_bind (accounts_look k) fun _ => accounts_pure _

theorem accounts_advance_pure (k : Nat) (a : α) : Accounts (do advance k; return a) :=
  accounts_bind (accounts_advance k) fun _ => accounts_pure a

theorem accounts_refuse_here {cause : Cause} {o : Nat → Nat} :
    Accounts (do let q ← place; refuse cause (o q) : Walker α) :=
  accounts_bind accounts_place fun q => accounts_refuse cause (o q)

theorem accounts_escape : Accounts escape := by
  refine accounts_bind accounts_place fun start => accounts_bind (accounts_advance 1) fun _ => ?_
  refine accounts_bind (accounts_atEnd 0) fun _ => ?_
  split
  · exact accounts_refuse _ _
  · exact accounts_bind (accounts_look 0) fun c => accounts_advance_pure 1 _

theorem accounts_atRange : Accounts atRange := by
  refine accounts_bind (accounts_atEnd 2) fun _ => ?_
  split
  · exact accounts_pure _
  refine accounts_bind (accounts_peek 1) fun hyphen => ?_
  split
  · exact accounts_bind (accounts_peek 2) fun last => accounts_pure _
  · exact accounts_pure _

theorem accounts_member (opened : Nat) (found : Text) : Accounts (member opened found) := by
  refine accounts_bind (accounts_look 0) fun c => ?_
  split
  · split
    · exact accounts_refuse _ _
    · exact accounts_advance_pure 1 _
  split
  · refine accounts_bind (accounts_advance 1) fun _ => accounts_bind (accounts_atEnd 0) fun _ => ?_
    split
    · exact accounts_refuse_here
    · exact accounts_bind (accounts_look 0) fun e => accounts_advance_pure 1 _
  refine accounts_bind accounts_atRange fun _ => ?_
  split
  · refine accounts_bind (accounts_look 2) fun last => ?_
    split
    · exact accounts_refuse_here
    · exact accounts_advance_pure 3 _
  · exact accounts_advance_pure 1 _

theorem accounts_charClass : Accounts charClass := by
  refine accounts_bind accounts_place fun start => accounts_bind (accounts_advance 1) fun _ => ?_
  refine accounts_bind (accounts_peek 0) fun first => ?_
  split
  · exact accounts_refuse_here
  · refine accounts_bind ?_ fun candidates => accounts_pure _
    exact accounts_run accounts_more (accounts_member start) (fun _ => accounts_refuse _ _) _

theorem accounts_atom : Accounts atom := by
  refine accounts_bind (accounts_look 0) fun c => ?_
  split
  · exact accounts_charClass
  split
  · exact accounts_escape
  split
  · exact accounts_refuse_here
  · exact accounts_advance_pure 1 _

theorem accounts_number : Accounts number := by
  refine accounts_bind (accounts_run ?_ ?_ ?_ _) fun found => accounts_pure _
  · exact accounts_bind (accounts_peek 0) fun next => accounts_pure _
  · exact fun found => accounts_bind (accounts_look 0) fun d => accounts_advance_pure 1 _
  · exact fun found => accounts_pure _

theorem accounts_bounds : Accounts bounds := by
  refine accounts_bind accounts_number fun lower => ?_
  cases lower with
  | none => exact accounts_pure _
  | some lower =>
    refine accounts_bind (accounts_peek 0) fun comma => ?_
    split
    · refine accounts_bind (accounts_advance 1) fun _ => ?_
      exact accounts_bind accounts_number fun upper => accounts_pure _
    · exact accounts_pure _

theorem accounts_braces : Accounts braces := by
  refine accounts_bind accounts_place fun start => accounts_bind (accounts_advance 1) fun _ => ?_
  refine accounts_bind accounts_bounds fun bounds => ?_
  cases bounds with
  | none => exact accounts_refuse _ _
  | some bounds =>
    refine accounts_bind (accounts_peek 0) fun close => ?_
    split
    · exact accounts_refuse_here
    refine accounts_bind (accounts_advance 1) fun _ => ?_
    split
    · exact accounts_refuse _ _
    split
    · exact accounts_refuse _ _
    · exact accounts_pure _

theorem accounts_quantifier : Accounts quantifier := by
  refine accounts_bind (accounts_peek 0) fun sign => ?_
  split
  · exact accounts_advance_pure 1 _
  split
  · exact accounts_advance_pure 1 _
  split
  · exact accounts_advance_pure 1 _
  split
  · exact accounts_braces
  · exact accounts_pure _

theorem accounts_item (found : List Piece) : Accounts (item found) := by
  refine accounts_bind (accounts_look 0) fun c => ?_
  split
  · exact accounts_advance_pure 1 _
  · refine accounts_bind ?_ fun p => accounts_pure _
    exact accounts_bind accounts_atom fun a => accounts_bind accounts_quantifier fun b =>
      accounts_pure _

theorem accounts_scan (n k : Nat) : Accounts (scan n k) := by
  induction n generalizing k with
  | zero => exact accounts_pure _
  | succ n ih =>
    refine accounts_bind (accounts_look k) fun c => ?_
    split
    · exact accounts_refuse _ _
    · exact ih (k + 1)

theorem accounts_pattern (n : Nat) : Accounts (do scan n 0; items.run []) :=
  accounts_bind (accounts_scan n 0) fun _ =>
    accounts_run accounts_more accounts_item (fun _ => accounts_pure _) _

end Walker

end Keyspace.Pattern
