import Keyspace.Operation
import Keyspace.Proofs.Pattern.Reading

/-!
A fault is reported where its cause stands.

Every reader starts in the pattern: its offset is not past the end, and what is left to be read is
what stands there (`Cursor.In`). What an item takes leads from one such cursor to the next, so the
positions that readers report are positions in the whole pattern, and what made a reader stop is
seen there (`Cause.SeenAt`); what callers are told is the kind of the cause (`StandsAt`).

    ab[c-a]     a{12,x     a{3,2}     ab[c       ab\
       ^             ^      ^           ^          ^
    range       no brace   bounds     no end     no sign
-/

namespace Keyspace.Pattern

open NumberReader

/-! ### Cursors in a pattern -/

/-- The cursor stands in the pattern, before what is left of it. -/
structure Cursor.In (p : Text) (c : Cursor) : Prop where
  offset_le : c.offset ≤ p.length
  drop_eq : p.drop c.offset = c.rest

theorem Cursor.in_start (p : Text) : (Cursor.mk 0 p).In p := ⟨Nat.zero_le _, rfl⟩

theorem Cursor.In.getElem?_add {p : Text} {c : Cursor} (h : c.In p) (k : Nat) :
    p[c.offset + k]? = c.rest[k]? := by
  rw [← h.drop_eq, List.getElem?_drop]

theorem Cursor.In.length_eq {p : Text} {c : Cursor} (h : c.In p) :
    p.length = c.offset + c.rest.length := by
  have hle := h.offset_le
  rw [← h.drop_eq, List.length_drop]
  omega

/-- A cursor that is further on by what it took stands in the pattern as well. -/
theorem Cursor.In.behind {p t : Text} {c next : Cursor} (h : c.In p)
    (hrest : c.rest = t ++ next.rest) (hoffset : next.offset = c.offset + t.length) :
    next.In p := by
  have hlen := h.length_eq
  rw [hrest, List.length_append] at hlen
  refine ⟨by omega, ?_⟩
  rw [hoffset, ← List.drop_drop, h.drop_eq, hrest, List.drop_left]

/-- What was taken ends where the cursor behind it stands. -/
theorem Cursor.In.take_behind {p t : Text} {c next : Cursor} (h : c.In p)
    (hrest : c.rest = t ++ next.rest) (hoffset : next.offset = c.offset + t.length) :
    p.take next.offset = p.take c.offset ++ t := by
  rw [hoffset, List.take_add, h.drop_eq, hrest, List.take_left]

theorem in_of_readAtom {p : Text} {o : Nat} {c : CodePoint} {rest : Text} {atom : Atom}
    {next : Cursor} (hc : isAnchor c = false) (hin : Cursor.In p ⟨o, c :: rest⟩)
    (h : readAtom o c rest = .ok (atom, next)) : next.In p := by
  obtain ⟨a, _, hrest, hoffset⟩ := writes_of_readAtom hc h
  exact hin.behind hrest hoffset

theorem in_of_readItem {p : Text} {c next : Cursor} {piece : Option Piece} (hin : c.In p)
    (h : bounded.readItem c = .ok (some (piece, next))) : next.In p := by
  rcases item_of_readItem h with ⟨a, _, _, hrest, hoffset⟩ |
    ⟨a, q, _, _, _, _, _, _, hrest, hoffset⟩
  · exact hin.behind (t := [a]) hrest hoffset
  · exact hin.behind hrest hoffset

/-! ### What stands at a fault -/

/-- The numbers that a quantifier was begun with: digits, or digits, a comma and what digits there
    are behind it. -/
def Numbers (t : Text) : Prop :=
  ∃ digits, digits ≠ [] ∧ digits.all Text.isDigit ∧
    (t = digits ∨ ∃ more, more.all Text.isDigit ∧ t = digits ++ cp ',' :: more)

/-- What is seen at `q` in a pattern that is refused there for the cause. A class is told by its
    opening bracket, and a quantifier by its opening brace unless it lacks the closing one. -/
def Cause.SeenAt (p : Text) (q : Nat) : Cause → Prop
  | .group => ∃ c, p[q]? = some c ∧ isUnsupported c ∧ ∀ d ∈ p.take q, isUnsupported d = false
  | .negatedClass => ∃ o, q = o + 1 ∧ p[o]? = some (cp '[') ∧ p[q]? = some (cp '^')
  | .emptyClass => p[q]? = some (cp '[') ∧ p[q + 1]? = some (cp ']')
  | .reversedRange first last => p[q]? = some first ∧ p[q + 1]? = some (cp '-') ∧
      p[q + 2]? = some last ∧ last ≠ cp ']' ∧ last < first
  | .unclosedClass => p[q]? = some (cp '[')
  | .unfinishedEscape => p[q]? = some (cp '\\') ∧ p.length = q + 1
  | .danglingQuantifier sign => p[q]? = some sign ∧ isQuantifierSign sign
  | .missingBrace => q ≤ p.length ∧ p[q]? ≠ some (cp '}') ∧
      ∃ before numbers, p.take q = before ++ cp '{' :: numbers ∧ Numbers numbers
  | .reversedBounds lower upper => p[q]? = some (cp '{') ∧ upper < lower
  | .missingNumber | .tooManyRepeats => p[q]? = some (cp '{')

theorem Cause.SeenAt.le_length {p : Text} {q : Nat} {cause : Cause} (h : cause.SeenAt p q) :
    q ≤ p.length := by
  have hlt {c : CodePoint} (hc : p[q]? = some c) : q ≤ p.length :=
    Nat.le_of_lt (List.getElem?_eq_some_iff.1 hc).1
  cases cause with
  | group => obtain ⟨_, hq, _⟩ := h; exact hlt hq
  | negatedClass => obtain ⟨_, _, _, hq⟩ := h; exact hlt hq
  | emptyClass => exact hlt h.1
  | reversedRange first last => exact hlt h.1
  | unclosedClass => exact hlt h
  | unfinishedEscape => exact hlt h.1
  | danglingQuantifier sign => exact hlt h.1
  | missingNumber => exact hlt h
  | missingBrace => exact h.1
  | reversedBounds lower upper => exact hlt h.1
  | tooManyRepeats => exact hlt h

theorem numbers_of_braced {t : Text} {lower upper : Nat} (h : Braced t lower upper) :
    Numbers t := by
  cases h with
  | exactly hne ht => exact ⟨_, hne, ht, Or.inl rfl⟩
  | atLeast hne ht => exact ⟨_, hne, ht, Or.inr ⟨[], rfl, rfl⟩⟩
  | between hne ht _ hu => exact ⟨_, hne, ht, Or.inr ⟨_, hu, rfl⟩⟩

/-! ### Every reader reports in its place -/

/-- In a class that was opened at `opened`; nothing is found only right behind the bracket. -/
theorem seenAt_of_readMembers {p : Text} {opened : Nat} {found : Text} {o : Nat} {t : Text}
    {f : Fault} (hopened : p[opened]? = some (cp '[')) (hfound : found ≠ [] ∨ o = opened + 1)
    (hin : Cursor.In p ⟨o, t⟩) (h : readMembers opened found o t = .error f) :
    f.cause.SeenAt p f.position := by
  fun_induction readMembers opened found o t with
  | case1 => cases h; exact hopened
  | case2 found o rest hf =>
    cases h
    obtain rfl := hfound.resolve_left (absurd (List.isEmpty_iff.1 hf))
    exact ⟨hopened, hin.getElem?_add 0⟩
  | case3 => cases h
  | case4 found o h₁ =>
    cases h
    exact ⟨hin.getElem?_add 0, hin.length_eq⟩
  | case5 found o e rest h₁ ih =>
    exact ih (Or.inl (List.cons_ne_nil _ _)) (hin.behind (t := [cp '\\', e]) rfl rfl) h
  | case6 found o c h₁ h₂ ih =>
    exact ih (Or.inl (List.cons_ne_nil _ _)) (hin.behind (t := [c]) rfl rfl) h
  | case7 found o c h₁ h₂ d ih =>
    exact ih (Or.inl (List.cons_ne_nil _ _)) (hin.behind (t := [c]) rfl rfl) h
  | case8 found o c h₁ h₂ d last rest hr hlt =>
    cases h
    rw [Bool.and_eq_true, decide_eq_true_eq, bne_iff_ne] at hr
    obtain ⟨rfl, hlast⟩ := hr
    exact ⟨hin.getElem?_add 0, hin.getElem?_add 1, hin.getElem?_add 2, hlast, hlt⟩
  | case9 found o c h₁ h₂ d last rest hr hle ih =>
    have hne : (expandRange c last).reverse ++ found ≠ [] := by
      simp [expandRange_ne_nil (Nat.not_lt.1 hle)]
    exact ih (Or.inl hne) (hin.behind (t := [c, d, last]) rfl rfl) h
  | case10 found o c h₁ h₂ d last rest hr ih =>
    exact ih (Or.inl (List.cons_ne_nil _ _)) (hin.behind (t := [c]) rfl rfl) h

theorem seenAt_of_readAtom {p : Text} {o : Nat} {c : CodePoint} {rest : Text} {f : Fault}
    (hin : Cursor.In p ⟨o, c :: rest⟩) (h : readAtom o c rest = .error f) :
    f.cause.SeenAt p f.position := by
  have hfirst : p[o]? = some c := hin.getElem?_add 0
  unfold readAtom at h
  split at h
  · next hc =>
    subst hc
    split at h
    · next hneg =>
      cases h
      have hsecond : p[o + 1]? = rest[0]? := hin.getElem?_add 1
      exact ⟨o, rfl, hfirst, by rw [hsecond, ← List.head?_eq_getElem?, hneg]⟩
    split at h
    · next hm =>
      cases h
      exact seenAt_of_readMembers hfirst (Or.inr rfl) (hin.behind (t := [cp '[']) rfl rfl) hm
    · cases h
  split at h
  · next hc =>
    subst hc
    split at h
    · cases h; exact ⟨hfirst, hin.length_eq⟩
    · cases h
  split at h
  · next hsign => cases h; exact ⟨hfirst, hsign⟩
  · cases h

/-- Only what begins with an opening brace can be a faulty quantifier. -/
theorem exists_brace_of_readQuantifier {c : Cursor} {f : Fault}
    (h : bounded.readQuantifier c = .error f) :
    ∃ s, c.rest = cp '{' :: s := by
  unfold readQuantifier at h
  split at h
  · cases h
  next sign s hs =>
  split at h
  · cases h
  split at h
  · cases h
  split at h
  · cases h
  split at h
  · next hb => exact ⟨s, by rw [hs, hb]⟩
  · cases h

theorem seenAt_of_readQuantifier {p : Text} {c : Cursor} {f : Fault} (hin : c.In p)
    (h : bounded.readQuantifier c = .error f) : f.cause.SeenAt p f.position := by
  obtain ⟨s, hs⟩ := exists_brace_of_readQuantifier h
  obtain ⟨o, rest⟩ := c
  subst hs
  have hfirst : p[o]? = some (cp '{') := hin.getElem?_add 0
  rw [readQuantifier_brace] at h
  cases hb : bounded.readBounds ⟨o + 1, s⟩ with
  | none => rw [hb] at h; cases h; exact hfirst
  | some r =>
    obtain ⟨lower, upper, next⟩ := r
    obtain ⟨numbers, hnumbers, hrest, hoffset⟩ := braced_of_readBounds hb
    have hrest : cp '{' :: s = (cp '{' :: numbers) ++ next.rest := congrArg (cp '{' :: ·) hrest
    have hoffset : next.offset = o + (cp '{' :: numbers).length :=
      hoffset.trans (Nat.add_right_comm o 1 numbers.length)
    have hnext : next.In p := hin.behind hrest hoffset
    rw [hb] at h
    simp only at h
    split at h
    · next hclose =>
      cases h
      have hfollowing : p[next.offset]? = next.rest.head? := by
        rw [List.head?_eq_getElem?]
        exact hnext.getElem?_add 0
      exact ⟨hnext.offset_le, by rwa [hfollowing], p.take o, numbers,
        hin.take_behind hrest hoffset, numbers_of_braced hnumbers⟩
    split at h
    · next hlt => cases h; exact ⟨hfirst, hlt⟩
    split at h
    · cases h; exact hfirst
    · cases h

theorem seenAt_of_readItem {p : Text} {c : Cursor} {f : Fault} (hin : c.In p)
    (h : bounded.readItem c = .error f) : f.cause.SeenAt p f.position := by
  obtain ⟨o, s⟩ := c
  cases s with
  | nil => cases h
  | cons first rest =>
    simp only [readItem] at h
    split at h
    · cases h
    next hfirst =>
    split at h
    · next hatom => cases h; exact seenAt_of_readAtom hin hatom
    next hatom =>
    split at h
    · next hquant =>
      cases h
      have hnext := in_of_readAtom (by simpa using hfirst) hin hatom
      exact seenAt_of_readQuantifier hnext hquant
    · cases h

/-- Items are read in the pattern from the start to the fault. -/
theorem seenAt_of_readItems {p : Text} {found : List Piece} {c : Cursor} {f : Fault}
    (hin : c.In p) (h : bounded.readItems found c = .error f) : f.cause.SeenAt p f.position := by
  fun_induction bounded.readItems found c with
  | case1 found c fault hitem => cases h; exact seenAt_of_readItem hin hitem
  | case2 => cases h
  | case3 found c piece next hitem ih => exact ih (in_of_readItem hin hitem) h

/-! ### Patterns -/

/-- A code point that no pattern may hold is reported where it stands first, whatever else is wrong
    with the pattern. -/
theorem parse_unsupported {before after : Text} {c : CodePoint}
    (hbefore : ∀ d ∈ before, isUnsupported d = false) (hc : isUnsupported c) :
    parse (before ++ c :: after) = .error ⟨.group, before.length⟩ := by
  have hfirst : (before ++ c :: after).findIdx? isUnsupported = some before.length := by
    rw [List.findIdx?_append, List.findIdx?_eq_none_iff.2 hbefore, Option.none_or,
      List.findIdx?_cons, if_pos hc, Option.map_some, Nat.zero_add]
  exact parse_of_unsupported hfirst

theorem seenAt_of_parse {p : Text} {f : Fault} (h : parse p = .error f) :
    f.cause.SeenAt p f.position := by
  cases hfind : p.findIdx? isUnsupported with
  | some i =>
    rw [parse_of_unsupported hfind] at h
    cases h
    obtain ⟨hi, hc, hbefore⟩ := List.findIdx?_eq_some_iff_getElem.1 hfind
    refine ⟨p[i], List.getElem?_eq_getElem hi, hc, fun d hd => ?_⟩
    obtain ⟨j, hj, rfl⟩ := List.mem_take_iff_getElem.1 hd
    simpa using hbefore j (lt_of_lt_of_le hj (Nat.min_le_left i p.length))
  | none =>
    rw [parse_of_supported hfind] at h
    exact seenAt_of_readItems (Cursor.in_start p) h

/-! ### Kinds of errors -/

/-- The kinds of error that a pattern is refused for. -/
def faultKinds : List ErrorKind :=
  [.unsupportedSyntax, .emptyCharClass, .invalidRange, .unterminatedCharClass, .unterminatedEscape,
    .danglingQuantifier, .invalidQuantifier]

theorem kind_mem_faultKinds (cause : Cause) : cause.kind ∈ faultKinds := by
  cases cause <;> simp [Cause.kind, faultKinds]

/-- What stands at `q` in a pattern without groups and alternatives that is refused there for an
    error of the kind. -/
def StandsAt (p : Text) (q : Nat) : ErrorKind → Prop
  | .unsupportedSyntax => ∃ o, q = o + 1 ∧ p[o]? = some (cp '[') ∧ p[q]? = some (cp '^')
  | .danglingQuantifier => ∃ sign, p[q]? = some sign ∧ isQuantifierSign sign
  | .emptyCharClass => p[q]? = some (cp '[') ∧ p[q + 1]? = some (cp ']')
  | .invalidRange => ∃ first last, p[q]? = some first ∧ p[q + 1]? = some (cp '-') ∧
      p[q + 2]? = some last ∧ last ≠ cp ']' ∧ last < first
  | .unterminatedCharClass => p[q]? = some (cp '[')
  | .unterminatedEscape => p[q]? = some (cp '\\') ∧ p.length = q + 1
  | .invalidQuantifier => p[q]? = some (cp '{') ∨
      p[q]? ≠ some (cp '}') ∧
        ∃ before numbers, p.take q = before ++ cp '{' :: numbers ∧ Numbers numbers
  | _ => False

theorem Cause.SeenAt.standsAt {p : Text} {q : Nat} {cause : Cause} (h : cause.SeenAt p q)
    (hp : ∀ c ∈ p, isUnsupported c = false) : StandsAt p q cause.kind := by
  cases cause with
  | group =>
    obtain ⟨c, hq, hc, _⟩ := h
    rw [hp c (List.mem_of_getElem? hq)] at hc
    cases hc
  | negatedClass => exact h
  | emptyClass => exact h
  | reversedRange first last => exact ⟨first, last, h⟩
  | unclosedClass => exact h
  | unfinishedEscape => exact h
  | danglingQuantifier sign => exact ⟨sign, h⟩
  | missingBrace => exact Or.inr h.2
  | missingNumber => exact Or.inl h
  | reversedBounds lower upper => exact Or.inl h.1
  | tooManyRepeats => exact Or.inl h

/-- A pattern that is refused is refused for an error of one of these kinds, at a position in it or
    at its end. Without a group or an alternative the cause stands there; with one, the first such
    code point is told, whatever else is wrong. -/
theorem compile_fault_located (p : Text) :
    (∀ e, (Operation.compile p).result = .error e →
      ∃ report, ∃ q : Nat, e.report? = some report ∧ report.kind ∈ faultKinds ∧
        report.position = some (q : Int) ∧ q ≤ p.length ∧
        ((∀ c ∈ p, isUnsupported c = false) → StandsAt p q report.kind)) ∧
      ∀ before c after, p = before ++ c :: after → (∀ d ∈ before, isUnsupported d = false) →
        isUnsupported c →
        ∃ e report, (Operation.compile p).result = .error e ∧ e.report? = some report ∧
          report.kind = .unsupportedSyntax ∧ report.position = some (before.length : Int) := by
  rw [Operation.compile_result]
  constructor
  · intro e he
    cases hparse : parse p with
    | ok pieces => rw [hparse] at he; cases he
    | error f =>
      rw [hparse] at he
      cases he
      have hseen := seenAt_of_parse hparse
      exact ⟨f.report, f.position, rfl, kind_mem_faultKinds f.cause, rfl, hseen.le_length,
        fun hp => hseen.standsAt hp⟩
  · rintro before c after rfl hbefore hc
    rw [parse_unsupported hbefore hc]
    exact ⟨_, _, rfl, rfl, rfl, rfl⟩

/-- A quantifier without its closing brace, and a group behind a range that is refused as well. -/
theorem compile_fault_located_brace :
    (Operation.compile (Text.lit "[a-c]\x7b12,x")).result =
        .error (.pattern ⟨.missingBrace, 9⟩) ∧
      StandsAt (Text.lit "[a-c]\x7b12,x") 9 .invalidQuantifier ∧
      ∃ e report, (Operation.compile (Text.lit "[z-a](+")).result = .error e ∧
        e.report? = some report ∧ report.kind = .unsupportedSyntax ∧ report.position = some 5 := by
  have h : (Operation.compile (Text.lit "[a-c]\x7b12,x")).result =
      .error (.pattern ⟨.missingBrace, 9⟩) := by cbv
  obtain ⟨report, q, hreport, _, hposition, _, hstands⟩ := (compile_fault_located _).1 _ h
  cases hreport
  obtain rfl : 9 = q := Int.ofNat.inj (Option.some.inj hposition)
  refine ⟨h, hstands (by decide), ?_⟩
  exact (compile_fault_located (Text.lit "[z-a](+")).2 (Text.lit "[z-a]") (cp '(') (Text.lit "+")
    rfl (by decide) rfl

end Keyspace.Pattern
