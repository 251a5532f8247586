import Keyspace.Proofs.Pattern.Positions
import Keyspace.Proofs.Pattern.Walker

/-!
Reading a pattern stays in the pattern, and every loop goes on.

This is shown walker by walker (`Follows`): started where a cursor stands, each answers what the
reader answers there, and on its way looks at nothing but code points of the pattern and goes no
further than to its end. A loop is shown to go from pass to pass (`Loop.Goes`), each further on than
the one before, so that it comes to an answer before it is given up.

    a { 1 2 , x         a [ b \             a [ b - d
    0 1 2 3 4 5         0 1 2 3             0 1 2 3 4
              │                 │                     │
    no brace at 5       4 is the end        5 is the end
-/

namespace Keyspace.Pattern

open NumberReader

/-! ### Cursors further on -/

section

variable {α : Type} {p : Text}

theorem Cursor.In.tail {q : Nat} {c : CodePoint} {t : Text}
    (h : Cursor.In p ⟨q, c :: t⟩) : Cursor.In p ⟨q + 1, t⟩ :=
  h.behind (t := [c]) rfl rfl

theorem Cursor.In.advance {c : Cursor} (h : c.In p) {n : Nat} (hn : n ≤ c.rest.length) :
    (c.advance n).In p :=
  h.behind (t := c.rest.take n) (List.take_append_drop n c.rest).symm
    (by rw [List.length_take_of_le hn]; rfl)

theorem in_of_readNumber {c : Cursor} (hin : c.In p) : (bounded.readNumber c).2.In p :=
  hin.advance (List.takeWhile_prefix Text.isDigit).length_le

theorem in_of_readBounds {c next : Cursor} {lower upper : Nat} (hin : c.In p)
    (h : bounded.readBounds c = some (lower, upper, next)) : next.In p := by
  obtain ⟨_, _, hrest, hoffset⟩ := braced_of_readBounds h
  exact hin.behind hrest hoffset

theorem rest_ne_nil_of_readItem {c : Cursor} (h : bounded.readItem c ≠ .ok none) : c.rest ≠ [] := by
  intro hrest
  refine h ?_
  rw [readItem, hrest]

theorem offset_lt_of_readItem {c next : Cursor} {piece : Option Piece} (hin : c.In p)
    (h : bounded.readItem c = .ok (some (piece, next))) : c.offset < next.offset := by
  have hlt := readItem_lt h
  have hlen := hin.length_eq
  have hlen' := (in_of_readItem hin h).length_eq
  simp only at hlt
  omega

/-- The answer of a reader with the place where its cursor stands. -/
def placed : Except Fault (α × Cursor) → Except Fault (α × Nat) :=
  Except.map fun r => (r.1, r.2.offset)

end

/-! ### Ways in the pattern -/

/-- What is looked at is there, no place is past the end, and a pass goes on. -/
def Event.Within (p : Text) : Event → Prop
  | .look q => q < p.length
  | .move q => q ≤ p.length
  | .pass _ start stop => start < stop

/-- The walk comes to the answer `r`, and on its way stays in the pattern. -/
structure Follows {α : Type} (p : Text) (w : Walk α) (r : Except Fault (α × Nat)) : Prop where
  answer : w.answer = r.mapError .fault
  events : ∀ e ∈ w.events, e.Within p

section

variable {α β σ : Type} {p : Text} {q next : Nat}

theorem Follows.pure (a : α) : Follows p ((Pure.pure a : Walker α) p q) (.ok (a, q)) :=
  ⟨rfl, List.forall_mem_nil _⟩

/-- One walk behind another. -/
theorem Follows.bind {m : Walker α} {k : α → Walker β} {a : α} {r : Except Fault (β × Nat)}
    (hm : Follows p (m p q) (.ok (a, next))) (hk : Follows p (k a p next) r) :
    Follows p ((m >>= k) p q) r := by
  have hanswer : (m p q).answer = .ok (a, next) := hm.answer
  rw [Walker.bind_of_ok hanswer]
  refine ⟨hk.answer, fun e he => ?_⟩
  rcases List.mem_append.1 he with he | he
  · exact hm.events e he
  · exact hk.events e he

/-- Nothing is done behind a fault. -/
theorem Follows.bind_error {m : Walker α} {k : α → Walker β} {f : Fault}
    (hm : Follows p (m p q) (.error f)) : Follows p ((m >>= k) p q) (.error f) := by
  have hanswer : (m p q).answer = .error (.fault f) := hm.answer
  rw [Walker.bind_of_error hanswer]
  exact ⟨rfl, hm.events⟩

namespace Walker

theorem follows_place : Follows p (place p q) (.ok (q, q)) :=
  ⟨rfl, List.forall_mem_nil _⟩

theorem follows_refuse (cause : Cause) (o : Nat) :
    Follows p ((refuse cause o : Walker α) p q) (.error ⟨cause, o⟩) :=
  ⟨rfl, List.forall_mem_nil _⟩

theorem follows_look {k : Nat} {c : CodePoint} (h : p[q + k]? = some c) :
    Follows p (look k p q) (.ok (c, q)) := by
  constructor
  case answer => simp only [look, h, Except.mapError]
  case events => exact List.forall_mem_singleton.2 (List.getElem?_eq_some_iff.1 h).1

theorem follows_advance {k : Nat} (h : q + k ≤ p.length) :
    Follows p (advance k p q) (.ok ((), q + k)) :=
  ⟨rfl, List.forall_mem_singleton.2 h⟩

variable {t : Text}

theorem follows_atEnd (hin : Cursor.In p ⟨q, t⟩) (k : Nat) :
    Follows p (atEnd k p q) (.ok (decide (t.length ≤ k), q)) := by
  have hend : (p.length ≤ q + k) = (t.length ≤ k) := by
    have hlen := hin.length_eq
    simp only at hlen
    rw [hlen, Nat.add_le_add_iff_left]
  constructor
  case answer => simp only [atEnd, hend, Except.mapError]
  case events => exact List.forall_mem_nil _

theorem follows_peek (hin : Cursor.In p ⟨q, t⟩) (k : Nat) :
    Follows p (peek k p q) (.ok (t[k]?, q)) := by
  refine (follows_atEnd hin k).bind ?_
  by_cases hk : t.length ≤ k
  · rw [decide_eq_true hk, if_pos rfl, List.getElem?_eq_none hk]
    exact .pure none
  · rw [decide_eq_false hk, if_neg nofun, List.getElem?_eq_getElem (Nat.lt_of_not_le hk)]
    have hc : p[q + k]? = some t[k] := by
      rw [hin.getElem?_add k]
      exact List.getElem?_eq_getElem _
    exact (follows_look hc).bind (.pure _)

theorem follows_passed {loop : LoopName} {start : Nat} (h : start < q) :
    Follows p (passed loop start p q) (.ok ((), q)) :=
  ⟨rfl, List.forall_mem_singleton.2 h⟩

theorem follows_more (hin : Cursor.In p ⟨q, t⟩) {r : Bool} (hr : (!t.isEmpty) = r) :
    Follows p (more p q) (.ok (r, q)) := by
  subst hr
  refine (follows_atEnd hin 0).bind ?_
  cases t with
  | nil => exact .pure _
  | cons c t => exact .pure _

end Walker

/-! ### Loops -/

/-- Passed from the place `q` on, the loop comes to the answer `r`. No pass stays where it is, and
    none leaves the pattern. -/
inductive Loop.Goes (l : Loop σ α) (p : Text) : σ → Nat → Except Fault (α × Nat) → Prop where
  | exit {s : σ} {q : Nat} {r : Except Fault (α × Nat)} :
    Follows p (l.test p q) (.ok (false, q)) → Follows p (l.exit s p q) r → l.Goes p s q r
  | again {s s' : σ} {q next : Nat} {r : Except Fault (α × Nat)} :
    Follows p (l.test p q) (.ok (true, q)) → Follows p (l.body s p q) (.ok (.inl s', next)) →
    q < next → next ≤ p.length → l.Goes p s' next r → l.Goes p s q r
  | answer {s : σ} {a : α} {q next : Nat} :
    Follows p (l.test p q) (.ok (true, q)) → Follows p (l.body s p q) (.ok (.inr a, next)) →
    q < next → next ≤ p.length → l.Goes p s q (.ok (a, next))
  | fault {s : σ} {f : Fault} {q : Nat} :
    Follows p (l.test p q) (.ok (true, q)) → Follows p (l.body s p q) (.error f) →
    l.Goes p s q (.error f)

/-- A loop that goes from pass to pass has an answer after as many as there are places left. -/
theorem Loop.Goes.follows_passes {l : Loop σ α} {s : σ} {r : Except Fault (α × Nat)}
    (h : l.Goes p s q r) {n : Nat} (hn : p.length ≤ q + n) :
    Follows p (l.passes (n + 1) s p q) r := by
  induction h generalizing n with
  | exit htest hexit => exact htest.bind hexit
  | again htest hbody hlt hle _ ih =>
    obtain ⟨n, rfl⟩ : ∃ m, n = m + 1 := ⟨n - 1, by omega⟩
    refine htest.bind (Walker.follows_place.bind (hbody.bind ?_))
    exact (Walker.follows_passed hlt).bind (ih (by omega))
  | answer htest hbody hlt _ =>
    refine htest.bind (Walker.follows_place.bind (hbody.bind ?_))
    exact (Walker.follows_passed hlt).bind (.pure _)
  | fault htest hbody => exact htest.bind (Walker.follows_place.bind hbody.bind_error)

theorem Loop.Goes.follows_run {l : Loop σ α} {s : σ} {r : Except Fault (α × Nat)}
    (h : l.Goes p s q r) : Follows p (l.run s p q) r :=
  h.follows_passes (Nat.le_add_left p.length q)

end

namespace Walker

variable {p : Text} {q : Nat} {t : Text}

/-! ### Classes -/

theorem noRange_of_length_le (ht : t.length ≤ 1) : NoRange t := by
  rintro d r rfl
  simp at ht

/-- The lookahead of a range asks for the end before it looks, so it stays in the pattern. -/
theorem follows_atRange {c last : CodePoint}
    (hin : Cursor.In p ⟨q, c :: cp '-' :: last :: t⟩) (hlast : last ≠ cp ']') :
    Follows p (atRange p q) (.ok (true, q)) := by
  refine (follows_atEnd hin 2).bind ?_
  rw [decide_eq_false (by simp), if_neg nofun]
  refine (follows_peek hin 1).bind ?_
  rw [if_pos (by rfl)]
  refine (follows_peek hin 2).bind ?_
  have hclose : decide (some last ≠ some (cp ']')) = true := by simpa using hlast
  rw [← hclose]
  exact .pure _

theorem follows_atRange_false {c : CodePoint} (hin : Cursor.In p ⟨q, c :: t⟩) (ht : NoRange t) :
    Follows p (atRange p q) (.ok (false, q)) := by
  refine (follows_atEnd hin 2).bind ?_
  match t with
  | [] => exact .pure _
  | [d] => exact .pure _
  | d :: last :: t =>
    rw [decide_eq_false (by simp), if_neg nofun]
    refine (follows_peek hin 1).bind ?_
    by_cases hd : d = cp '-'
    · subst hd
      rw [if_pos (by rfl)]
      refine (follows_peek hin 2).bind ?_
      obtain rfl := ht _ _ rfl
      exact .pure _
    · rw [if_neg (by simpa using hd)]
      exact .pure _

variable (opened : Nat) (found : Text)

theorem follows_member_close (hin : Cursor.In p ⟨q, cp ']' :: t⟩) :
    Follows p (member opened found p q)
      (if found.isEmpty then .error ⟨.emptyClass, opened⟩
        else .ok (.inr found.reverse, q + 1)) := by
  refine (follows_look (hin.getElem?_add 0)).bind ?_
  rw [if_pos rfl]
  split
  · exact follows_refuse _ _
  · exact (follows_advance hin.tail.offset_le).bind (.pure _)

theorem follows_member_unfinished (hin : Cursor.In p ⟨q, [cp '\\']⟩) :
    Follows p (member opened found p q) (.error ⟨.unfinishedEscape, q⟩) := by
  refine (follows_look (hin.getElem?_add 0)).bind ?_
  rw [if_neg (by decide), if_pos rfl]
  refine (follows_advance hin.tail.offset_le).bind ((follows_atEnd hin.tail 0).bind ?_)
  exact follows_place.bind (follows_refuse _ _)

theorem follows_member_escaped {e : CodePoint} (hin : Cursor.In p ⟨q, cp '\\' :: e :: t⟩) :
    Follows p (member opened found p q) (.ok (.inl (e :: found), q + 2)) := by
  refine (follows_look (hin.getElem?_add 0)).bind ?_
  rw [if_neg (by decide), if_pos rfl]
  refine (follows_advance hin.tail.offset_le).bind ((follows_atEnd hin.tail 0).bind ?_)
  refine (follows_look (hin.tail.getElem?_add 0)).bind ?_
  exact (follows_advance hin.tail.tail.offset_le).bind (.pure _)

theorem follows_member_range {c last : CodePoint}
    (hin : Cursor.In p ⟨q, c :: cp '-' :: last :: t⟩) (h₁ : c ≠ cp ']') (h₂ : c ≠ cp '\\')
    (h₃ : last ≠ cp ']') :
    Follows p (member opened found p q)
      (if last < c then .error ⟨.reversedRange c last, q⟩
        else .ok (.inl ((expandRange c last).reverse ++ found), q + 3)) := by
  refine (follows_look (hin.getElem?_add 0)).bind ?_
  rw [if_neg h₁, if_neg h₂]
  refine (follows_atRange hin h₃).bind ?_
  rw [if_pos rfl]
  refine (follows_look (hin.getElem?_add 2)).bind ?_
  split
  · exact follows_place.bind (follows_refuse _ _)
  · exact (follows_advance (k := 3) hin.tail.tail.tail.offset_le).bind (.pure _)

theorem follows_member_single {c : CodePoint} (hin : Cursor.In p ⟨q, c :: t⟩) (h₁ : c ≠ cp ']')
    (h₂ : c ≠ cp '\\') (ht : NoRange t) :
    Follows p (member opened found p q) (.ok (.inl (c :: found), q + 1)) := by
  refine (follows_look (hin.getElem?_add 0)).bind ?_
  rw [if_neg h₁, if_neg h₂]
  refine (follows_atRange_false hin ht).bind ?_
  exact (follows_advance hin.tail.offset_le).bind (.pure _)

/-- One step of the reader of a class is one pass over its members. -/
theorem goes_members (hin : Cursor.In p ⟨q, t⟩) :
    (members opened).Goes p found q (placed (readMembers opened found q t)) := by
  fun_induction readMembers opened found q t with
  | case1 found q => exact .exit (follows_more hin rfl) (follows_refuse (q := q) _ _)
  | case2 found q rest hf =>
    have hbody := follows_member_close opened found hin
    rw [if_pos hf] at hbody
    exact .fault (follows_more hin rfl) hbody
  | case3 found q rest hf =>
    have hbody := follows_member_close opened found hin
    rw [if_neg hf] at hbody
    exact .answer (follows_more hin rfl) hbody (Nat.lt_succ_self q) hin.tail.offset_le
  | case4 found q h₁ =>
    exact .fault (follows_more hin rfl) (follows_member_unfinished opened found hin)
  | case5 found q e rest h₁ ih =>
    exact .again (follows_more hin rfl) (follows_member_escaped opened found hin) (by omega)
      hin.tail.tail.offset_le (ih hin.tail.tail)
  | case6 found q c h₁ h₂ ih =>
    have hrange := noRange_of_length_le (t := []) (Nat.zero_le 1)
    exact .again (follows_more hin rfl) (follows_member_single opened found hin h₁ h₂ hrange)
      (Nat.lt_succ_self q) hin.tail.offset_le (ih hin.tail)
  | case7 found q c h₁ h₂ d ih =>
    have hrange := noRange_of_length_le (t := [d]) (le_refl 1)
    exact .again (follows_more hin rfl) (follows_member_single opened found hin h₁ h₂ hrange)
      (Nat.lt_succ_self q) hin.tail.offset_le (ih hin.tail)
  | case8 found q c h₁ h₂ d last rest hr hlt =>
    rw [Bool.and_eq_true, decide_eq_true_eq, bne_iff_ne] at hr
    obtain ⟨rfl, h₃⟩ := hr
    have hbody := follows_member_range opened found hin h₁ h₂ h₃
    rw [if_pos hlt] at hbody
    exact .fault (follows_more hin rfl) hbody
  | case9 found q c h₁ h₂ d last rest hr hle ih =>
    rw [Bool.and_eq_true, decide_eq_true_eq, bne_iff_ne] at hr
    obtain ⟨rfl, h₃⟩ := hr
    have hbody := follows_member_range opened found hin h₁ h₂ h₃
    rw [if_neg hle] at hbody
    exact .again (follows_more hin rfl) hbody (by omega) hin.tail.tail.tail.offset_le
      (ih hin.tail.tail.tail)
  | case10 found q c h₁ h₂ d last rest hr ih =>
    have hrange : NoRange (d :: last :: rest) := by
      rintro _ _ ⟨⟩
      simpa using hr
    exact .again (follows_more hin rfl) (follows_member_single opened found hin h₁ h₂ hrange)
      (Nat.lt_succ_self q) hin.tail.offset_le (ih hin.tail)

theorem follows_charClass {rest : Text} (hin : Cursor.In p ⟨q, cp '[' :: rest⟩) :
    Follows p (charClass p q) (placed (readAtom q (cp '[') rest)) := by
  refine follows_place.bind ((follows_advance hin.tail.offset_le).bind ?_)
  refine (follows_peek hin.tail 0).bind ?_
  rw [readAtom.eq_def, if_pos rfl, List.head?_eq_getElem?]
  split
  · exact follows_place.bind (follows_refuse _ _)
  · have hrun := (goes_members q [] hin.tail).follows_run
    cases hread : readMembers q [] (q + 1) rest with
    | error f =>
      rw [hread] at hrun
      exact hrun.bind_error
    | ok r =>
      rw [hread] at hrun
      exact hrun.bind (.pure _)

/-! ### Atoms -/

theorem follows_escape {rest : Text} (hin : Cursor.In p ⟨q, cp '\\' :: rest⟩) :
    Follows p (escape p q) (placed (readAtom q (cp '\\') rest)) := by
  refine follows_place.bind ((follows_advance hin.tail.offset_le).bind ?_)
  refine (follows_atEnd hin.tail 0).bind ?_
  cases rest with
  | nil => exact follows_refuse (q := q + 1) _ _
  | cons e rest =>
    refine (follows_look (hin.tail.getElem?_add 0)).bind ?_
    exact (follows_advance hin.tail.tail.offset_le).bind (.pure _)

theorem follows_atom {c : CodePoint} {rest : Text} (hin : Cursor.In p ⟨q, c :: rest⟩) :
    Follows p (atom p q) (placed (readAtom q c rest)) := by
  refine (follows_look (hin.getElem?_add 0)).bind ?_
  by_cases h₁ : c = cp '['
  · subst h₁
    rw [if_pos rfl]
    exact follows_charClass hin
  by_cases h₂ : c = cp '\\'
  · subst h₂
    rw [if_neg h₁, if_pos rfl]
    exact follows_escape hin
  rw [if_neg h₁, if_neg h₂, readAtom.eq_def, if_neg h₁, if_neg h₂]
  split
  · exact follows_place.bind (follows_refuse _ _)
  · exact (follows_advance hin.tail.offset_le).bind (.pure _)

/-! ### Quantifiers -/

theorem follows_digits_test (hin : Cursor.In p ⟨q, t⟩) {r : Bool}
    (hr : t[0]?.any Text.isDigit = r) : Follows p (digits.test p q) (.ok (r, q)) := by
  subst hr
  exact (follows_peek hin 0).bind (.pure _)

theorem follows_digits_body {d : CodePoint} (hin : Cursor.In p ⟨q, d :: t⟩) :
    Follows p (digits.body found p q) (.ok (.inl (d :: found), q + 1)) :=
  (follows_look (hin.getElem?_add 0)).bind
    ((follows_advance hin.tail.offset_le).bind (.pure _))

/-- The walker goes over the digits that the reader takes at once, one a pass. -/
theorem goes_digits (hin : Cursor.In p ⟨q, t⟩) :
    digits.Goes p found q (.ok (found.reverse ++ t.takeWhile Text.isDigit,
      q + (t.takeWhile Text.isDigit).length)) := by
  induction t generalizing found q with
  | nil =>
    rw [List.takeWhile_nil, List.append_nil]
    exact .exit (follows_digits_test hin rfl) (.pure _)
  | cons d t ih =>
    by_cases hd : Text.isDigit d
    · have hrest := ih (d :: found) hin.tail
      rw [List.reverse_cons, List.append_assoc, List.singleton_append, Nat.add_right_comm] at hrest
      rw [List.takeWhile_cons_of_pos hd]
      exact .again (follows_digits_test hin hd) (follows_digits_body found hin) (Nat.lt_succ_self q)
        hin.tail.offset_le hrest
    · rw [List.takeWhile_cons_of_neg hd, List.append_nil]
      exact .exit (follows_digits_test hin (by simpa using hd)) (.pure _)

theorem follows_number (hin : Cursor.In p ⟨q, t⟩) :
    Follows p (number p q)
      (.ok ((bounded.readNumber ⟨q, t⟩).1, (bounded.readNumber ⟨q, t⟩).2.offset)) := by
  have hrun := (goes_digits [] hin).follows_run
  rw [List.reverse_nil, List.nil_append] at hrun
  exact hrun.bind (.pure _)

/-- Without a number the walker stands behind the digits that it found, which are none. -/
theorem follows_bounds {c : Cursor} (hin : c.In p) :
    Follows p (bounds p c.offset)
      (match bounded.readBounds c with
        | none => .ok (none, (bounded.readNumber c).2.offset)
        | some (lower, upper, next) => .ok (some (lower, upper), next.offset)) := by
  have hnumber := follows_number hin
  have hnext := in_of_readNumber hin
  refine hnumber.bind ?_
  rw [readBounds]
  generalize bounded.readNumber c = number at hnext ⊢
  obtain ⟨_ | lower, next⟩ := number
  · exact .pure _
  refine (follows_peek hnext 0).bind ?_
  rw [← List.head?_eq_getElem?]
  simp only
  by_cases hcomma : next.rest.head? = some (cp ',')
  · rw [if_pos hcomma, if_pos hcomma]
    obtain ⟨rest, hrest⟩ := List.head?_eq_some_iff.1 hcomma
    have hbehind : (next.advance 1).In p := hnext.advance (by simp [hrest])
    refine (follows_advance hbehind.offset_le).bind ?_
    exact (follows_number hbehind).bind (.pure _)
  · rw [if_neg hcomma, if_neg hcomma]
    exact .pure _

theorem follows_braces {s : Text} (hin : Cursor.In p ⟨q, cp '{' :: s⟩) :
    Follows p (braces p q)
      ((bounded.readQuantifier ⟨q, cp '{' :: s⟩).map fun r => ((r.1, r.2.1), r.2.2.offset)) := by
  refine follows_place.bind ((follows_advance hin.tail.offset_le).bind ?_)
  have hbounds := follows_bounds hin.tail
  rw [readQuantifier_brace]
  cases hread : bounded.readBounds ⟨q + 1, s⟩ with
  | none =>
    rw [hread] at hbounds
    exact hbounds.bind (follows_refuse _ _)
  | some r =>
    obtain ⟨lower, upper, next⟩ := r
    have hnext := in_of_readBounds hin.tail hread
    rw [hread] at hbounds
    refine hbounds.bind ((follows_peek hnext 0).bind ?_)
    rw [← List.head?_eq_getElem?]
    simp only
    split
    · exact follows_place.bind (follows_refuse _ _)
    next hclose =>
    obtain ⟨rest, hrest⟩ := List.head?_eq_some_iff.1 (not_not.1 hclose)
    have hbehind : (next.advance 1).In p := hnext.advance (by simp [hrest])
    refine (follows_advance hbehind.offset_le).bind ?_
    split
    · exact follows_refuse _ _
    split
    · exact follows_refuse _ _
    · exact .pure _

theorem follows_quantifier {c : Cursor} (hin : c.In p) :
    Follows p (quantifier p c.offset)
      ((bounded.readQuantifier c).map fun r => ((r.1, r.2.1), r.2.2.offset)) := by
  obtain ⟨q, t⟩ := c
  refine (follows_peek hin 0).bind ?_
  cases t with
  | nil => exact .pure _
  | cons sign s =>
    by_cases hb : sign = cp '{'
    · subst hb
      exact follows_braces hin
    simp only [List.getElem?_cons_zero, Option.some.injEq, readQuantifier, if_neg hb]
    split
    · exact (follows_advance hin.tail.offset_le).bind (.pure _)
    split
    · exact (follows_advance hin.tail.offset_le).bind (.pure _)
    split
    · exact (follows_advance hin.tail.offset_le).bind (.pure _)
    · exact .pure _

/-! ### Items -/

/-- The reader of an item that is no anchor answers a fault or a piece, and the walker as well. -/
theorem follows_piece {first : CodePoint} {rest : Text} (hin : Cursor.In p ⟨q, first :: rest⟩)
    (hfirst : isAnchor first = false) :
    ∃ r : Except Fault (Piece × Cursor),
      bounded.readItem ⟨q, first :: rest⟩ = r.map (fun r => some (some r.1, r.2)) ∧
        Follows p (piece p q) (placed r) := by
  have hatom := follows_atom hin
  simp only [readItem, hfirst, Bool.false_eq_true, if_false]
  cases hread : readAtom q first rest with
  | error f =>
    rw [hread] at hatom
    exact ⟨.error f, rfl, hatom.bind_error⟩
  | ok r =>
    obtain ⟨a, behind⟩ := r
    have hquantifier := follows_quantifier (in_of_readAtom hfirst hin hread)
    rw [hread] at hatom
    simp only
    cases hquant : bounded.readQuantifier behind with
    | error f =>
      rw [hquant] at hquantifier
      exact ⟨.error f, rfl, hatom.bind hquantifier.bind_error⟩
    | ok r =>
      obtain ⟨lower, upper, next⟩ := r
      rw [hquant] at hquantifier
      exact ⟨.ok (⟨a, lower, upper⟩, next), rfl, hatom.bind (hquantifier.bind (.pure _))⟩

theorem follows_item (found : List Piece) {c : Cursor} (hin : c.In p) (hc : c.rest ≠ []) :
    ∃ r : Except Fault (Option Piece × Cursor), bounded.readItem c = r.map some ∧
      Follows p (item found p c.offset)
        (r.map fun r => (.inl (r.1.toList ++ found), r.2.offset)) := by
  obtain ⟨q, _ | ⟨first, rest⟩⟩ := c
  · exact absurd rfl hc
  have hlook : Follows p (look 0 p q) (.ok (first, q)) := follows_look (hin.getElem?_add 0)
  cases hfirst : isAnchor first with
  | true =>
    refine ⟨.ok (none, ⟨q + 1, rest⟩), by simp only [readItem, hfirst]; rfl, hlook.bind ?_⟩
    rw [if_pos hfirst]
    exact (follows_advance hin.tail.offset_le).bind (.pure _)
  | false =>
    obtain ⟨r, hr, hpiece⟩ := follows_piece hin hfirst
    refine ⟨r.map fun r => (some r.1, r.2), by rw [hr]; cases r <;> rfl, hlook.bind ?_⟩
    rw [if_neg (by simp [hfirst])]
    cases r with
    | error f => exact hpiece.bind_error
    | ok r => exact hpiece.bind (.pure _)

/-- One item of the reader is one pass, and behind the last one the pattern ends. -/
theorem goes_items (found : List Piece) {c : Cursor} (hin : c.In p) :
    items.Goes p found c.offset ((bounded.readItems found c).map (·, p.length)) := by
  fun_induction bounded.readItems found c with
  | case1 found c fault hitem =>
    have hrest := rest_ne_nil_of_readItem (c := c) (by simp [hitem])
    obtain ⟨r, hr, hbody⟩ := follows_item found hin hrest
    rw [hitem] at hr
    cases r with
    | error f =>
      cases hr
      exact .fault (follows_more (t := c.rest) hin (by simpa using hrest)) hbody
    | ok r => cases hr
  | case2 found c hitem =>
    have hrest := rest_eq_nil_of_readItem hitem
    have hend : p.length = c.offset := by rw [hin.length_eq, hrest]; rfl
    rw [hend]
    exact .exit (follows_more (t := c.rest) hin (by rw [hrest]; rfl)) (.pure _)
  | case3 found c piece next hitem ih =>
    have hrest := rest_ne_nil_of_readItem (c := c) (by simp [hitem])
    have hnext := in_of_readItem hin hitem
    obtain ⟨r, hr, hbody⟩ := follows_item found hin hrest
    rw [hitem] at hr
    cases r with
    | error f => cases hr
    | ok r =>
      cases hr
      exact .again (follows_more (t := c.rest) hin (by simpa using hrest)) hbody
        (offset_lt_of_readItem hin hitem) hnext.offset_le (ih hnext)

/-! ### Patterns -/

/-- The pattern is looked over from the `k`-th code point on, the walker standing at its start. -/
theorem follows_scan {k : Nat} (hin : Cursor.In p ⟨k, t⟩) :
    Follows p (scan t.length k p 0)
      (match t.findIdx? isUnsupported with
        | some i => .error ⟨.group, k + i⟩
        | none => .ok ((), 0)) := by
  induction t generalizing k with
  | nil => exact .pure _
  | cons c t ih =>
    have hc : p[0 + k]? = some c := by
      rw [Nat.zero_add]
      exact hin.getElem?_add 0
    refine (follows_look hc).bind ?_
    rw [List.findIdx?_cons]
    split
    · exact follows_refuse _ _
    · have hrest := ih hin.tail
      cases hfind : t.findIdx? isUnsupported with
      | none =>
        rw [hfind] at hrest
        exact hrest
      | some i =>
        rw [hfind] at hrest
        simp only [Nat.add_right_comm k 1 i] at hrest
        exact hrest

end Walker

theorem follows_walk (p : Text) : Follows p (walk p) ((parse p).map (·, p.length)) := by
  have hin := Cursor.in_start p
  have hscan := Walker.follows_scan hin
  cases hfind : p.findIdx? isUnsupported with
  | some i =>
    rw [parse_of_unsupported hfind]
    simp only [hfind, Nat.zero_add] at hscan
    exact hscan.bind_error
  | none =>
    rw [parse_of_supported hfind]
    rw [hfind] at hscan
    exact hscan.bind (Walker.goes_items [] hin).follows_run

/-- What is said of the way through a pattern, and of its loops wherever they begin. -/
structure Walked (p : Text) : Prop where
  /-- It comes to the end that the reading comes to, with pieces at the end of the pattern. -/
  answer : (walk p).answer = ((parse p).map (·, p.length)).mapError .fault
  looks : ∀ q, .look q ∈ (walk p).events → q < p.length
  moves : ∀ q, .move q ∈ (walk p).events → q ≤ p.length
  passes : ∀ loop start stop, .pass loop start stop ∈ (walk p).events → start < stop
  /-- What was not looked at has no part in it. -/
  accounted : ∀ p' : Text, p'.length = p.length →
    (∀ q, .look q ∈ (walk p).events → p'[q]? = p[q]?) → walk p' = walk p
  /-- Pieces are answered where the walker went last. -/
  stands : ∀ pieces, parse p = .ok pieces → standing 0 (walk p).events = p.length
  items : ∀ found (c : Cursor), c.In p →
    Walker.items.Goes p found c.offset ((bounded.readItems found c).map (·, p.length))
  members : ∀ opened found (c : Cursor), c.In p →
    (Walker.members opened).Goes p found c.offset
      (placed (readMembers opened found c.offset c.rest))
  digits : ∀ c : Cursor, c.In p →
    Walker.digits.Goes p [] c.offset
      (.ok (c.rest.takeWhile Text.isDigit, (bounded.readNumber c).2.offset))

/-- Every pattern is read to an end with the cursor in it: each pass of a loop goes on, and no code
    point is looked at but those of the pattern. -/
theorem walk_stays_within (p : Text) : Walked p := by
  have hwalk := follows_walk p
  constructor
  case answer => exact hwalk.answer
  case looks => exact fun q hq => hwalk.events _ hq
  case moves => exact fun q hq => hwalk.events _ hq
  case passes => exact fun loop start stop h => hwalk.events _ h
  case accounted =>
    intro p' hlen h
    rw [walk, hlen]
    exact (Walker.accounts_pattern p.length).looks hlen h
  case stands =>
    intro pieces hparse
    have hanswer := hwalk.answer
    rw [hparse] at hanswer
    exact ((Walker.accounts_pattern p.length).stands hanswer).symm
  case items => exact fun found c hin => Walker.goes_items found hin
  case members => exact fun opened found c hin => Walker.goes_members opened found hin
  case digits => exact fun c hin => Walker.goes_digits [] hin

/-- A range takes three places; behind the backslash the end is tested for, and not looked at. -/
example : walk (Text.lit "[a-c\\") =
    ⟨[.look 0, .look 1, .look 2, .look 3, .look 4, .look 0, .look 0, .move 1, .look 1, .look 1,
      .look 2, .look 3, .look 3, .move 4, .pass .members 1 4, .look 4, .move 5],
      .error (.fault ⟨.unfinishedEscape, 4⟩)⟩ := by
  rfl

end Keyspace.Pattern
