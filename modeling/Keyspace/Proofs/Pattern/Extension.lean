import Keyspace.Proofs.Pattern.Positions
import Mathlib.Data.List.Basic

/-!
Text behind a fault does not take it away, unless the text ended too early.

A reader that leaves something unread has decided by what it saw, so it answers the same with more
text behind (`Cursor.extended`). All items before a fault leave something unread, and so does the
reader that reports it, unless the fault is that of the end: a class or an escape that is not
finished, a brace with nothing behind it, numbers up to the end (`Fault.Unfinished`). A class or an
escape can be finished, and then the whole pattern is accepted.

    a{3x   a{3x…     the same fault        [b-   [b-]     a class with a hyphen
      ^      ^                             ^
-/

namespace Keyspace.Pattern

open NumberReader

/-- The cursor in a text with `s` behind it. -/
def Cursor.extended (s : Text) (c : Cursor) : Cursor := ⟨c.offset, c.rest ++ s⟩

/-- The fault of a pattern that ends too early: more text may take it away. -/
def Fault.Unfinished (p : Text) (f : Fault) : Prop :=
  match f.cause with
  | .unclosedClass | .unfinishedEscape => True
  | .missingNumber => p.length = f.position + 1
  | .missingBrace => p.length = f.position
  | _ => False

section

variable (s : Text)

/-! ### Readers that leave something -/

theorem NoDigit.append {t : Text} (h : NoDigit t) (hne : t ≠ []) : NoDigit (t ++ s) := by
  rwa [NoDigit, List.head?_append_of_ne_nil t hne]

theorem advance_extended {c : Cursor} (hne : c.rest ≠ []) :
    (c.extended s).advance 1 = (c.advance 1).extended s := by
  obtain ⟨o, t⟩ := c
  cases t with
  | nil => exact absurd rfl hne
  | cons a t => rfl

theorem readBounds_extended {c next : Cursor} {lower upper : Nat}
    (h : bounded.readBounds c = some (lower, upper, next)) (hne : next.rest ≠ []) :
    bounded.readBounds (c.extended s) = some (lower, upper, next.extended s) := by
  obtain ⟨o, t⟩ := c
  obtain ⟨digits, rest, rfl, hd, hr⟩ := exists_digits_append t
  by_cases hdigits : digits = []
  · subst hdigits
    rw [List.nil_append, readBounds_noDigit hr] at h
    cases h
  by_cases hcomma : rest.head? = some (cp ',')
  · obtain ⟨rest, rfl⟩ := List.head?_eq_some_iff.1 hcomma
    obtain ⟨more, rest, rfl, hm, hr⟩ := exists_digits_append rest
    rw [readBounds_comma hdigits hd hm hr] at h
    cases h
    have hread := readBounds_comma hdigits hd hm (hr.append s hne) o
    simpa [Cursor.extended] using hread
  · rw [readBounds_exactly hdigits hd hr hcomma] at h
    cases h
    have hcomma' : (rest ++ s).head? ≠ some (cp ',') := by
      rwa [List.head?_append_of_ne_nil rest hne]
    have hread := readBounds_exactly hdigits hd (hr.append s hne) hcomma' o
    simpa [Cursor.extended] using hread

theorem readBounds_extended_none {c : Cursor} (h : bounded.readBounds c = none)
    (hne : c.rest ≠ []) : bounded.readBounds (c.extended s) = none := by
  obtain ⟨o, t⟩ := c
  obtain ⟨digits, rest, rfl, hd, hr⟩ := exists_digits_append t
  by_cases hdigits : digits = []
  · subst hdigits
    exact readBounds_noDigit (hr.append s hne) o
  by_cases hcomma : rest.head? = some (cp ',')
  · obtain ⟨rest, rfl⟩ := List.head?_eq_some_iff.1 hcomma
    obtain ⟨more, rest, rfl, hm, hr⟩ := exists_digits_append rest
    rw [readBounds_comma hdigits hd hm hr] at h
    cases h
  · rw [readBounds_exactly hdigits hd hr hcomma] at h
    cases h

/-- A quantifier ends before what is left behind it, however that goes on. -/
theorem readQuantifier_extended {c next : Cursor} {lower upper : Nat}
    (h : bounded.readQuantifier c = .ok (lower, upper, next)) (hne : next.rest ≠ []) :
    bounded.readQuantifier (c.extended s) = .ok (lower, upper, next.extended s) := by
  obtain ⟨o, t⟩ := c
  cases t with
  | nil => cases h; exact absurd rfl hne
  | cons sign t =>
    by_cases hb : sign = cp '{'
    · subst hb
      change bounded.readQuantifier ⟨o, cp '{' :: (t ++ s)⟩ = _
      rw [readQuantifier_brace] at h ⊢
      cases hbounds : bounded.readBounds ⟨o + 1, t⟩ with
      | none => rw [hbounds] at h; cases h
      | some r =>
        obtain ⟨lower, upper, close⟩ := r
        rw [hbounds] at h
        simp only at h
        split at h
        · cases h
        next hclose =>
        have hleft : close.rest ≠ [] := by
          intro hnil
          rw [hnil] at hclose
          exact hclose nofun
        have hread := readBounds_extended s hbounds hleft
        change bounded.readBounds ⟨o + 1, t ++ s⟩ = _ at hread
        have hclose' : ¬ (close.extended s).rest.head? ≠ some (cp '}') := by
          rwa [Cursor.extended, List.head?_append_of_ne_nil _ hleft]
        simp only [hread, if_neg hclose']
        split at h
        · cases h
        next hle =>
        split at h
        · cases h
        next hmax =>
        cases h
        rw [if_neg hle, if_neg hmax, advance_extended s hleft]
    · simp only [readQuantifier, Cursor.extended, List.cons_append, if_neg hb] at h ⊢
      split at h
      · next hs => cases h; rw [if_pos hs]; rfl
      next hs₁ =>
      rw [if_neg hs₁]
      split at h
      · next hs => cases h; rw [if_pos hs]; rfl
      next hs₂ =>
      rw [if_neg hs₂]
      split at h
      · next hs => cases h; rw [if_pos hs]; rfl
      next hs₃ =>
      cases h
      rw [if_neg hs₃]
      rfl

/-- An atom tells its end itself. -/
theorem readAtom_extended {o : Nat} {c : CodePoint} {rest : Text} {atom : Atom} {next : Cursor}
    (hc : isAnchor c = false) (h : readAtom o c rest = .ok (atom, next)) :
    readAtom o c (rest ++ s) = .ok (atom, next.extended s) := by
  obtain ⟨a, ha, hrest, hoffset⟩ := writes_of_readAtom hc h
  obtain ⟨first, b, rfl, _⟩ := exists_cons_of_writes ha
  obtain ⟨rfl, rfl⟩ := List.cons.inj hrest
  have hread := readAtom_of_writes ha o (next.rest ++ s)
  rw [← hoffset, ← List.append_assoc] at hread
  exact hread

/-- An item ends before what is left behind it. -/
theorem readItem_extended {c next : Cursor} {piece : Option Piece}
    (h : bounded.readItem c = .ok (some (piece, next))) (hne : next.rest ≠ []) :
    bounded.readItem (c.extended s) = .ok (some (piece, next.extended s)) := by
  obtain ⟨o, t⟩ := c
  cases t with
  | nil => cases h
  | cons first rest =>
    simp only [readItem, Cursor.extended, List.cons_append] at h ⊢
    split at h
    · next hanchor => cases h; rw [if_pos hanchor]
    next hanchor =>
    rw [if_neg hanchor]
    split at h
    · cases h
    next atom mid hatom =>
    split at h
    · cases h
    next lower upper last hquant =>
    cases h
    rw [readAtom_extended s (by simpa using hanchor) hatom]
    simp only [readQuantifier_extended s hquant hne]
    rfl

/-! ### Faults that stay -/

/-- At its last code point the reader of a class can only find that the pattern ends. -/
theorem unfinished_of_readMembers_last {p : Text} {opened o : Nat} {found : Text} {d : CodePoint}
    {f : Fault} (hf : found ≠ []) (h : readMembers opened found o [d] = .error f) :
    f.Unfinished p := by
  rw [readMembers.eq_def] at h
  simp only at h
  split at h
  · rw [if_neg (by simpa using hf)] at h
    cases h
  split at h
  · cases h; trivial
  · rw [readMembers.eq_def] at h
    cases h
    trivial

theorem readMembers_extended_fault {p : Text} {opened o : Nat} {found t : Text} {f : Fault}
    (h : readMembers opened found o t = .error f) (hf : ¬ f.Unfinished p) :
    readMembers opened found o (t ++ s) = .error f := by
  fun_induction readMembers opened found o t with
  | case1 => cases h; exact absurd trivial hf
  | case2 found o rest hempty =>
    cases h
    rw [readMembers.eq_def]
    simp [hempty]
  | case3 => cases h
  | case4 => cases h; exact absurd trivial hf
  | case5 found o e rest _ ih =>
    rw [List.cons_append, List.cons_append, readMembers_escaped]
    exact ih h
  | case6 found o c h₁ h₂ _ =>
    rw [readMembers.eq_def] at h
    cases h
    exact absurd trivial hf
  | case7 found o c h₁ h₂ d _ =>
    exact absurd (unfinished_of_readMembers_last (List.cons_ne_nil c found) h) hf
  | case8 found o c h₁ h₂ d last rest hr hlt =>
    cases h
    rw [readMembers.eq_def]
    simp only [List.cons_append, if_neg h₁, if_neg h₂, if_pos hr, if_pos hlt]
  | case9 found o c h₁ h₂ d last rest hr hle ih =>
    rw [readMembers.eq_def]
    simp only [List.cons_append, if_neg h₁, if_neg h₂, if_pos hr, if_neg hle]
    exact ih h
  | case10 found o c h₁ h₂ d last rest hr ih =>
    rw [readMembers.eq_def]
    simp only [List.cons_append, if_neg h₁, if_neg h₂, if_neg hr]
    exact ih h

theorem readAtom_extended_fault {p : Text} {o : Nat} {c : CodePoint} {rest : Text} {f : Fault}
    (h : readAtom o c rest = .error f) (hf : ¬ f.Unfinished p) :
    readAtom o c (rest ++ s) = .error f := by
  unfold readAtom at h ⊢
  split at h
  · next hc =>
    rw [if_pos hc]
    cases rest with
    | nil =>
      rw [if_neg nofun, readMembers.eq_def] at h
      cases h
      exact absurd trivial hf
    | cons d rest =>
      rw [List.head?_append_of_ne_nil _ (List.cons_ne_nil d rest)]
      split at h
      · next hneg => cases h; rw [if_pos hneg]
      next hneg =>
      rw [if_neg hneg]
      split at h
      · next hm => cases h; rw [readMembers_extended_fault s hm hf]
      · cases h
  next hc =>
  rw [if_neg hc]
  split at h
  · split at h
    · cases h; exact absurd trivial hf
    · cases h
  next hescape =>
  rw [if_neg hescape]
  split at h
  · next hsign => cases h; rw [if_pos hsign]
  · cases h

theorem readQuantifier_extended_fault {p : Text} {c : Cursor} {f : Fault} (hin : c.In p)
    (h : bounded.readQuantifier c = .error f) (hf : ¬ f.Unfinished p) :
    bounded.readQuantifier (c.extended s) = .error f := by
  obtain ⟨t, ht⟩ := exists_brace_of_readQuantifier h
  obtain ⟨o, rest⟩ := c
  subst ht
  change bounded.readQuantifier ⟨o, cp '{' :: (t ++ s)⟩ = _
  rw [readQuantifier_brace] at h ⊢
  cases hbounds : bounded.readBounds ⟨o + 1, t⟩ with
  | none =>
    rw [hbounds] at h
    cases h
    have hleft : t ≠ [] := by
      rintro rfl
      exact hf hin.length_eq
    have hread := readBounds_extended_none s hbounds hleft
    change bounded.readBounds ⟨o + 1, t ++ s⟩ = _ at hread
    rw [hread]
  | some r =>
    obtain ⟨lower, upper, next⟩ := r
    rw [hbounds] at h
    simp only at h
    have hleft : next.rest ≠ [] := by
      intro hnil
      rw [hnil, if_pos nofun] at h
      cases h
      obtain ⟨numbers, _, hrest, hoffset⟩ := braced_of_readBounds hbounds
      refine hf (hin.length_eq.trans ?_)
      simp only [hnil, List.append_nil] at hrest
      simp only [hoffset, hrest, List.length_cons]
      omega
    have hread := readBounds_extended s hbounds hleft
    change bounded.readBounds ⟨o + 1, t ++ s⟩ = _ at hread
    rw [hread]
    simp only [Cursor.extended, List.head?_append_of_ne_nil _ hleft]
    split at h
    · next hclose => cases h; rw [if_pos hclose]
    next hclose =>
    rw [if_neg hclose]
    split at h
    · next hle => cases h; rw [if_pos hle]
    next hle =>
    rw [if_neg hle]
    split at h
    · next hmax => cases h; rw [if_pos hmax]
    · cases h

theorem readItem_extended_fault {p : Text} {c : Cursor} {f : Fault} (hin : c.In p)
    (h : bounded.readItem c = .error f) (hf : ¬ f.Unfinished p) :
    bounded.readItem (c.extended s) = .error f := by
  obtain ⟨o, t⟩ := c
  cases t with
  | nil => cases h
  | cons first rest =>
    simp only [readItem, Cursor.extended, List.cons_append] at h ⊢
    split at h
    · cases h
    next hanchor =>
    rw [if_neg hanchor]
    split at h
    · next hatom => cases h; rw [readAtom_extended_fault s hatom hf]
    next atom mid hatom =>
    split at h
    · next hquant =>
      cases h
      have hanchor : isAnchor first = false := by simpa using hanchor
      have hquant' := readQuantifier_extended_fault s (in_of_readAtom hanchor hin hatom) hquant hf
      rw [readAtom_extended s hanchor hatom]
      simp only [hquant']
    · cases h

theorem rest_ne_nil_of_readItems {found : List Piece} {c : Cursor} {f : Fault}
    (h : bounded.readItems found c = .error f) : c.rest ≠ [] := by
  intro hnil
  obtain ⟨o, rest⟩ := c
  subst hnil
  rw [readItems_end rfl] at h
  cases h

/-- A fault stays under any text behind it, if it is not that of the end. -/
theorem readItems_extended_fault {p : Text} {found : List Piece} {c : Cursor} {f : Fault}
    (hin : c.In p) (h : bounded.readItems found c = .error f) (hf : ¬ f.Unfinished p) :
    bounded.readItems found (c.extended s) = .error f := by
  fun_induction bounded.readItems found c with
  | case1 found c fault hitem =>
    cases h
    exact readItems_fault (readItem_extended_fault s hin hitem hf) found
  | case2 => cases h
  | case3 found c piece next hitem ih =>
    rw [readItems_item (readItem_extended s hitem (rest_ne_nil_of_readItems h))]
    exact ih (in_of_readItem hin hitem) h

theorem findIdx?_append_supported {p s : Text} (hp : ∀ c ∈ p, isUnsupported c = false)
    (hs : ∀ c ∈ s, isUnsupported c = false) : (p ++ s).findIdx? isUnsupported = none := by
  rw [List.findIdx?_eq_none_iff]
  exact fun c hc => (List.mem_append.1 hc).elim (hp c) (hs c)

theorem parse_append_fault {p : Text} {f : Fault} (hp : ∀ c ∈ p, isUnsupported c = false)
    (hs : ∀ c ∈ s, isUnsupported c = false) (h : parse p = .error f) (hf : ¬ f.Unfinished p) :
    parse (p ++ s) = .error f := by
  rw [parse_of_supported (List.findIdx?_eq_none_iff.2 hp)] at h
  rw [parse_of_supported (findIdx?_append_supported hp hs)]
  exact readItems_extended_fault s (Cursor.in_start p) h hf

end

/-! ### Texts that can be finished -/

/-- A fault that some text behind the pattern takes away altogether. -/
def Fault.Open (p : Text) (f : Fault) : Prop := f.Unfinished p ∧ f.cause ≠ .missingBrace

/-- What finishes a pattern. A class that holds nothing yet needs a member, and one that ends in a
    hyphen must not get one. -/
def endings : List Text := [Text.lit "a", Text.lit "]", Text.lit "a]", Text.lit "1\x7d"]

theorem supported_of_mem_endings {s : Text} (hs : s ∈ endings) :
    ∀ c ∈ s, isUnsupported c = false := by
  revert s
  decide

theorem noRange_of_head {d : CodePoint} (hd : d ≠ cp '-') (t : Text) : NoRange (d :: t) := by
  rintro _ _ ht
  exact absurd (List.cons.inj ht).1 hd

theorem readMembers_finished {p : Text} {opened o : Nat} {found t : Text} {f : Fault}
    (h : readMembers opened found o t = .error f) (hf : f.Open p) :
    ∃ s, (s = Text.lit "]" ∨ s = Text.lit "a]") ∧
      ∃ candidates next, readMembers opened found o (t ++ s) = .ok (candidates, next) ∧
        next.rest = [] := by
  fun_induction readMembers opened found o t with
  | case1 found o =>
    exact ⟨Text.lit "a]", Or.inr rfl, (cp 'a' :: found).reverse, ⟨o + 2, []⟩, by cbv, rfl⟩
  | case2 => cases h; exact hf.1.elim
  | case3 => cases h
  | case4 found o =>
    exact ⟨Text.lit "a]", Or.inr rfl, (cp 'a' :: found).reverse, ⟨o + 3, []⟩, by cbv, rfl⟩
  | case5 found o e rest _ ih =>
    obtain ⟨s, hs, candidates, next, hread, hend⟩ := ih h
    refine ⟨s, hs, candidates, next, ?_, hend⟩
    rwa [List.cons_append, List.cons_append, readMembers_escaped]
  | case6 found o c h₁ h₂ ih =>
    obtain ⟨s, hs, candidates, next, hread, hend⟩ := ih h
    have hrange : NoRange s := by
      rcases hs with rfl | rfl <;> exact noRange_of_head (by decide) _
    refine ⟨s, hs, candidates, next, ?_, hend⟩
    rwa [List.cons_append, List.nil_append, readMembers_single _ _ _ h₁ h₂ hrange]
  | case7 found o c h₁ h₂ d ih =>
    by_cases hd : d = cp '-'
    · -- a member behind the hyphen would make a range, and perhaps a reversed one
      subst hd
      have hrange : NoRange [cp '-', cp ']'] := by
        rintro _ _ ht
        cases ht
        rfl
      refine ⟨Text.lit "]", Or.inl rfl, (cp '-' :: c :: found).reverse, ⟨o + 3, []⟩, ?_, rfl⟩
      change readMembers opened found o (c :: [cp '-', cp ']']) = _
      rw [readMembers_single _ _ _ h₁ h₂ hrange, readMembers_single _ _ _ (by decide) (by decide)
        (noRange_of_head (by decide) []), readMembers_close _ _ _ (List.cons_ne_nil _ _)]
    · obtain ⟨s, hs, candidates, next, hread, hend⟩ := ih h
      have hrange : NoRange (d :: s) := noRange_of_head hd s
      refine ⟨s, hs, candidates, next, ?_, hend⟩
      rwa [List.cons_append, List.cons_append, List.nil_append,
        readMembers_single _ _ _ h₁ h₂ hrange]
  | case8 => cases h; exact hf.1.elim
  | case9 found o c h₁ h₂ d last rest hr hle ih =>
    obtain ⟨s, hs, candidates, next, hread, hend⟩ := ih h
    refine ⟨s, hs, candidates, next, ?_, hend⟩
    rw [readMembers.eq_def]
    simpa only [List.cons_append, if_neg h₁, if_neg h₂, if_pos hr, if_neg hle] using hread
  | case10 found o c h₁ h₂ d last rest hr ih =>
    obtain ⟨s, hs, candidates, next, hread, hend⟩ := ih h
    refine ⟨s, hs, candidates, next, ?_, hend⟩
    rw [readMembers.eq_def]
    simpa only [List.cons_append, if_neg h₁, if_neg h₂, if_neg hr] using hread

theorem readAtom_finished {p : Text} {o : Nat} {c : CodePoint} {rest : Text} {f : Fault}
    (h : readAtom o c rest = .error f) (hf : f.Open p) :
    ∃ s ∈ endings, ∃ atom next, readAtom o c (rest ++ s) = .ok (atom, next) ∧ next.rest = [] := by
  unfold readAtom at h
  split at h
  · next hc =>
    split at h
    · cases h; exact hf.1.elim
    next hneg =>
    split at h
    · next hm =>
      cases h
      obtain ⟨s, hs, candidates, next, hread, hend⟩ := readMembers_finished hm hf
      have hneg' : (rest ++ s).head? ≠ some (cp '^') := by
        cases rest with
        | nil => rcases hs with rfl | rfl <;> decide
        | cons d rest => exact hneg
      refine ⟨s, by rcases hs with rfl | rfl <;> decide, .charClass candidates, next, ?_, hend⟩
      unfold readAtom
      rw [if_pos hc, if_neg hneg', hread]
    · cases h
  next hc =>
  split at h
  · next hescape =>
    split at h
    · refine ⟨Text.lit "a", by decide, .literal (cp 'a'), ⟨o + 2, []⟩, ?_, rfl⟩
      unfold readAtom
      rw [if_neg hc, if_pos hescape]
      rfl
    · cases h
  split at h
  · cases h; exact hf.1.elim
  · cases h

/-- Of the faults of a quantifier only that of a brace at the end can be taken away. -/
theorem rest_of_readQuantifier_open {p : Text} {c : Cursor} {f : Fault} (hin : c.In p)
    (h : bounded.readQuantifier c = .error f) (hf : f.Open p) : c.rest = [cp '{'] := by
  obtain ⟨t, ht⟩ := exists_brace_of_readQuantifier h
  obtain ⟨o, rest⟩ := c
  subst ht
  rw [readQuantifier_brace] at h
  split at h
  · cases h
    have hlen : p.length = o + (cp '{' :: t).length := hin.length_eq
    have hend : p.length = o + 1 := hf.1
    rw [List.length_cons] at hlen
    rw [List.length_eq_zero_iff.1 (by omega : t.length = 0)]
  split at h
  · cases h; exact absurd rfl hf.2
  split at h
  · cases h; exact hf.1.elim
  split at h
  · cases h; exact hf.1.elim
  · cases h

theorem readItem_finished {p : Text} {c : Cursor} {f : Fault} (hin : c.In p)
    (h : bounded.readItem c = .error f) (hf : f.Open p) :
    ∃ s ∈ endings, ∃ piece next, bounded.readItem (c.extended s) = .ok (some (piece, next)) ∧
      next.rest = [] := by
  obtain ⟨o, t⟩ := c
  cases t with
  | nil => cases h
  | cons first rest =>
    simp only [readItem] at h
    split at h
    · cases h
    next hanchor =>
    split at h
    · next hatom =>
      cases h
      obtain ⟨s, hs, atom, ⟨o', t'⟩, hread, rfl⟩ := readAtom_finished hatom hf
      refine ⟨s, hs, some ⟨atom, 1, 1⟩, ⟨o', []⟩, ?_, rfl⟩
      simp only [readItem, Cursor.extended, List.cons_append, if_neg hanchor, hread]
      rfl
    next atom mid hatom =>
    split at h
    · next hquant =>
      cases h
      have hfirst : isAnchor first = false := by simpa using hanchor
      have hrest := rest_of_readQuantifier_open (in_of_readAtom hfirst hin hatom) hquant hf
      have hread : bounded.readQuantifier (mid.extended (Text.lit "1\x7d")) =
          .ok (1, 1, ⟨mid.offset + 3, []⟩) := by
        rw [Cursor.extended, hrest]
        cbv
      refine ⟨Text.lit "1\x7d", by decide, some ⟨atom, 1, 1⟩, ⟨mid.offset + 3, []⟩, ?_, rfl⟩
      simp only [readItem, Cursor.extended, List.cons_append, if_neg hanchor]
      rw [readAtom_extended _ hfirst hatom]
      simp only [hread]
    · cases h

theorem readItems_finished {p : Text} {found : List Piece} {c : Cursor} {f : Fault}
    (hin : c.In p) (h : bounded.readItems found c = .error f) (hf : f.Open p) :
    ∃ s ∈ endings, ∃ pieces, bounded.readItems found (c.extended s) = .ok pieces := by
  fun_induction bounded.readItems found c with
  | case1 found c fault hitem =>
    cases h
    obtain ⟨s, hs, piece, ⟨o, t⟩, hread, rfl⟩ := readItem_finished hin hitem hf
    exact ⟨s, hs, _, by rw [readItems_item hread, readItems_end rfl]⟩
  | case2 => cases h
  | case3 found c piece next hitem ih =>
    obtain ⟨s, hs, pieces, hread⟩ := ih (in_of_readItem hin hitem) h
    have hitem' := readItem_extended s hitem (rest_ne_nil_of_readItems h)
    exact ⟨s, hs, pieces, by rw [readItems_item hitem', hread]⟩

theorem supported_of_open {p : Text} {f : Fault} (h : parse p = .error f) (hf : f.Open p) :
    ∀ c ∈ p, isUnsupported c = false := by
  cases hfind : p.findIdx? isUnsupported with
  | some i =>
    rw [parse_of_unsupported hfind] at h
    cases h
    exact hf.1.elim
  | none => exact List.findIdx?_eq_none_iff.1 hfind

theorem parse_finished {p : Text} {f : Fault} (h : parse p = .error f) (hf : f.Open p) :
    ∃ s, (∀ c ∈ s, isUnsupported c = false) ∧ ∃ pieces, parse (p ++ s) = .ok pieces := by
  have hp := supported_of_open h hf
  rw [parse_of_supported (List.findIdx?_eq_none_iff.2 hp)] at h
  obtain ⟨s, hs, pieces, hread⟩ := readItems_finished (Cursor.in_start p) h hf
  refine ⟨s, supported_of_mem_endings hs, pieces, ?_⟩
  rw [parse_of_supported (findIdx?_append_supported hp (supported_of_mem_endings hs))]
  exact hread

/-- The faults that no text behind the pattern takes away are those that are not of its end. -/
theorem parse_append_fault_iff {p : Text} {f : Fault} (hp : ∀ c ∈ p, isUnsupported c = false)
    (h : parse p = .error f) :
    (∀ s, (∀ c ∈ s, isUnsupported c = false) → parse (p ++ s) = .error f) ↔ ¬ f.Unfinished p := by
  constructor
  · intro hall hf
    by_cases hbrace : f.cause = .missingBrace
    · obtain ⟨cause, q⟩ := f
      subst hbrace
      obtain rfl : p.length = q := hf
      obtain ⟨_, hne, _⟩ := seenAt_of_parse (hall [cp '}'] (by decide))
      exact hne (by simp)
    · obtain ⟨s, hs, pieces, hok⟩ := parse_finished h ⟨hf, hbrace⟩
      rw [hall s hs] at hok
      cases hok
  · exact fun hf s hs => parse_append_fault s hp hs h hf

/-! ### Errors -/

/-- The report is of something that the pattern says before its end. A quantifier is told at its
    opening brace unless it lacks the closing one, and then something must stand there. -/
def Lasting (p : Text) (report : ErrorReport) : Prop :=
  report.kind ∈ [.danglingQuantifier, .emptyCharClass, .invalidRange, .unsupportedSyntax] ∨
    report.kind = .invalidQuantifier ∧
      ∃ q : Nat, report.position = some (q : Int) ∧ q < p.length ∧ p[q]? ≠ some (cp '{')

theorem lasting_quantifier {p : Text} {f : Fault} (hkind : f.cause.kind = .invalidQuantifier)
    (hf : Lasting p f.report) : f.position < p.length ∧ p[f.position]? ≠ some (cp '{') := by
  have hkind : f.report.kind = .invalidQuantifier := hkind
  rcases hf with hf | ⟨_, q, hq, hlt, hne⟩
  · rw [hkind] at hf
    exact absurd hf (by decide)
  · obtain rfl : f.position = q := Int.ofNat.inj (Option.some.inj hq)
    exact ⟨hlt, hne⟩

theorem not_unfinished_of_lasting {p : Text} {f : Fault} (h : parse p = .error f)
    (hf : Lasting p f.report) : ¬ f.Unfinished p := by
  have hseen := seenAt_of_parse h
  obtain ⟨cause, q⟩ := f
  cases cause with
  | unclosedClass => simp [Lasting, Fault.report, ErrorReport.located, Cause.kind] at hf
  | unfinishedEscape => simp [Lasting, Fault.report, ErrorReport.located, Cause.kind] at hf
  | missingNumber =>
    obtain ⟨_, hne⟩ := lasting_quantifier rfl hf
    exact absurd hseen hne
  | missingBrace =>
    obtain ⟨hlt, _⟩ := lasting_quantifier rfl hf
    exact fun hend : p.length = q => absurd hend (Nat.ne_of_gt hlt)
  | _ => exact id

theorem open_of_kind {p : Text} {f : Fault}
    (hf : f.cause.kind ∈ [.unterminatedEscape, .unterminatedCharClass]) : f.Open p := by
  obtain ⟨cause, q⟩ := f
  cases cause with
  | unclosedClass => exact ⟨trivial, nofun⟩
  | unfinishedEscape => exact ⟨trivial, nofun⟩
  | _ => simp [Cause.kind] at hf

/-- A pattern that is refused for something before its end is refused in the same words however it
    goes on. One whose class or escape is not finished can be finished. -/
theorem compile_extended (p : Text) (e : Error) (report : ErrorReport)
    (he : (Operation.compile p).result = .error e) (hreport : e.report? = some report) :
    ((∀ c ∈ p, isUnsupported c = false) → Lasting p report →
      ∀ s, (∀ c ∈ s, isUnsupported c = false) → (Operation.compile (p ++ s)).result = .error e) ∧
    (report.kind ∈ [.unterminatedEscape, .unterminatedCharClass] →
      ∃ s, (∀ c ∈ s, isUnsupported c = false) ∧
        ∃ pieces, (Operation.compile (p ++ s)).result = .ok pieces) := by
  rw [Operation.compile_result] at he
  cases hparse : parse p with
  | ok pieces => rw [hparse] at he; cases he
  | error f =>
    rw [hparse] at he
    cases he
    cases hreport
    constructor
    · intro hp hlasting s hs
      have hf := not_unfinished_of_lasting hparse hlasting
      rw [Operation.compile_result, parse_append_fault s hp hs hparse hf]
      rfl
    · intro hkind
      have hopen : f.Open p := open_of_kind hkind
      obtain ⟨s, hs, pieces, hok⟩ := parse_finished hparse hopen
      refine ⟨s, hs, pieces, ?_⟩
      rw [Operation.compile_result, hok]
      rfl

/-- Numbers without their closing brace, and a class that ends in a hyphen. -/
theorem compile_extended_brace :
    (∀ s, (∀ c ∈ s, isUnsupported c = false) →
      (Operation.compile (Text.lit "a\x7b3x" ++ s)).result = .error (.pattern ⟨.missingBrace, 3⟩)) ∧
    ∃ s, (∀ c ∈ s, isUnsupported c = false) ∧
      ∃ pieces, (Operation.compile (Text.lit "[b-" ++ s)).result = .ok pieces := by
  have hbrace : (Operation.compile (Text.lit "a\x7b3x")).result =
      .error (.pattern ⟨.missingBrace, 3⟩) := by cbv
  have hclass : (Operation.compile (Text.lit "[b-")).result =
      .error (.pattern ⟨.unclosedClass, 0⟩) := by cbv
  constructor
  · exact (compile_extended _ _ _ hbrace rfl).1 (by decide)
      (Or.inr ⟨rfl, 3, rfl, by decide, by decide⟩)
  · exact (compile_extended _ _ _ hclass rfl).2 (by decide)

end Keyspace.Pattern
