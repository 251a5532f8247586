import Keyspace.Pattern.Grammar

/-!
Atoms are read as they are written.

The reader of a class goes member by member. Its four steps are the four things that can stand next:
the closing bracket, an escape, a range, a member by itself (`readMembers_close` and those after
it). Between `[` and `]` these are the rules of `Members`, so the candidates that are read are those
that the grammar tells, behind the ones found before (`readMembers_of_members`,
`members_of_readMembers`).

A member by itself is told from the start of a range by two code points of lookahead, which may be
the closing bracket and what stands behind it.
-/

namespace Keyspace.Pattern

/-- The text does not go on with a hyphen and a member, which would make a range of what stands
    before it. -/
def NoRange (t : Text) : Prop := ∀ d r, t = cp '-' :: d :: r → d = cp ']'

section

variable (opened : Nat) (found : Text) (o : Nat)

/-! ### One step of the reader of a class -/

theorem readMembers_close (hf : found ≠ []) (rest : Text) :
    readMembers opened found o (cp ']' :: rest) = .ok (found.reverse, ⟨o + 1, rest⟩) := by
  rw [readMembers.eq_def]
  simp [hf]

theorem readMembers_escaped (c : CodePoint) (t : Text) :
    readMembers opened found o (cp '\\' :: c :: t) = readMembers opened (c :: found) (o + 2) t := by
  rw [readMembers, if_neg (by decide), if_pos rfl]

theorem readMembers_range {first last : CodePoint} (h₁ : first ≠ cp ']') (h₂ : first ≠ cp '\\')
    (h₃ : last ≠ cp ']') (hle : first ≤ last) (t : Text) :
    readMembers opened found o (first :: cp '-' :: last :: t) =
      readMembers opened ((expandRange first last).reverse ++ found) (o + 3) t := by
  rw [readMembers, if_neg h₁, if_neg h₂]
  simp [h₃, Nat.not_lt.2 hle]

theorem readMembers_single {c : CodePoint} {t : Text} (h₁ : c ≠ cp ']') (h₂ : c ≠ cp '\\')
    (hr : NoRange t) :
    readMembers opened found o (c :: t) = readMembers opened (c :: found) (o + 1) t := by
  rw [readMembers.eq_def]
  simp only [if_neg h₁, if_neg h₂]
  split
  · rfl
  · rfl
  · next d last t =>
    have hd : ¬ (d = cp '-' && last != cp ']') := by
      intro h
      rw [Bool.and_eq_true, decide_eq_true_eq, bne_iff_ne] at h
      exact h.2 (hr last t (by rw [h.1]))
    rw [if_neg hd]

end

/-! ### A class -/

/-- What follows a member inside the brackets tells a range as well as what follows it there and
    behind them. -/
theorem noRange_append_close {t : Text} (h : NoRange t) (rest : Text) :
    NoRange (t ++ cp ']' :: rest) := by
  intro d r ht
  match t with
  | [] => cases ht
  | [c] => cases ht; rfl
  | c :: e :: t => cases ht; exact h _ _ rfl

theorem expandRange_ne_nil {first last : CodePoint} (h : first ≤ last) :
    expandRange first last ≠ [] := by
  rw [expandRange, ne_eq, List.range'_eq_nil_iff]
  exact Nat.sub_ne_zero_of_lt (Nat.lt_succ_of_le h)

theorem candidates_ne_nil {t candidates : Text} (h : Members t candidates) (ht : t ≠ []) :
    candidates ≠ [] := by
  cases h with
  | nil => exact absurd rfl ht
  | escaped _ => simp
  | range _ _ _ hle _ => simp [expandRange_ne_nil hle]
  | single _ _ _ _ => simp

/-- Members are read up to the closing bracket as what they stand for. -/
theorem readMembers_of_members {t candidates : Text} (h : Members t candidates) (opened : Nat)
    (rest : Text) {found : Text} (hf : found ≠ [] ∨ t ≠ []) (o : Nat) :
    readMembers opened found o (t ++ cp ']' :: rest) =
      .ok (found.reverse ++ candidates, ⟨o + t.length + 1, rest⟩) := by
  induction h generalizing found o with
  | nil =>
    rw [List.nil_append, readMembers_close opened found o (by simpa using hf), List.append_nil]
    rfl
  | @escaped c t candidates _ ih =>
    rw [List.cons_append, List.cons_append, readMembers_escaped, ih (Or.inl (by simp))]
    simp
    omega
  | @range first last t candidates h₁ h₂ h₃ hle _ ih =>
    rw [List.cons_append, List.cons_append, List.cons_append,
      readMembers_range opened found o h₁ h₂ h₃ hle,
      ih (Or.inl (by simp [expandRange_ne_nil hle]))]
    simp
    omega
  | @single c t candidates h₁ h₂ hr _ ih =>
    rw [List.cons_append, readMembers_single opened found o h₁ h₂ (noRange_append_close hr rest),
      ih (Or.inl (by simp))]
    simp
    omega

/-- What is read up to a closing bracket are members. -/
theorem members_of_readMembers {opened : Nat} {found t candidates : Text} {o : Nat} {next : Cursor}
    (h : readMembers opened found o t = .ok (candidates, next)) :
    ∃ m own, Members m own ∧ t = m ++ cp ']' :: next.rest ∧ candidates = found.reverse ++ own ∧
      next.offset = o + m.length + 1 ∧ (found ≠ [] ∨ m ≠ []) := by
  fun_induction readMembers opened found o t with
  | case1 => cases h
  | case2 => cases h
  | case3 found o rest hf =>
    cases h
    exact ⟨[], [], .nil, rfl, by simp, rfl, Or.inl (by simpa using hf)⟩
  | case4 => cases h
  | case5 found o e rest _ ih =>
    obtain ⟨m, own, hm, rfl, rfl, hoff, _⟩ := ih h
    refine ⟨_, _, .escaped hm, rfl, by simp, ?_, Or.inr (by simp)⟩
    simp only [List.length_cons]
    omega
  -- Behind `c` the text is too short to hold a range and the closing bracket.
  | case6 found o c h₁ h₂ ih =>
    obtain ⟨m, own, hm, ht, _⟩ := ih h
    simp at ht
  | case7 found o c h₁ h₂ d ih =>
    obtain ⟨m, own, hm, ht, rfl, hoff, _⟩ := ih h
    refine ⟨c :: m, c :: own, .single h₁ h₂ ?_ hm, by rw [ht]; rfl, by simp, ?_, Or.inr (by simp)⟩
    · rintro d' r rfl
      simp at ht
    · simp only [List.length_cons]
      omega
  | case8 => cases h
  | case9 found o c h₁ h₂ d last rest hr hle ih =>
    obtain ⟨m, own, hm, rfl, rfl, hoff, _⟩ := ih h
    rw [Bool.and_eq_true, decide_eq_true_eq, bne_iff_ne] at hr
    obtain ⟨rfl, h₃⟩ := hr
    refine ⟨_, _, .range h₁ h₂ h₃ (Nat.not_lt.1 hle) hm, rfl, by simp, ?_, Or.inr (by simp)⟩
    simp only [List.length_cons]
    omega
  | case10 found o c h₁ h₂ d last rest hr ih =>
    obtain ⟨m, own, hm, ht, rfl, hoff, _⟩ := ih h
    refine ⟨c :: m, c :: own, .single h₁ h₂ ?_ hm, by rw [ht]; rfl, by simp, ?_, Or.inr (by simp)⟩
    · rintro d' r rfl
      cases ht
      simpa using hr
    · simp only [List.length_cons]
      omega

/-! ### Any atom -/

/-- An atom does not begin with an anchor, and not with a sign that belongs to the quantifier of the
    one before it. -/
theorem exists_cons_of_writes {a : Text} {atom : Atom} (h : Writes a atom) :
    ∃ c b, a = c :: b ∧ isAnchor c = false ∧ isQuantifierSign c = false := by
  cases h with
  | literal _ _ hq ha => exact ⟨_, [], rfl, ha, hq⟩
  | escape => exact ⟨_, _, rfl, rfl, rfl⟩
  | charClass _ _ _ => exact ⟨_, _, rfl, rfl, rfl⟩

/-- An atom is read as what it stands for. -/
theorem readAtom_of_writes {c : CodePoint} {a : Text} {atom : Atom} (h : Writes (c :: a) atom)
    (o : Nat) (rest : Text) :
    readAtom o c (a ++ rest) = .ok (atom, ⟨o + (c :: a).length, rest⟩) := by
  cases h with
  | literal h₁ h₂ h₃ _ => simp [readAtom, h₁, h₂, h₃]
  | escape => rfl
  | @charClass t candidates hne hneg hm =>
    have hhead : (t ++ [cp ']'] ++ rest).head? = t.head? := by
      cases t with
      | nil => exact absurd rfl hne
      | cons d t => rfl
    have hread : readMembers o [] (o + 1) (t ++ cp ']' :: rest) =
        .ok (candidates, ⟨o + 1 + t.length + 1, rest⟩) :=
      readMembers_of_members hm o rest (Or.inr hne) (o + 1)
    change readAtom o (cp '[') (t ++ [cp ']'] ++ rest) =
      .ok (.charClass candidates, ⟨o + (cp '[' :: t ++ [cp ']']).length, rest⟩)
    rw [readAtom.eq_def, if_pos rfl, hhead, if_neg hneg, List.append_assoc, List.singleton_append,
      hread]
    simp
    omega

/-- What is read as an atom is one. -/
theorem writes_of_readAtom {o : Nat} {c : CodePoint} {rest : Text} {atom : Atom} {next : Cursor}
    (hc : isAnchor c = false) (h : readAtom o c rest = .ok (atom, next)) :
    ∃ a, Writes a atom ∧ c :: rest = a ++ next.rest ∧ next.offset = o + a.length := by
  unfold readAtom at h
  split at h
  · next hb =>
    subst hb
    split at h
    · cases h
    · next hneg =>
      split at h
      · cases h
      · next candidates next' hm =>
        cases h
        obtain ⟨m, own, hm, rfl, rfl, hoff, hne⟩ := members_of_readMembers hm
        have hne : m ≠ [] := hne.resolve_left (by simp)
        have hneg : m.head? ≠ some (cp '^') := by
          cases m with
          | nil => exact absurd rfl hne
          | cons d m => exact hneg
        refine ⟨_, .charClass hne hneg hm, by simp, ?_⟩
        simp only [List.length_append, List.length_cons, List.length_nil]
        omega
  · next h₁ =>
    split at h
    · next h₂ =>
      subst h₂
      split at h
      · cases h
      · cases h; exact ⟨_, .escape, rfl, rfl⟩
    · next h₂ =>
      split at h
      · cases h
      · next h₃ => cases h; exact ⟨_, .literal h₁ h₂ (by simpa using h₃) hc, rfl, rfl⟩

end Keyspace.Pattern
