import Mathlib.Data.List.TakeWhile
import Keyspace.KeyList

/-!
A list of keys loses nothing, and the keys that stand one a line are listed.

A carriage return before a line feed is a blank, so it goes away with the other blanks at the end of
its line whether the line ends before it or behind it: the keys are the trimmed texts between line
feeds, the empty ones left out (`parse_eq`). What ends lines elsewhere, such as U+2028 or a carriage
return alone, is a blank as any other; it stays inside a key and goes away at its ends. So a text
lists the keys before a line feed and those behind it (`parse_append_break`), and each key that is
listed is listed again when the keys are joined.

    a b \r\n  \n\v c\r    ──▶    a b,  c    ──▶    a b\r\nc    ──▶    a b,  c
-/

namespace Keyspace

namespace Text

/-! ### Trimming -/

/-- The text has no blank at either end. -/
structure Trimmed (t : Text) : Prop where
  head : ∀ c ∈ t.head?, isBlank c = false
  last : ∀ c ∈ t.getLast?, isBlank c = false

theorem Trimmed.strip_eq {t : Text} (h : Trimmed t) : strip t = t := by
  have hstart : trimStart isBlank t = t := by
    cases t with
    | nil => rfl
    | cons c t => rw [trimStart, List.dropWhile_cons, h.head c rfl]; rfl
  rcases List.eq_nil_or_concat t with rfl | ⟨s, d, rfl⟩
  · rfl
  · have hd : isBlank d = false := h.last d (by simp)
    rw [strip, hstart, trimEnd, List.concat_eq_append, List.reverse_append, List.reverse_singleton,
      List.singleton_append, List.dropWhile_cons, hd]
    simp

/-- Blanks behind a text do not change what trimming leaves. -/
theorem strip_append {t back : Text} (hback : ∀ c ∈ back, isBlank c) :
    strip (t ++ back) = strip t := by
  by_cases ht : ∀ c ∈ t, isBlank c
  · have hall : ∀ c ∈ t ++ back, isBlank c := by
      intro c hc
      rcases List.mem_append.1 hc with hc | hc
      · exact ht c hc
      · exact hback c hc
    rw [strip, strip, trimStart, trimStart, List.dropWhile_eq_nil_iff.2 ht,
      List.dropWhile_eq_nil_iff.2 hall]
  · have hne : ¬ (t.dropWhile isBlank).isEmpty := by
      rwa [List.isEmpty_iff, List.dropWhile_eq_nil_iff]
    rw [strip, strip, trimStart, trimStart, List.dropWhile_append, if_neg hne, trimEnd,
      List.reverse_append,
      List.dropWhile_append_of_pos fun c hc => hback c (List.mem_reverse.1 hc)]
    rfl

/-- Trimming takes blanks away at both ends, and all of them. -/
theorem exists_strip (t : Text) : ∃ front back, t = front ++ strip t ++ back ∧
    (∀ c ∈ front, isBlank c) ∧ (∀ c ∈ back, isBlank c) ∧ Trimmed (strip t) := by
  obtain ⟨s, hs⟩ : ∃ s, s = t.dropWhile isBlank := ⟨_, rfl⟩
  have hcore : s = strip t ++ (s.reverse.takeWhile isBlank).reverse := by
    rw [strip, trimStart, ← hs, trimEnd, ← List.reverse_append, List.takeWhile_append_dropWhile,
      List.reverse_reverse]
  refine ⟨t.takeWhile isBlank, (s.reverse.takeWhile isBlank).reverse, ?_, ?_, ?_, ?_, ?_⟩
  · rw [List.append_assoc, ← hcore, hs, List.takeWhile_append_dropWhile]
  · exact fun c hc => List.mem_takeWhile_imp hc
  · exact fun c hc => List.mem_takeWhile_imp (List.mem_reverse.1 hc)
  -- What is left begins where the blanks in front end, unless nothing is left.
  · intro c hc
    have hfirst : s.head? = some c := by
      rw [hcore, List.head?_append, hc]
      rfl
    have := List.head?_dropWhile_not isBlank t
    rw [← hs, hfirst] at this
    simpa using this
  · intro c hc
    have := List.head?_dropWhile_not isBlank s.reverse
    rw [strip, trimStart, ← hs, trimEnd, List.getLast?_reverse] at hc
    rw [hc] at this
    simpa using this

theorem mem_of_mem_strip {t : Text} {c : CodePoint} (h : c ∈ strip t) : c ∈ t := by
  obtain ⟨front, back, ht, _⟩ := exists_strip t
  rw [ht]
  simp [h]

/-- The text without any blank. -/
def inked (t : Text) : Text := t.filter (!isBlank ·)

theorem inked_append (s t : Text) : inked (s ++ t) = inked s ++ inked t := List.filter_append ..

theorem inked_eq_nil {t : Text} (h : ∀ c ∈ t, isBlank c) : inked t = [] := by
  simpa [inked] using h

theorem inked_strip (t : Text) : inked (strip t) = inked t := by
  obtain ⟨front, back, ht, hfront, hback, _⟩ := exists_strip t
  calc inked (strip t) = inked (front ++ strip t ++ back) := by
        rw [inked_append, inked_append, inked_eq_nil hfront, inked_eq_nil hback, List.append_nil,
          List.nil_append]
    _ = inked t := by rw [← ht]

end Text

namespace KeyList

open Text (strip inked)

/-! ### Lines -/

/-- The texts between line feeds. -/
def lines (t : Text) : List Text := t.splitOn (cp '\n')

theorem lines_eq_splitOnP (t : Text) : lines t = t.splitOnP (· == cp '\n') :=
  List.splitOn_eq_splitOnP

theorem exists_lines (t : Text) : ∃ first more, lines t = first :: more := by
  rw [lines_eq_splitOnP]
  exact List.exists_cons_of_ne_nil (List.splitOnP_ne_nil _ _)

theorem lines_break (t : Text) : lines (cp '\n' :: t) = [] :: lines t := by
  rw [lines_eq_splitOnP, List.splitOnP_cons_eq_if_modifyHead, if_pos (beq_self_eq_true _),
    ← lines_eq_splitOnP]

theorem lines_cons {c : CodePoint} (hc : c ≠ cp '\n') {t first : Text} {more : List Text}
    (h : lines t = first :: more) : lines (c :: t) = (c :: first) :: more := by
  rw [lines_eq_splitOnP, List.splitOnP_cons_eq_if_modifyHead, if_neg (by simpa using hc),
    ← lines_eq_splitOnP, h, List.modifyHead_cons]

theorem lines_append (t more : Text) : lines (t ++ cp '\n' :: more) = lines t ++ lines more := by
  rw [lines_eq_splitOnP, lines_eq_splitOnP, lines_eq_splitOnP]
  exact List.splitOnP_append_cons _ _ (beq_self_eq_true _)

theorem lines_of_not_mem {t : Text} (h : cp '\n' ∉ t) : lines t = [t] := by
  rw [lines_eq_splitOnP]
  refine List.splitOnP_eq_singleton fun c hc => ?_
  rw [beq_eq_false_iff_ne]
  rintro rfl
  exact h hc

/-- No text between line feeds holds one. -/
theorem not_mem_of_mem_lines {t line : Text} (h : line ∈ lines t) : cp '\n' ∉ line := by
  induction t generalizing line with
  | nil =>
    obtain rfl : line = [] := by simpa [lines] using h
    exact List.not_mem_nil
  | cons c t ih =>
    by_cases hc : c = cp '\n'
    · subst hc
      rw [lines_break] at h
      rcases List.mem_cons.1 h with rfl | h
      · exact List.not_mem_nil
      · exact ih h
    · obtain ⟨first, more, ht⟩ := exists_lines t
      rw [lines_cons hc ht] at h
      rw [ht] at ih
      rcases List.mem_cons.1 h with rfl | h
      · have hfirst := ih List.mem_cons_self
        simp only [List.mem_cons, not_or]
        exact ⟨Ne.symm hc, hfirst⟩
      · exact ih (List.mem_cons_of_mem _ h)

/-- What was read of a line, `line`, stands in front of the first line of what is left; a carriage
    return at its end makes no difference once it is trimmed. -/
theorem map_strip_splitLines (found : List Text) (line : Text) {t first : Text} {more : List Text}
    (h : lines t = first :: more) :
    (splitLines found line t).map strip =
      found.reverse.map strip ++ strip (line.reverse ++ first) :: more.map strip := by
  fun_induction splitLines found line t generalizing first more with
  | case1 found line =>
    cases h
    simp
  | case2 found line rest ih =>
    obtain ⟨first', more', hrest⟩ := exists_lines rest
    rw [lines_break, hrest] at h
    cases h
    rw [ih hrest]
    simp
  | case3 found line c hc ih =>
    rw [lines_cons hc rfl] at h
    cases h
    rw [ih rfl]
    simp
  | case4 found line c hc d rest hcr ih =>
    rw [Bool.and_eq_true, decide_eq_true_eq, decide_eq_true_eq] at hcr
    obtain ⟨rfl, rfl⟩ := hcr
    obtain ⟨first', more', hrest⟩ := exists_lines rest
    rw [lines_cons hc (lines_break rest), hrest] at h
    cases h
    have hreturn : strip (line.reverse ++ [cp '\r']) = strip line.reverse :=
      Text.strip_append (by decide)
    rw [ih hrest, hreturn]
    simp
  | case5 found line c hc d rest hcr ih =>
    obtain ⟨first', more', hrest⟩ := exists_lines (d :: rest)
    rw [lines_cons hc hrest] at h
    cases h
    rw [ih hrest]
    simp

/-! ### Keys -/

theorem parse_eq (raw : Text) :
    parse raw = ((lines raw).map strip).filter (!·.isEmpty) := by
  obtain ⟨first, more, h⟩ := exists_lines raw
  rw [parse, map_strip_splitLines [] [] h, h]
  rfl

/-- A line feed ends a key whatever stands around it. -/
theorem parse_append_break (raw more : Text) :
    parse (raw ++ cp '\n' :: more) = parse raw ++ parse more := by
  rw [parse_eq, parse_eq, parse_eq, lines_append, List.map_append, List.filter_append]

/-- What a list of keys tells as a key. -/
structure IsKey (k : Text) : Prop where
  ne_nil : k ≠ []
  one_line : cp '\n' ∉ k
  trimmed : Text.Trimmed k

theorem isKey_of_mem_parse {raw k : Text} (h : k ∈ parse raw) : IsKey k := by
  rw [parse_eq] at h
  obtain ⟨hk, hne⟩ := List.mem_filter.1 h
  obtain ⟨line, hline, rfl⟩ := List.mem_map.1 hk
  obtain ⟨_, _, _, _, _, htrimmed⟩ := Text.exists_strip line
  exact ⟨by simpa using hne, fun hc => not_mem_of_mem_lines hline (Text.mem_of_mem_strip hc),
    htrimmed⟩

/-- A key alone on its line is listed as it is, with blanks behind it or without. -/
theorem parse_key {k b : Text} (hk : IsKey k) (hb : ∀ c ∈ b, Text.isBlank c)
    (hline : cp '\n' ∉ b) : parse (k ++ b) = [k] := by
  have hone : cp '\n' ∉ k ++ b := by
    rw [List.mem_append, not_or]
    exact ⟨hk.one_line, hline⟩
  rw [parse_eq, lines_of_not_mem hone, List.map_singleton, Text.strip_append hb,
    hk.trimmed.strip_eq]
  simp [hk.ne_nil]

/-! ### Nothing is lost -/

theorem inked_flatten_lines (t : Text) : inked (lines t).flatten = inked t := by
  induction t with
  | nil => rfl
  | cons c t ih =>
    by_cases hc : c = cp '\n'
    · subst hc
      rw [lines_break]
      exact ih
    · obtain ⟨first, more, ht⟩ := exists_lines t
      rw [ht, List.flatten_cons] at ih
      rw [lines_cons hc ht, List.flatten_cons]
      change inked ([c] ++ (first ++ more.flatten)) = inked ([c] ++ t)
      rw [Text.inked_append, ih, ← Text.inked_append]

theorem inked_flatten_map_strip (parts : List Text) :
    inked (parts.map strip).flatten = inked parts.flatten := by
  induction parts with
  | nil => rfl
  | cons part parts ih =>
    rw [List.map_cons, List.flatten_cons, List.flatten_cons, Text.inked_append, Text.inked_append,
      Text.inked_strip, ih]

theorem inked_parse (raw : Text) : inked (parse raw).flatten = inked raw := by
  rw [parse_eq, List.flatten_filter_not_isEmpty, inked_flatten_map_strip, inked_flatten_lines]

/-! ### Keys joined -/

/-- The text has the keys one a line; each line but the last ends in a line feed, or in a carriage
    return and a line feed. -/
inductive Joined : List Text → Text → Prop where
  | nil : Joined [] []
  | last (k : Text) : Joined [k] k
  | feed {k t : Text} {keys : List Text} :
    keys ≠ [] → Joined keys t → Joined (k :: keys) (k ++ cp '\n' :: t)
  | returnFeed {k t : Text} {keys : List Text} :
    keys ≠ [] → Joined keys t → Joined (k :: keys) (k ++ cp '\r' :: cp '\n' :: t)

theorem joined_join (keys : List Text) : Joined keys (Text.join [cp '\n'] keys) := by
  induction keys with
  | nil => exact .nil
  | cons k keys ih =>
    cases keys with
    | nil => simpa [Text.join] using Joined.last k
    | cons k' keys => simpa [Text.join] using Joined.feed (List.cons_ne_nil k' keys) ih

/-- Keys one a line are listed as they are, whichever way the lines end. -/
theorem parse_joined {keys : List Text} {t : Text} (h : Joined keys t)
    (hkeys : ∀ k ∈ keys, IsKey k) : parse t = keys := by
  induction h with
  | nil => rfl
  | last k => simpa using parse_key (b := []) (hkeys k (by simp)) (by simp) (by simp)
  | @feed k t keys _ _ ih =>
    have hk := parse_key (b := []) (hkeys k (by simp)) (by simp) (by simp)
    rw [List.append_nil] at hk
    rw [parse_append_break, hk, ih fun k' hk' => hkeys k' (by simp [hk'])]
    rfl
  | @returnFeed k t keys _ _ ih =>
    have hk := parse_key (b := [cp '\r']) (hkeys k (by simp)) (by decide) (by decide)
    have hsplit : k ++ cp '\r' :: cp '\n' :: t = (k ++ [cp '\r']) ++ cp '\n' :: t := by simp
    rw [hsplit, parse_append_break, hk, ih fun k' hk' => hkeys k' (by simp [hk'])]
    rfl

/-- The keys of a text: its trimmed lines without the empty ones, each of them a key, and together
    all of the text but its blanks. -/
structure Lists (raw : Text) (keys : List Text) : Prop where
  eq_lines : keys = ((raw.splitOn (cp '\n')).map Text.strip).filter (!·.isEmpty)
  isKey : ∀ k ∈ keys, IsKey k
  complete : keys.flatten.filter (!Text.isBlank ·) = raw.filter (!Text.isBlank ·)

/-- A text lists the keys on its lines and nothing of it is lost, texts with a line feed between
    them list the keys of both, and keys that are joined are listed again. -/
theorem parse_lists_keys :
    (∀ raw, Lists raw (parse raw)) ∧
      (∀ raw more, parse (raw ++ cp '\n' :: more) = parse raw ++ parse more) ∧
      (∀ keys t, (∀ k ∈ keys, IsKey k) → Joined keys t → parse t = keys) ∧
      (∀ raw t, Joined (parse raw) t → parse t = parse raw) ∧
      ∀ raw, parse (Text.join [cp '\n'] (parse raw)) = parse raw := by
  have hagain (raw : Text) {t : Text} (h : Joined (parse raw) t) : parse t = parse raw :=
    parse_joined h fun _ hk => isKey_of_mem_parse hk
  refine ⟨?_, parse_append_break, ?_, ?_, ?_⟩
  · exact fun raw => ⟨parse_eq raw, fun _ hk => isKey_of_mem_parse hk, inked_parse raw⟩
  · exact fun keys t hkeys h => parse_joined h hkeys
  · exact fun raw t h => hagain raw h
  · exact fun raw => hagain raw (joined_join _)

/-- A line separator inside a key, a carriage return inside the next one, and both kinds of line
    end between three keys. -/
theorem parse_lists_keys_separators :
    (∀ k ∈ [Text.lit "a\u2028b", Text.lit "c\rd", Text.lit "e"], IsKey k) ∧
      Joined [Text.lit "a\u2028b", Text.lit "c\rd", Text.lit "e"]
        (Text.lit "a\u2028b\r\nc\rd\ne") ∧
      parse (Text.lit "a\u2028b\r\nc\rd\ne") =
        [Text.lit "a\u2028b", Text.lit "c\rd", Text.lit "e"] ∧
      parse (Text.lit " a\u2028b\r\r\n\u2028\n" ++ cp '\n' :: Text.lit "c\rd\r") =
        parse (Text.lit " a\u2028b\r\r\n\u2028\n") ++ parse (Text.lit "c\rd\r") := by
  have hkeys : ∀ k ∈ [Text.lit "a\u2028b", Text.lit "c\rd", Text.lit "e"], IsKey k := by
    intro k hk
    simp only [List.mem_cons, List.not_mem_nil, or_false] at hk
    rcases hk with rfl | rfl | rfl
    all_goals exact ⟨by decide, by decide, by decide, by decide⟩
  have hjoined : Joined [Text.lit "a\u2028b", Text.lit "c\rd", Text.lit "e"]
      (Text.lit "a\u2028b\r\nc\rd\ne") :=
    .returnFeed (by decide) (.feed (by decide) (.last _))
  obtain ⟨_, happend, hparse, _⟩ := parse_lists_keys
  exact ⟨hkeys, hjoined, hparse _ _ hkeys hjoined, happend _ _⟩

end KeyList

end Keyspace
