import Keyspace.Operation
import Keyspace.Proofs.Binary64.Arithmetic
import Keyspace.Proofs.Questions

/-!
Keys drawn one after another.

Each key begins where the source was left by the key before it, and nothing else is carried along.
So two series after each other are one series (`drawKeys_add`), a shorter series is the beginning of
a longer one, and a series takes the decisions of its keys (`drawKeys_counted`):

    s ── a keys ──▶ s' ── b keys ──▶ s''
    s ────────── a + b keys ───────▶ s''

How many keys are drawn is told by a value of any kind (`AsksFor`).
-/

namespace Keyspace.Sampling

open Pattern (Piece)
open Binary64 (rational? isNegative rational?_of_isInf rational?_of_isNaN isInf_of_isNaN
  rational_or_isInf_or_isNaN)

/-! ### How many -/

/-- The number of keys that a value asks for: the floor of a number, from none to `maxCount`, and
    none if the value is no number. -/
inductive AsksFor : Value → Nat → Prop where
  | int {n : Int} {k : Nat} : (k : Int) = max 0 (min (maxCount : Int) n) → AsksFor (.int n) k
  | finite {x : Float} {q : Rat} {k : Nat} :
    rational? x = some q → (k : Int) = max 0 (min (maxCount : Int) q.floor) → AsksFor (.real x) k
  | infinite {x : Float} : x.isInf → isNegative x = false → AsksFor (.real x) maxCount
  | negativeInfinite {x : Float} : x.isInf → isNegative x → AsksFor (.real x) 0
  | notANumber {x : Float} : x.isNaN → AsksFor (.real x) 0
  | bool (b : Bool) : AsksFor (.bool b) 0
  | text (t : Text) : AsksFor (.text t) 0
  | list (items : List Value) : AsksFor (.list items) 0
  | absent : AsksFor .absent 0

theorem natCast_clampInt (n : Int) : (clampInt n : Int) = max 0 (min (maxCount : Int) n) := by
  unfold clampInt
  omega

theorem clampInt_natCast {n : Nat} (h : n ≤ maxCount) : clampInt n = n := by
  unfold clampInt
  omega

theorem clampCount_of_rational? {x : Float} {q : Rat} (h : rational? x = some q) :
    clampCount (.real x) = clampInt q.floor := by
  simp only [clampCount, Binary64.floor?, h, Option.map_some]

theorem clampCount_of_isInf {x : Float} (h : x.isInf) :
    clampCount (.real x) = if isNegative x then 0 else maxCount := by
  simp only [clampCount, Binary64.floor?, rational?_of_isInf h, Option.map_none, h, Bool.true_and]
  cases isNegative x <;> rfl

theorem clampCount_of_isNaN {x : Float} (h : x.isNaN) : clampCount (.real x) = 0 := by
  simp only [clampCount, Binary64.floor?, rational?_of_isNaN h, Option.map_none,
    isInf_of_isNaN h, Bool.false_and]
  rfl

theorem asksFor_clampCount (v : Value) : AsksFor v (clampCount v) := by
  cases v with
  | int n => exact .int (natCast_clampInt n)
  | bool b => exact .bool b
  | text t => exact .text t
  | list items => exact .list items
  | absent => exact .absent
  | real x =>
    rcases rational_or_isInf_or_isNaN x with ⟨q, hq⟩ | hinf | hnan
    · refine .finite hq ?_
      rw [clampCount_of_rational? hq]
      exact natCast_clampInt q.floor
    · rw [clampCount_of_isInf hinf]
      cases hneg : isNegative x with
      | true => exact .negativeInfinite hinf hneg
      | false => exact .infinite hinf hneg
    · rw [clampCount_of_isNaN hnan]
      exact .notANumber hnan

/-- Every value asks for one number of keys, and that number is used. -/
theorem asksFor_iff {v : Value} {k : Nat} : AsksFor v k ↔ clampCount v = k := by
  refine ⟨fun h => ?_, fun h => h ▸ asksFor_clampCount v⟩
  cases h with
  | @int n k hk => exact Int.ofNat.inj ((natCast_clampInt n).trans hk.symm)
  | @finite x q k hq hk =>
    rw [clampCount_of_rational? hq]
    exact Int.ofNat.inj ((natCast_clampInt q.floor).trans hk.symm)
  | infinite hinf hpos => rw [clampCount_of_isInf hinf, hpos]; rfl
  | negativeInfinite hinf hneg => rw [clampCount_of_isInf hinf, if_pos hneg]
  | notANumber hnan => exact clampCount_of_isNaN hnan
  | bool b => rfl
  | text t => rfl
  | list items => rfl
  | absent => rfl

/-! ### Series -/

section

variable {σ : Type} {source : Source σ} {urns : List Urn}

/-- Keys that were drawn before stay in front. -/
theorem drawKeys_behind (keys : List Text) (n : Nat) (s : σ) :
    drawKeys source urns keys n s =
      Prod.map (keys.reverse ++ ·) id (drawKeys source urns [] n s) := by
  induction n generalizing keys s with
  | zero => exact Prod.ext (List.append_nil _).symm rfl
  | succ n ih =>
    rw [drawKeys_succ, drawKeys_succ, ih (_ :: keys), ih [_]]
    simp [Prod.map]

/-- A series is its first key and the series behind it. -/
theorem drawKeys_first (n : Nat) (s : σ) :
    drawKeys source urns [] (n + 1) s =
      Prod.map ((drawKey source urns s).1 :: ·) id
        (drawKeys source urns [] n (drawKey source urns s).2) := by
  rw [drawKeys_succ, drawKeys_behind]
  rfl

/-- Two series, the second where the first left the source, are one. -/
theorem drawKeys_add (a b : Nat) (s : σ) :
    drawKeys source urns [] (a + b) s =
      Prod.map ((drawKeys source urns [] a s).1 ++ ·) id
        (drawKeys source urns [] b (drawKeys source urns [] a s).2) := by
  induction a generalizing s with
  | zero => rw [Nat.zero_add]; rfl
  | succ a ih =>
    rw [Nat.add_right_comm, drawKeys_first, ih, drawKeys_first]
    rfl

theorem length_drawKeys (n : Nat) (s : σ) : (drawKeys source urns [] n s).1.length = n := by
  induction n generalizing s with
  | zero => rfl
  | succ n ih =>
    rw [drawKeys_first]
    exact congrArg (· + 1) (ih _)

/-- A shorter series is the beginning of a longer one. -/
theorem drawKeys_prefix {a b : Nat} (h : a ≤ b) (s : σ) :
    (drawKeys source urns [] a s).1 <+: (drawKeys source urns [] b s).1 := by
  obtain ⟨c, rfl⟩ := Nat.exists_eq_add_of_le h
  rw [drawKeys_add]
  exact List.prefix_append _ _

/-- A series takes one decision for each code point of its keys, and for each key one for each urn
    whose bounds leave a choice. -/
theorem drawKeys_counted (n : Nat) (s : σ) (k : Nat) :
    drawKeys source.counted urns [] n (s, k) =
      ((drawKeys source urns [] n s).1, (drawKeys source urns [] n s).2,
        k + (((drawKeys source urns [] n s).1.map List.length).sum +
          n * urns.countP fun u => u.lower ≠ u.upper)) := by
  induction n generalizing s k with
  | zero => simp [drawKeys]
  | succ n ih =>
    rw [drawKeys_first, drawKey_counted, ih, drawKeys_first]
    simp only [Prod.map, id, List.map_cons, List.sum_cons, Nat.succ_mul]
    congr 2
    omega

/-! ### Keys of a pattern -/

theorem generate_of_parse {pattern : Text} {pieces : List Piece}
    (hp : Pattern.parse pattern = .ok pieces) (count : Value) (s : σ) :
    generate source pattern count s =
      (.ok (drawKeys source (pieces.map Urn.ofPiece) [] (clampCount count) s).1,
        (drawKeys source (pieces.map Urn.ofPiece) [] (clampCount count) s).2) := by
  rw [generate, hp]
  rfl

theorem generate_of_fault {pattern : Text} {fault : Pattern.Fault}
    (hp : Pattern.parse pattern = .error fault) (count : Value) (s : σ) :
    generate source pattern count s = (.error (.pattern fault), s) := by
  rw [generate, hp]

theorem generate_counted {pattern : Text} {pieces : List Piece}
    (hp : Pattern.parse pattern = .ok pieces) (count : Value) (s : σ) (k : Nat) :
    ∃ keys s', generate source pattern count s = (.ok keys, s') ∧ keys.length = clampCount count ∧
      generate source.counted pattern count (s, k) =
        (.ok keys, s', k + ((keys.map List.length).sum +
          clampCount count * pieces.countP fun p => p.lower ≠ p.upper)) := by
  refine ⟨_, _, generate_of_parse hp count s, length_drawKeys _ s, ?_⟩
  rw [generate_of_parse hp, drawKeys_counted, List.countP_map]
  rfl

theorem clampCount_natCast {n : Nat} (h : n ≤ maxCount) : clampCount (.int n) = n :=
  clampInt_natCast h

theorem generate_split {pattern : Text} {pieces : List Piece}
    (hp : Pattern.parse pattern = .ok pieces) {a b : Nat} (h : a + b ≤ maxCount) (s : σ) :
    ∃ first second s₁ s₂,
      generate source pattern (.int a) s = (.ok first, s₁) ∧
        generate source pattern (.int b) s₁ = (.ok second, s₂) ∧
        generate source pattern (.int (a + b : Nat)) s = (.ok (first ++ second), s₂) := by
  refine ⟨_, _, _, _, generate_of_parse hp _ s, generate_of_parse hp _ _, ?_⟩
  rw [generate_of_parse hp, clampCount_natCast h, drawKeys_add, clampCount_natCast (by omega),
    clampCount_natCast (by omega)]
  rfl

theorem generate_prefix {pattern : Text} {pieces : List Piece}
    (hp : Pattern.parse pattern = .ok pieces) {count count' : Value}
    (h : clampCount count ≤ clampCount count') (s : σ) :
    ∃ keys more s₁ s₂, generate source pattern count s = (.ok keys, s₁) ∧
      generate source pattern count' s = (.ok (keys ++ more), s₂) := by
  have hprefix : (drawKeys source (pieces.map Urn.ofPiece) [] (clampCount count) s).1 <+:
      (drawKeys source (pieces.map Urn.ofPiece) [] (clampCount count') s).1 := drawKeys_prefix h s
  obtain ⟨more, hmore⟩ := hprefix
  refine ⟨_, more, _, (drawKeys source (pieces.map Urn.ofPiece) [] (clampCount count') s).2,
    generate_of_parse hp count s, ?_⟩
  rw [generate_of_parse hp, hmore]

end

/-- A pattern that is refused is refused as it is refused alone, and no decision is taken. Else as
    many keys are drawn as the count asks for, with one decision for each of their code points, and
    for each key one for each piece whose bounds leave a choice. Two series after each other are one
    series of both, so fewer keys are the beginning of more. -/
theorem generation_accounts {σ : Type} (source : Source σ) (pattern : Text) :
    (∀ v n, AsksFor v n ↔ clampCount v = n) ∧
      (∀ e, (Operation.compile pattern).result = .error e → ∀ count s k,
        generate source pattern count s = (.error e, s) ∧
          generate source.counted pattern count (s, k) = (.error e, s, k)) ∧
      ∀ pieces, (Operation.compile pattern).result = .ok pieces →
        (∀ count s k, ∃ keys s',
          generate source pattern count s = (.ok keys, s') ∧ keys.length = clampCount count ∧
            generate source.counted pattern count (s, k) =
              (.ok keys, s', k + ((keys.map List.length).sum +
                clampCount count * pieces.countP fun p => p.lower ≠ p.upper))) ∧
        (∀ a b : Nat, a + b ≤ maxCount → ∀ s, ∃ first second s₁ s₂,
          generate source pattern (.int a) s = (.ok first, s₁) ∧
            generate source pattern (.int b) s₁ = (.ok second, s₂) ∧
            generate source pattern (.int (a + b : Nat)) s = (.ok (first ++ second), s₂)) ∧
        ∀ count count', clampCount count ≤ clampCount count' → ∀ s, ∃ keys more s₁ s₂,
          generate source pattern count s = (.ok keys, s₁) ∧
            generate source pattern count' s = (.ok (keys ++ more), s₂) := by
  rw [Operation.compile_result]
  refine ⟨fun v n => asksFor_iff, fun e he count s k => ?_, fun pieces hpieces => ?_⟩
  · cases hp : Pattern.parse pattern with
    | ok pieces => rw [hp] at he; cases he
    | error fault =>
      rw [hp] at he
      cases he
      exact ⟨generate_of_fault hp count s, generate_of_fault hp count (s, k)⟩
  · cases hp : Pattern.parse pattern with
    | error fault => rw [hp] at hpieces; cases hpieces
    | ok own =>
      rw [hp] at hpieces
      cases hpieces
      exact ⟨fun count s k => generate_counted hp count s k, fun a b h s => generate_split hp h s,
        fun count count' h s => generate_prefix hp h s⟩

/-- Three keys of two pieces, one of which leaves a choice, in one series and in two. -/
theorem generation_accounts_feed :
    ∃ first second feed₁ feed₂,
      generate Feed.source (Text.lit "[a-c]\x7b2\x7d\\d?") (.int 1) (.cycle #[7, -3, 11] 0) =
          (.ok first, feed₁) ∧
        generate Feed.source (Text.lit "[a-c]\x7b2\x7d\\d?") (.int 2) feed₁ =
          (.ok second, feed₂) ∧
        generate Feed.source.counted (Text.lit "[a-c]\x7b2\x7d\\d?") (.int 3)
            (.cycle #[7, -3, 11] 0, 0) =
          (.ok (first ++ second), feed₂, ((first ++ second).map List.length).sum + 3) := by
  have hp : Pattern.parse (Text.lit "[a-c]\x7b2\x7d\\d?") =
      .ok [⟨.charClass (Text.lit "abc"), 2, 2⟩, ⟨.digit, 0, 1⟩] := by cbv
  have hcompiled : (Operation.compile (Text.lit "[a-c]\x7b2\x7d\\d?")).result =
      .ok [⟨.charClass (Text.lit "abc"), 2, 2⟩, ⟨.digit, 0, 1⟩] := by
    rw [Operation.compile_result, hp]
    rfl
  obtain ⟨_, _, hok⟩ := generation_accounts Feed.source (Text.lit "[a-c]\x7b2\x7d\\d?")
  obtain ⟨hcounted, hsplit, _⟩ := hok _ hcompiled
  obtain ⟨first, second, feed₁, feed₂, hfirst, hsecond, hboth⟩ :=
    hsplit 1 2 (by unfold maxCount; omega) (.cycle #[7, -3, 11] 0)
  obtain ⟨keys, feed₃, hkeys, _, htaken⟩ := hcounted (.int 3) (.cycle #[7, -3, 11] 0) 0
  obtain ⟨hsame, rfl⟩ : Except.ok (first ++ second) = Except.ok keys ∧ feed₂ = feed₃ :=
    Prod.ext_iff.1 (hboth.symm.trans hkeys)
  obtain rfl := Except.ok.inj hsame
  refine ⟨first, second, feed₁, feed₂, hfirst, hsecond, ?_⟩
  rw [htaken, Nat.zero_add]
  rfl

end Keyspace.Sampling
