import Keyspace.Proofs.Binary64.Order
import Keyspace.Proofs.WholeBatch

/-!
Every operation with a partition count has the same gate.

Each of them lets its count through before it looks at anything else, and goes on with the number
that comes out (`Gated.of_steps`). So what the gate refuses the operation refuses in the same words,
and with what the gate lets through it does the same as with the number alone. The gate is open for
the integers from one on and the finite doubles from one on, and gives the integer part
(`exists_normalize_iff`, `normalize_eq_ok_iff_isFloor`).

A refusal shows what it refuses. Where that holds an integer with too many digits, the operation
fails all the same and looks at nothing else, but not with the refusal. So it is with hash keys.

    count ──▶ gate ──▶ n ──▶ partition of a hash key, of a key, of each key of a batch
               │             table of ranges
               ▼             summary
         refused: nothing else is looked at, and the count is shown if it can be
-/

namespace Keyspace

/-- The kind of a domain error; other errors have none. -/
def Error.kind? (e : Error) : Option ErrorKind := e.report?.map ErrorReport.kind

/-- The result is a domain error of the kind. -/
def FailsWith {α : Type} (kind : ErrorKind) (result : Except Error α) : Prop :=
  ∃ e, result = .error e ∧ e.kind? = some kind

namespace PartitionCount

/-- The values that are partition counts: integers from one on, and finite doubles from one on. -/
def Accepted : Value → Prop
  | .int n => 1 ≤ n
  | .real x => x.isFinite ∧ 1.0 ≤ x
  | _ => False

/-- The greatest integer not above a number. -/
def IsFloor (n : Int) : Value → Prop
  | .int m => n = m
  | .real x => ∃ q, Binary64.rational? x = some q ∧ (n : Rat) ≤ q ∧ q < n + 1
  | _ => False

/-- The operation refuses its count exactly if the count is none and can be shown. A count that is
    none and cannot be shown fails the operation for that, in either case whatever else is wrong.
    And the operation does the same with a count as with the number that the count stands for. -/
structure Gated {α : Type} (run : Value → Except Error α) : Prop where
  fails_iff : ∀ c, FailsWith .partitionCount (run c) ↔ ¬ Accepted c ∧ c.isWritable
  refused : ∀ c, ¬ Accepted c → c.isWritable → run c = .error (.partitionCount c)
  unworded : ∀ c, ¬ Accepted c → ¬ c.isWritable → run c = .error .integerTooLong
  floored : ∀ (c : Value) (n : Nat), normalize c = .ok n → run c = run (.int n)

/-! ### The gate -/

theorem rational?_one_literal : Binary64.rational? 1.0 = some 1 := by
  decide +kernel

/-- A finite double from one on is one whose rational is at least one. -/
theorem accepted_real_iff {x : Float} :
    Accepted (.real x) ↔ ∃ q, Binary64.rational? x = some q ∧ 1 ≤ q := by
  constructor
  · rintro ⟨hfinite, hle⟩
    obtain ⟨q, hq⟩ := Binary64.isFinite_iff.1 hfinite
    exact ⟨q, hq, (Binary64.le_iff_of_rational? rational?_one_literal hq).1 hle⟩
  · rintro ⟨q, hq, hle⟩
    exact ⟨Binary64.isFinite_of_rational? hq,
      (Binary64.le_iff_of_rational? rational?_one_literal hq).2 hle⟩

theorem floor?_eq_some_iff {c : Value} {n : Int} : c.floor? = some n ↔ IsFloor n c := by
  cases c with
  | int m =>
    change some m = some n ↔ n = m
    rw [Option.some.injEq, eq_comm]
  | real x =>
    change (Binary64.rational? x).map Rat.floor = some n ↔ _
    rw [Option.map_eq_some_iff]
    refine exists_congr fun q => and_congr_right fun _ => ?_
    change ⌊q⌋ = n ↔ _
    exact Int.floor_eq_iff
  | _ => exact iff_of_false (fun h => by cases h) id

/-- The gate gives the integer part, if that is positive. -/
theorem normalize_eq_ok_iff_isFloor {c : Value} {n : Nat} :
    normalize c = .ok n ↔ IsFloor n c ∧ 0 < n := by
  rw [normalize_eq_ok_iff, floor?_eq_some_iff]

theorem exists_normalize_iff (c : Value) : (∃ n, normalize c = .ok n) ↔ Accepted c := by
  simp only [normalize_eq_ok_iff_isFloor]
  cases c with
  | int m =>
    constructor
    · rintro ⟨n, rfl, hn⟩
      exact Int.ofNat_le.2 hn
    · intro hm
      change 1 ≤ m at hm
      refine ⟨m.toNat, ?_, by omega⟩
      change (m.toNat : Int) = m
      omega
  | real x =>
    rw [accepted_real_iff]
    constructor
    · rintro ⟨n, ⟨q, hq, hle, _⟩, hn⟩
      have hone : (1 : Rat) ≤ ((n : Int) : Rat) := by exact_mod_cast hn
      exact ⟨q, hq, hone.trans hle⟩
    · rintro ⟨q, hq, hle⟩
      have hfloor : 1 ≤ ⌊q⌋ := Int.le_floor.2 (by exact_mod_cast hle)
      have hnat : (⌊q⌋.toNat : Int) = ⌊q⌋ := Int.toNat_of_nonneg (by omega)
      refine ⟨⌊q⌋.toNat, ⟨q, hq, ?_⟩, by omega⟩
      rw [hnat]
      exact ⟨Int.floor_le q, Int.lt_floor_add_one q⟩
  | _ => exact iff_of_false (fun ⟨_, h, _⟩ => h) id

theorem normalize_natCast {n : Nat} (hn : 0 < n) : normalize (.int n) = .ok n :=
  normalize_eq_ok_iff.2 ⟨rfl, hn⟩

/-- What came out of the gate goes through it unchanged. -/
theorem normalize_idempotent {c : Value} {n : Nat} (h : normalize c = .ok n) :
    normalize (.int n) = .ok n :=
  normalize_natCast (normalize_eq_ok_iff.1 h).2

theorem normalize_of_not_accepted {c : Value} (h : ¬ Accepted c) :
    normalize c = .error (refusal c) := by
  rcases normalize_cases c with hc | hc
  · exact hc
  · exact absurd ((exists_normalize_iff c).1 hc) h

theorem not_failsWith_ok {α : Type} (kind : ErrorKind) (a : α) :
    ¬ FailsWith kind (.ok a : Except Error α) := by
  rintro ⟨_, h, _⟩
  cases h

/-- That a value cannot be shown is no domain error. -/
theorem not_failsWith_integerTooLong {α : Type} (kind : ErrorKind) :
    ¬ FailsWith kind (.error .integerTooLong : Except Error α) := by
  rintro ⟨_, h, hkind⟩
  cases h
  cases hkind

/-- An operation that hands on what the gate refuses, goes on with the number that comes out, and
    behind the gate never fails for the count. -/
theorem Gated.of_steps {α : Type} {run : Value → Except Error α}
    (hrefused : ∀ c e, normalize c = .error e → run c = .error e)
    (hfloored : ∀ (c : Value) (n : Nat), normalize c = .ok n → run c = run (.int n))
    (hbehind : ∀ n : Nat, 0 < n → ¬ FailsWith .partitionCount (run (.int n))) : Gated run := by
  have hshown (c : Value) (hc : ¬ Accepted c) (h : c.isWritable) :
      run c = .error (.partitionCount c) :=
    hrefused c _ ((normalize_of_not_accepted hc).trans (by rw [refusal_of_writable h]))
  have hunworded (c : Value) (hc : ¬ Accepted c) (h : ¬ c.isWritable) :
      run c = .error .integerTooLong :=
    hrefused c _ ((normalize_of_not_accepted hc).trans (by rw [refusal_of_not_writable h]))
  refine ⟨?_, hshown, hunworded, hfloored⟩
  intro c
  constructor
  · intro hfails
    have hc : ¬ Accepted c := by
      intro hc
      obtain ⟨n, hn⟩ := (exists_normalize_iff c).2 hc
      rw [hfloored c n hn] at hfails
      exact hbehind n (normalize_eq_ok_iff.1 hn).2 hfails
    refine ⟨hc, ?_⟩
    by_contra h
    rw [hunworded c hc h] at hfails
    exact not_failsWith_integerTooLong _ hfails
  · rintro ⟨hc, h⟩
    exact ⟨_, hshown c hc h, rfl⟩

/-- The gate and then something that cannot fail. -/
theorem Gated.of_map {α : Type} {run : Value → Except Error α} {f : Nat → α}
    (hrun : ∀ c, run c = (normalize c).map f) : Gated run := by
  refine Gated.of_steps ?_ ?_ ?_
  · intro c e hc
    rw [hrun, hc]
    rfl
  · intro c n hc
    rw [hrun, hrun, hc, normalize_idempotent hc]
  · intro n hn
    rw [hrun, normalize_natCast hn]
    exact not_failsWith_ok _ _

/-! ### What is behind the gate -/

/-- The values that are hash keys. -/
def InKeyspace : Value → Prop
  | .int h => 0 ≤ h ∧ h < HashKey.keyspaceSize
  | _ => False

/-- What is shown of a value that is no hash key can be shown: the integer, or else its kind. -/
def KeyShown : Value → Prop
  | .int h => Text.isWritable h
  | _ => True

/-- What comes of a hash key behind the gate. -/
inductive Placed (hashKey : Value) : Except Error Nat → Prop where
  | placed {i : Nat} (h : InKeyspace hashKey) : Placed hashKey (.ok i)
  | refused {e : Error} (h : ¬ InKeyspace hashKey) (hshown : KeyShown hashKey)
      (hkind : e.kind? = some .hashKey) : Placed hashKey (.error e)
  | unworded (h : ¬ InKeyspace hashKey) (hshown : ¬ KeyShown hashKey) :
      Placed hashKey (.error .integerTooLong)

/-- Behind the gate a hash key has its partition, and any other value fails for what it is, or
    because it cannot be shown. -/
theorem partitionOf_behind {c : Value} {n : Nat} (hc : normalize c = .ok n) (hashKey : Value) :
    Placed hashKey (HashKey.partitionOf hashKey c) := by
  cases hashKey with
  | int h =>
    by_cases hin : 0 ≤ h ∧ h < HashKey.keyspaceSize
    · obtain ⟨k, rfl⟩ := Int.eq_ofNat_of_zero_le hin.1
      rw [HashKey.partitionOf_nat hc (Int.ofNat_lt.1 hin.2)]
      exact .placed hin
    have hout : ¬ (0 ≤ h ∧ h ≤ (HashKey.greatest : Int)) := by
      have hgreatest : (HashKey.greatest : Int) = HashKey.keyspaceSize - 1 := by decide
      omega
    have hrun : HashKey.partitionOf (.int h) c =
        .error (.showing (.int h) (.hashKeyOutside h)) := by
      simp [HashKey.partitionOf, hc, hout, bind, Except.bind]
    rw [hrun, Error.showing, Value.isWritable]
    split
    · next hshown => exact .refused hin hshown rfl
    · next hshown => exact .unworded hin hshown
  | _ =>
    rw [HashKey.partitionOf, hc]
    exact .refused (fun hin => hin) trivial rfl

theorem failsWith_unique {α : Type} {result : Except Error α} {k l : ErrorKind}
    (hk : FailsWith k result) (hl : FailsWith l result) : k = l := by
  obtain ⟨e, rfl, hk⟩ := hk
  obtain ⟨e', he, hl⟩ := hl
  cases he
  exact Option.some.inj (hk.symm.trans hl)

/-- What is read as no hash key fails for what it is. -/
theorem kind_ofDigest {v : Value} {e : Error} (h : HashKey.ofDigest v = .error e) :
    e.kind? = some .digestFormat := by
  cases v with
  | text t =>
    simp only [HashKey.ofDigest] at h
    split at h
    · split at h
      · cases h
      · cases h
        rfl
    · cases h
      rfl
  | _ =>
    cases h
    rfl

/-- A key fails for the count only if its digest does. -/
theorem not_failsWith_hashKeyBy {digest : Text → Except Error Value} {key : Text}
    (hd : ¬ FailsWith .partitionCount (digest key)) :
    ¬ FailsWith .partitionCount (Assignment.hashKeyBy digest key) := by
  rintro ⟨e, he, hkind⟩
  rcases bind_eq_error_iff.1 he with hdigest | ⟨v, _, hhash⟩
  · exact hd ⟨e, hdigest, hkind⟩
  · rw [kind_ofDigest hhash] at hkind
    cases hkind

/-! ### Operations -/

theorem gated_partitionOf (hashKey : Value) : Gated (HashKey.partitionOf hashKey) := by
  refine Gated.of_steps ?_ ?_ ?_
  · intro c e hc
    simp only [HashKey.partitionOf, hc]
    rfl
  · intro c n hc
    simp only [HashKey.partitionOf, hc, normalize_idempotent hc]
  · intro n hn hfails
    have hplaced := partitionOf_behind (normalize_natCast hn) hashKey
    generalize HashKey.partitionOf hashKey (.int n) = result at hfails hplaced
    cases hplaced with
    | placed => exact not_failsWith_ok _ _ hfails
    | refused _ _ hkind => cases failsWith_unique hfails ⟨_, rfl, hkind⟩
    | unworded => exact not_failsWith_integerTooLong _ hfails

/-- A key with a UTF-8 form has a hash key, so its partition can fail for nothing but the count. -/
theorem gated_partitionOfKey {key : Text} (hk : Text.encodable key) :
    Gated (HashKey.partitionOfKey key) := by
  obtain ⟨t, h, hdigest, hhash⟩ := HashKey.digestOf_of_encodable hk
  have hrun : HashKey.partitionOfKey key = HashKey.partitionOf (.int h) := by
    funext c
    rw [HashKey.partitionOfKey, HashKey.ofKey, hdigest]
    change HashKey.ofDigest (.text t) >>= _ = _
    rw [hhash]
    rfl
  rw [hrun]
  exact gated_partitionOf _

/-- A batch, by a digest that does not itself fail for a count. -/
theorem gated_analyzeWith {digest : Text → Except Error Value}
    (hd : ∀ key, ¬ FailsWith .partitionCount (digest key)) (keys : List Text) :
    Gated fun c => (Assignment.analyzeWith digest keys c).outcome := by
  refine Gated.of_steps ?_ ?_ ?_
  · intro c e hc
    rw [Assignment.analyzeWith, hc]
  · intro c n hc
    simp only [Assignment.analyzeWith, hc, normalize_idempotent hc]
  · rintro n hn ⟨e, he, hkind⟩
    generalize hbatch : Assignment.analyzeWith digest keys (.int n) = batch at he
    cases Assignment.analyzeWith_eq_iff.1 hbatch with
    | countRefused hc =>
      rw [normalize_natCast hn] at hc
      cases hc
    | keyFails _ _ hkey =>
      cases he
      exact not_failsWith_hashKeyBy (hd _) ⟨e, hkey, hkind⟩
    | assigned => cases he

theorem gated_analyze (keys : List Text) : Gated (Assignment.analyze keys) := by
  refine gated_analyzeWith ?_ keys
  rintro key ⟨e, he, hkind⟩
  cases hk : Text.encodable key with
  | true =>
    obtain ⟨t, _, ht, _⟩ := HashKey.digestOf_of_encodable hk
    rw [ht] at he
    cases he
  | false =>
    rw [HashKey.digestOf_unencodable hk] at he
    cases he
    cases hkind

/-- The gate is open for the integers and the finite doubles from one on, and gives the integer
    part. Every operation has it, in front of everything else that can go wrong; behind it, the
    partition of a hash key fails exactly with what is no hash key. What is refused is told as
    refused exactly if it can be shown: an integer with too many digits is not. -/
theorem operations_gated (hashKey : Value) (key : Text) (digest : Text → Value)
    (keys : List Text) (indexes : List Int) :
    (∀ c, (∃ n, normalize c = .ok n) ↔ Accepted c) ∧
      (∀ (c : Value) (n : Nat), normalize c = .ok n → IsFloor n c ∧ normalize (.int n) = .ok n) ∧
      Gated normalize ∧
      Gated (HashKey.partitionOf hashKey) ∧
      (Text.encodable key → Gated (HashKey.partitionOfKey key)) ∧
      (Gated fun c => (Assignment.analyzeWith (fun key => .ok (digest key)) keys c).outcome) ∧
      Gated (Assignment.analyze keys) ∧
      Gated HashKeyRange.tableFor ∧
      Gated (Distribution.summarize · indexes) ∧
      ∀ c, Accepted c →
        ((∃ i, HashKey.partitionOf hashKey c = .ok i) ↔ InKeyspace hashKey) ∧
        (FailsWith .hashKey (HashKey.partitionOf hashKey c) ↔
          ¬ InKeyspace hashKey ∧ KeyShown hashKey) ∧
        (HashKey.partitionOf hashKey c = .error .integerTooLong ↔
          ¬ InKeyspace hashKey ∧ ¬ KeyShown hashKey) := by
  refine ⟨exists_normalize_iff, ?_, ?_, gated_partitionOf hashKey, gated_partitionOfKey,
    gated_analyzeWith (fun _ => not_failsWith_ok _ _) keys, gated_analyze keys,
    Gated.of_map fun _ => rfl, Gated.of_map fun _ => rfl, ?_⟩
  · intro c n h
    exact ⟨(normalize_eq_ok_iff_isFloor.1 h).1, normalize_idempotent h⟩
  · refine Gated.of_map (f := id) fun c => ?_
    cases normalize c <;> rfl
  · intro c hc
    obtain ⟨n, hn⟩ := (exists_normalize_iff c).2 hc
    have hplaced := partitionOf_behind hn hashKey
    generalize HashKey.partitionOf hashKey c = result at hplaced ⊢
    cases hplaced with
    | @placed i hin =>
      refine ⟨iff_of_true ⟨i, rfl⟩ hin, iff_of_false (not_failsWith_ok _ _) ?_,
        iff_of_false nofun ?_⟩ <;> exact fun h => h.1 hin
    | @refused e hout hshown hkind =>
      refine ⟨iff_of_false nofun hout, iff_of_true ⟨e, rfl, hkind⟩ ⟨hout, hshown⟩,
        iff_of_false ?_ fun h => h.2 hshown⟩
      intro h
      cases h
      cases hkind
    | unworded hout hshown =>
      exact ⟨iff_of_false nofun hout,
        iff_of_false (not_failsWith_integerTooLong _) fun h => hshown h.2,
        iff_of_true rfl ⟨hout, hshown⟩⟩

/-- One half is no count, also for the partition of what is no hash key; 4.9 counts as four. An
    integer below zero is refused, but not if it has too many digits: then the operations fail,
    without refusing anything. -/
theorem operations_gated_overlong :
    HashKey.partitionOf (.text []) (.real 0.5) = .error (.partitionCount (.real 0.5)) ∧
      HashKey.partitionOf (.int (-1)) (.real 4.9) = HashKey.partitionOf (.int (-1)) (.int 4) ∧
      FailsWith .hashKey (HashKey.partitionOf (.int (-1)) (.real 4.9)) ∧
      ¬ Accepted (.int (-Text.overlong)) ∧
      normalize (.int (-Text.overlong)) = .error .integerTooLong ∧
      ¬ FailsWith .partitionCount (normalize (.int (-Text.overlong))) ∧
      HashKey.partitionOf (.int (-Text.overlong)) (.real 4.9) = .error .integerTooLong := by
  have hhalf : ¬ Accepted (.real 0.5) := by
    rintro ⟨_, hle⟩
    exact absurd hle (by decide +kernel)
  have hfour : normalize (.real 4.9) = .ok 4 :=
    normalize_eq_ok_iff.2 ⟨by decide +kernel, by decide⟩
  have hneg : ¬ Accepted (.int (-Text.overlong)) := by
    have hpos := Text.overlong_pos
    change ¬ (1 : Int) ≤ -Text.overlong
    omega
  have hout : ¬ InKeyspace (.int (-Text.overlong)) := by
    rintro ⟨hle, _⟩
    have hpos := Text.overlong_pos
    omega
  have hgated (hashKey : Value) := operations_gated hashKey [] (fun _ => .absent) [] []
  obtain ⟨haccepted, _, hnormalize, _⟩ := hgated .absent
  obtain ⟨_, _, _, htext, _⟩ := hgated (.text [])
  obtain ⟨_, _, _, hbelow, _, _, _, _, _, hbelow'⟩ := hgated (.int (-1))
  obtain ⟨_, _, _, _, _, _, _, _, _, hoverlong⟩ := hgated (.int (-Text.overlong))
  have hunshown : ¬ (Value.int (-Text.overlong)).isWritable := by
    rw [Value.isWritable]
    exact Text.not_isWritable_neg_overlong
  have hfourth := (haccepted _).1 ⟨4, hfour⟩
  refine ⟨htext.refused _ hhalf (by rw [Value.isWritable]), hbelow.floored _ _ hfour,
    (hbelow' _ hfourth).2.1.2 ⟨by simp [InKeyspace], by rfl⟩, hneg,
    hnormalize.unworded _ hneg hunshown, ?_, ?_⟩
  · exact fun h => hunshown ((hnormalize.fails_iff _).1 h).2
  · exact (hoverlong _ hfourth).2.2.2 ⟨hout, Text.not_isWritable_neg_overlong⟩

end PartitionCount

end Keyspace
