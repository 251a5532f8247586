import Mathlib.Data.List.Forall2
import Keyspace.Proofs.Accounting

/-!
A batch is assigned as a whole, or not at all.

Three things can come of it (`Settled`). The count is refused, and the digest is asked for no key. A
key has no hash key: the first of these fails the batch, and the digest was asked for the keys up to
it. Or every key has its record, in the order of the keys. No matter which, nothing else comes of
the same keys (`analyzeWith_eq_iff`). A record is what its key and the count make of it alone
(`IsRecord`), so batches that are assigned are assigned as one.

    keys     a  b  c  d  e           keys     a  b  c  d  e
    asked    a  b  c                 asked    a  b  c  d  e
             ✓  ✓  ✗                          ✓  ✓  ✓  ✓  ✓
-/

namespace Keyspace.Assignment

/-- The record of a key: its digest is as it was given, its hash key is what the digest is read as,
    and its partition is that of the hash key, out of the count as it was asked for. -/
structure IsRecord (digest : Text → Except Error Value) (count : Value) (key : Text)
    (a : Assignment) : Prop where
  key_eq : a.key = key
  digest_eq : digest key = .ok (.text a.digest)
  hashKey_eq : HashKey.ofDigest (.text a.digest) = .ok a.hashKey
  partition_eq : HashKey.partitionOf (.int a.hashKey) count = .ok a.partition

/-- What comes of a batch of keys, and for which of them the digest is asked. -/
inductive Settled (digest : Text → Except Error Value) (count : Value) : List Text → Batch → Prop
  | countRefused {keys : List Text} {e : Error} (hc : PartitionCount.normalize count = .error e) :
      Settled digest count keys ⟨.error e, []⟩
  | keyFails {before after : List Text} {key : Text} {n : Nat} {e : Error}
      (hc : PartitionCount.normalize count = .ok n)
      (hbefore : ∀ k ∈ before, ∃ h, hashKeyBy digest k = .ok h)
      (hkey : hashKeyBy digest key = .error e) :
      Settled digest count (before ++ key :: after) ⟨.error e, before ++ [key]⟩
  | assigned {keys : List Text} {records : List Assignment} {n : Nat}
      (hc : PartitionCount.normalize count = .ok n)
      (hrecords : List.Forall₂ (IsRecord digest count) keys records) :
      Settled digest count keys ⟨.ok records, keys⟩

variable {digest : Text → Except Error Value} {count : Value} {n : Nat}

/-! ### One key -/

/-- A key is assigned exactly to its record. -/
theorem ofKey_eq_ok_iff_isRecord (hc : PartitionCount.normalize count = .ok n) {key : Text}
    {a : Assignment} : ofKey digest n key = .ok a ↔ IsRecord digest count key a := by
  rw [ofKey_eq_ok_iff]
  constructor
  · rintro ⟨t, h, hdigest, hhash, rfl⟩
    exact ⟨rfl, hdigest, hhash, HashKey.partitionOf_nat hc (HashKey.lt_of_ofDigest hhash)⟩
  · obtain ⟨key', t, h, i⟩ := a
    rintro ⟨rfl, hdigest, hhash, hpartition⟩
    have hi : HashKey.partition h n = i :=
      Except.ok.inj ((HashKey.partitionOf_nat hc (HashKey.lt_of_ofDigest hhash)).symm.trans
        hpartition)
    exact ⟨t, h, hdigest, hhash, by rw [hi]⟩

/-- A key without a hash key fails to be assigned, for the same cause. -/
theorem ofKey_of_error {key : Text} {e : Error} (h : hashKeyBy digest key = .error e) :
    ofKey digest n key = .error e := by
  rcases bind_eq_error_iff.1 h with hdigest | ⟨v, hdigest, hhash⟩
  · exact bind_eq_error_iff.2 (Or.inl hdigest)
  · exact bind_eq_error_iff.2 (Or.inr ⟨v, hdigest, bind_eq_error_iff.2 (Or.inl hhash)⟩)

/-! ### All keys -/

theorem map_ofKey_iff_records (hc : PartitionCount.normalize count = .ok n) {keys : List Text}
    {records : List Assignment} :
    keys.map (ofKey digest n) = records.map .ok ↔
      List.Forall₂ (IsRecord digest count) keys records := by
  rw [← List.forall₂_eq_eq_eq, List.forall₂_map_left_iff, List.forall₂_map_right_iff]
  exact ⟨fun h => h.imp fun _ _ => (ofKey_eq_ok_iff_isRecord hc).1,
    fun h => h.imp fun _ _ => (ofKey_eq_ok_iff_isRecord hc).2⟩

/-- Either every key has a hash key, or there is a first key that has none. -/
theorem all_or_first_failure (digest : Text → Except Error Value) (keys : List Text) :
    (∀ key ∈ keys, ∃ h, hashKeyBy digest key = .ok h) ∨
      ∃ before key after e, keys = before ++ key :: after ∧
        (∀ k ∈ before, ∃ h, hashKeyBy digest k = .ok h) ∧ hashKeyBy digest key = .error e := by
  induction keys with
  | nil => exact Or.inl (by simp)
  | cons key keys ih =>
    cases hkey : hashKeyBy digest key with
    | error e => exact Or.inr ⟨[], key, keys, e, rfl, by simp, hkey⟩
    | ok h =>
      rcases ih with hall | ⟨before, k, after, e, rfl, hbefore, hk⟩
      · refine Or.inl ?_
        rintro k (_ | ⟨_, hk⟩)
        · exact ⟨h, hkey⟩
        · exact hall k hk
      · refine Or.inr ⟨key :: before, k, after, e, rfl, ?_, hk⟩
        rintro j (_ | ⟨_, hj⟩)
        · exact ⟨h, hkey⟩
        · exact hbefore j hj

theorem exists_map_ofKey {keys : List Text} (n : Nat)
    (h : ∀ key ∈ keys, ∃ h, hashKeyBy digest key = .ok h) :
    ∃ records : List Assignment, keys.map (ofKey digest n) = records.map .ok := by
  apply exists_map_ok
  intro key hkey
  obtain ⟨k, hk⟩ := h key hkey
  exact exists_ofKey n hk

/-! ### The batch -/

/-- What is settled is what the batch comes to. -/
theorem Settled.analyzeWith_eq {keys : List Text} {batch : Batch}
    (h : Settled digest count keys batch) : analyzeWith digest keys count = batch := by
  cases h with
  | countRefused hc => rw [analyzeWith, hc]
  | keyFails hc hbefore hkey =>
    obtain ⟨records, hrecords⟩ := exists_map_ofKey _ hbefore
    exact analyzeWith_error hc hrecords (ofKey_of_error hkey)
  | assigned hc hrecords => exact analyzeWith_ok hc ((map_ofKey_iff_records hc).2 hrecords)

theorem settled_analyzeWith (digest : Text → Except Error Value) (keys : List Text)
    (count : Value) : Settled digest count keys (analyzeWith digest keys count) := by
  cases hc : PartitionCount.normalize count with
  | error e =>
    rw [(Settled.countRefused hc).analyzeWith_eq]
    exact .countRefused hc
  | ok n =>
    rcases all_or_first_failure digest keys with hall | ⟨before, key, after, e, rfl, hbefore, hkey⟩
    · obtain ⟨records, hrecords⟩ := exists_map_ofKey n hall
      rw [analyzeWith_ok hc hrecords]
      exact .assigned hc ((map_ofKey_iff_records hc).1 hrecords)
    · rw [(Settled.keyFails hc hbefore hkey).analyzeWith_eq]
      exact .keyFails hc hbefore hkey

theorem analyzeWith_eq_iff {keys : List Text} {batch : Batch} :
    analyzeWith digest keys count = batch ↔ Settled digest count keys batch := by
  constructor
  · rintro rfl
    exact settled_analyzeWith digest keys count
  · exact Settled.analyzeWith_eq

/-- The second of three keys has a digest that is no text; the third is not asked for. -/
example : (analyzeWith
    (fun key => .ok (if key = Text.lit "b" then .absent else .text (HashKey.hex 7)))
    [Text.lit "a", Text.lit "b", Text.lit "c"] (.int 4)).asked = [Text.lit "a", Text.lit "b"] := by
  rfl

end Keyspace.Assignment
