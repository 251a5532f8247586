import Keyspace.Assignment
import Keyspace.Proofs.Digest

/-!
A batch is assigned key by key, or it fails at the first key that has no hash key.

As long as keys are assigned the batch only collects their records (`assignAll_append`). Behind them
it either ends, or comes to a key that fails it. By MD5 digests the keys that fail are those without
a UTF-8 form, and no others.
-/

namespace Keyspace

/-- What follows a success succeeds only behind it. -/
theorem bind_eq_ok_iff {ε α β : Type} {x : Except ε α} {f : α → Except ε β} {b : β} :
    x >>= f = .ok b ↔ ∃ a, x = .ok a ∧ f a = .ok b := by
  cases x with
  | error e =>
    constructor
    · intro h
      cases h
    · rintro ⟨_, h, _⟩
      cases h
  | ok a =>
    constructor
    · intro h
      exact ⟨a, rfl, h⟩
    · rintro ⟨_, h, hf⟩
      cases h
      exact hf

/-- What follows a computation fails with it, or behind it. -/
theorem bind_eq_error_iff {ε α β : Type} {x : Except ε α} {f : α → Except ε β} {e : ε} :
    x >>= f = .error e ↔ x = .error e ∨ ∃ a, x = .ok a ∧ f a = .error e := by
  cases x with
  | error e' =>
    constructor
    · intro h
      cases h
      exact Or.inl rfl
    · rintro (h | ⟨_, h, _⟩)
      · cases h
        rfl
      · cases h
  | ok a =>
    constructor
    · intro h
      exact Or.inr ⟨a, rfl, h⟩
    · rintro (h | ⟨_, h, hf⟩)
      · cases h
      · cases h
        exact hf

namespace Assignment

variable {digest : Text → Except Error Value} {n : Nat}

/-! ### Any digest -/

/-- The assignment of one key, if its digest is that of a hash key. -/
def ofKey (digest : Text → Except Error Value) (n : Nat) (key : Text) : Except Error Assignment :=
  digest key >>= ofDigest n key

/-- A key is assigned exactly if its digest is a text that is read as a hash key, and its record
    holds the key, the text as it was given, the hash key and its partition. -/
theorem ofKey_eq_ok_iff {key : Text} {a : Assignment} :
    ofKey digest n key = .ok a ↔ ∃ t h, digest key = .ok (.text t) ∧
      HashKey.ofDigest (.text t) = .ok h ∧ a = ⟨key, t, h, HashKey.partition h n⟩ := by
  constructor
  · intro h
    obtain ⟨v, hv, h⟩ := bind_eq_ok_iff.1 h
    obtain ⟨k, hk, h⟩ := bind_eq_ok_iff.1 h
    cases v with
    | text t => cases h; exact ⟨t, k, hv, hk, rfl⟩
    | _ => cases hk
  · rintro ⟨t, h, hdigest, hhash, rfl⟩
    refine bind_eq_ok_iff.2 ⟨.text t, hdigest, ?_⟩
    exact bind_eq_ok_iff.2 ⟨h, hhash, rfl⟩

/-- Keys that are assigned go by, each leaving its record. -/
theorem assignAll_append {keys : List Text} {records : List Assignment}
    (h : keys.map (ofKey digest n) = records.map .ok)
    (done : List Assignment) (asked rest : List Text) :
    assignAll digest n done asked (keys ++ rest) =
      assignAll digest n (records.reverse ++ done) (keys.reverse ++ asked) rest := by
  induction keys generalizing records done asked with
  | nil =>
    cases records with
    | nil => rfl
    | cons a records => cases h
  | cons key keys ih =>
    cases records with
    | nil => cases h
    | cons a records =>
      obtain ⟨hkey, hkeys⟩ := List.cons.inj h
      rw [ofKey] at hkey
      rw [List.cons_append, assignAll, hkey]
      simp only [ih hkeys, List.reverse_cons, List.append_assoc, List.singleton_append]

theorem analyzeWith_ok {keys : List Text} {records : List Assignment} {count : Value}
    (hc : PartitionCount.normalize count = .ok n)
    (h : keys.map (ofKey digest n) = records.map .ok) :
    analyzeWith digest keys count = ⟨.ok records, keys⟩ := by
  have hall := assignAll_append h [] [] []
  rw [List.append_nil] at hall
  simp [analyzeWith, hc, hall, assignAll]

theorem analyzeWith_error {before after : List Text} {key : Text} {records : List Assignment}
    {count : Value} {e : Error} (hc : PartitionCount.normalize count = .ok n)
    (h : before.map (ofKey digest n) = records.map .ok)
    (he : ofKey digest n key = .error e) :
    analyzeWith digest (before ++ key :: after) count = ⟨.error e, before ++ [key]⟩ := by
  rw [ofKey] at he
  simp [analyzeWith, hc, assignAll_append h, assignAll, he]

/-! ### MD5 digests -/

/-- A key with a UTF-8 form is assigned. -/
theorem exists_assigned {key : Text} (n : Nat) (hk : Text.encodable key) :
    ∃ a, ofKey HashKey.digestOf n key = .ok a ∧ a.key = key := by
  obtain ⟨t, h, hdigest, hhash⟩ := HashKey.digestOf_of_encodable hk
  refine ⟨⟨key, t, h, HashKey.partition h n⟩, ?_, rfl⟩
  rw [ofKey, hdigest]
  change ofDigest n key (.text t) = _
  rw [ofDigest, hhash]
  rfl

theorem exists_records (n : Nat) {keys : List Text} (hk : ∀ key ∈ keys, Text.encodable key) :
    ∃ records : List Assignment, keys.map (ofKey HashKey.digestOf n) = records.map .ok ∧
      records.map Assignment.key = keys := by
  induction keys with
  | nil => exact ⟨[], rfl, rfl⟩
  | cons key keys ih =>
    obtain ⟨a, ha, hkey⟩ := exists_assigned n (hk key (by simp))
    obtain ⟨records, hrecords, hkeys⟩ := ih fun key h => hk key (by simp [h])
    refine ⟨a :: records, ?_, ?_⟩
    · rw [List.map_cons, List.map_cons, ha, hrecords]
    · rw [List.map_cons, hkey, hkeys]

/-- Keys with UTF-8 forms are analyzed, and each has its record. -/
theorem analyze_of_encodable {keys : List Text} {count : Value}
    (hc : PartitionCount.normalize count = .ok n) (hk : ∀ key ∈ keys, Text.encodable key) :
    ∃ records : List Assignment, analyze keys count = .ok records ∧
      records.map Assignment.key = keys := by
  obtain ⟨records, hrecords, hkeys⟩ := exists_records n hk
  refine ⟨records, ?_, hkeys⟩
  rw [analyze, analyzeWith_ok hc hrecords]

/-- The first key without a UTF-8 form fails the batch. -/
theorem analyze_unencodable {before after : List Text} {key : Text} {count : Value}
    (hc : PartitionCount.normalize count = .ok n) (hb : ∀ key ∈ before, Text.encodable key)
    (hk : Text.encodable key = false) :
    analyze (before ++ key :: after) count = .error (.unencodable key) := by
  obtain ⟨records, hrecords, _⟩ := exists_records n hb
  have he : ofKey HashKey.digestOf n key = .error (.unencodable key) := by
    rw [ofKey, HashKey.digestOf_unencodable hk]
    rfl
  rw [analyze, analyzeWith_error hc hrecords he]

end Assignment

end Keyspace
