import Keyspace.HashKey

/-!
Batches of keys assigned to partitions.

A batch is assigned as a whole: the first key that has no hash key fails it. The digest is a
parameter, and a batch tells the keys that the digest was asked for: none if the count is refused,
else every key up to the first that fails.
-/

namespace Keyspace

/-- A key, its digest as it was given, its hash key and its partition. -/
structure Assignment where
  key : Text
  digest : Text
  hashKey : Nat
  partition : Nat

namespace Assignment

/-- The assignment of one key to one of `n` partitions, by a digest that it was given. -/
def ofDigest (n : Nat) (key : Text) (digest : Value) : Except Error Assignment := do
  let h ← HashKey.ofDigest digest
  let written := match digest with
    | .text t => t
    | _ => []
  return ⟨key, written, h, HashKey.partition h n⟩

/-- The outcome for a batch, and the keys that the digest was asked for, in order. -/
structure Batch where
  outcome : Except Error (List Assignment)
  asked : List Text

/-- Assigns keys to `n` partitions one by one, up to the first that fails. `done` and `asked` hold
what came before, last first. -/
def assignAll (digest : Text → Except Error Value) (n : Nat) (done : List Assignment)
    (asked : List Text) : List Text → Batch
  | [] => ⟨.ok done.reverse, asked.reverse⟩
  | key :: rest =>
    match digest key >>= ofDigest n key with
    | .error e => ⟨.error e, (key :: asked).reverse⟩
    | .ok a => assignAll digest n (a :: done) (key :: asked) rest

/-- Assigns keys by a given digest. -/
def analyzeWith (digest : Text → Except Error Value) (keys : List Text) (count : Value) : Batch :=
  match PartitionCount.normalize count with
  | .error e => ⟨.error e, []⟩
  | .ok n => assignAll digest n [] [] keys

/-- Assigns keys by their MD5 digests. -/
def analyze (keys : List Text) (count : Value) : Except Error (List Assignment) :=
  (analyzeWith HashKey.digestOf keys count).outcome

end Assignment

end Keyspace
