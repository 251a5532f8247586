import Keyspace.Digest.Md5
import Keyspace.PartitionCount
import Keyspace.Text.Blank

/-!
Hash keys, and the partition that each of them belongs to.

The keyspace is the integers from 0 up to, but without, 2 ^ 128. A key's hash key is its MD5 digest
read in base 16, and `n` partitions divide the keyspace in order into parts as equal as can be.
-/

namespace Keyspace.HashKey

/-- The bits of a hash key. -/
def bits : Nat := 128

/-- The number of hash keys. -/
def keyspaceSize : Nat := Nat.pow 2 bits

/-- The greatest hash key. -/
def greatest : Nat := keyspaceSize - 1

/-- The digits of a hash key's text form. -/
def digitCount : Nat := 32

/-- The hash key that a digest writes: thirty-two base-16 digits of either case, blanks around them
left aside. -/
def ofDigest (digest : Value) : Except Error Nat :=
  match digest with
  | .text t =>
    let core := Text.strip t
    if core.length = digitCount then
      match Text.hexValue? core with
      | some h => .ok h
      | none => .error (.digestText t)
    else .error (.digestText t)
  | v => .error (.digestKind v)

/-- A hash key as thirty-two lower-case digits. -/
def hex (h : Nat) : Text := Text.hex digitCount h

/-- The digest of a key. -/
def digestOf (key : Text) : Except Error Value :=
  match Md5.ofText? key with
  | some digest => .ok (.text digest)
  | none => .error (.unencodable key)

/-- The hash key of a key. -/
def ofKey (key : Text) : Except Error Nat := digestOf key >>= ofDigest

/-- The partition, out of `n`, that a hash key belongs to: the integer part of `h * n / 2 ^ 128`. -/
def partition (h n : Nat) : Nat := (h * n) >>> bits

/-- The partition of a hash key that may be anything, out of a count that may be anything. The count
is looked at first. -/
def partitionOf (hashKey count : Value) : Except Error Nat := do
  let n ← PartitionCount.normalize count
  match hashKey with
  | .int h =>
    if 0 ≤ h ∧ h ≤ greatest then .ok (partition h.toNat n)
    else .error (.showing hashKey (.hashKeyOutside h))
  | v => .error (.hashKeyKind v)

/-- The partition of a key. The key is hashed first. -/
def partitionOfKey (key : Text) (count : Value) : Except Error Nat := do
  partitionOf (.int (← ofKey key)) count

/-! ### Where a hash key goes -/

theorem partition_eq (h n : Nat) : partition h n = h * n / keyspaceSize :=
  Nat.shiftRight_eq_div_pow _ _

theorem partition_lt {h n : Nat} (hh : h < keyspaceSize) (hn : 0 < n) : partition h n < n := by
  rw [partition_eq, Nat.div_lt_iff_lt_mul (by decide), Nat.mul_comm n]
  exact Nat.mul_lt_mul_of_pos_right hh hn

theorem partitionOf_nat {h n : Nat} {count : Value} (hc : PartitionCount.normalize count = .ok n)
    (hh : h < keyspaceSize) : partitionOf (.int h) count = .ok (partition h n) := by
  have hg : (h : Int) ≤ greatest := by unfold greatest; omega
  simp [partitionOf, hc, hg, bind, Except.bind]

end Keyspace.HashKey
