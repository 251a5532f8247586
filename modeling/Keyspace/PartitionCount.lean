import Keyspace.Error

/-!
The gate for partition counts.

Every operation that takes a partition count lets it through here first: an integer from one on, or
a finite double whose floor is one. Truth values are no numbers. What is refused is shown in the
message, if it can be.
-/

namespace Keyspace.PartitionCount

/-- The refusal of a value that is no partition count. -/
def refusal (count : Value) : Error := .showing count (.partitionCount count)

/-- The number of partitions that a value stands for. -/
def normalize (count : Value) : Except Error Nat :=
  match count.floor? with
  | some n => if n < 1 then .error (refusal count) else .ok n.toNat
  | none => .error (refusal count)

theorem refusal_of_writable {count : Value} (h : count.isWritable) :
    refusal count = .partitionCount count :=
  if_pos h

theorem refusal_of_not_writable {count : Value} (h : ¬ count.isWritable) :
    refusal count = .integerTooLong :=
  if_neg h

theorem normalize_eq_ok_iff {count : Value} {n : Nat} :
    normalize count = .ok n ↔ count.floor? = some (n : Int) ∧ 0 < n := by
  unfold normalize
  cases count.floor? with
  | none => simp
  | some k =>
    simp only [Option.some.injEq]
    split
    · simp; omega
    · simp; omega

/-- A value stands for a number of partitions, or it is refused. -/
theorem normalize_cases (count : Value) :
    normalize count = .error (refusal count) ∨ ∃ n, normalize count = .ok n := by
  unfold normalize
  split
  · split
    · exact Or.inl rfl
    · exact Or.inr ⟨_, rfl⟩
  · exact Or.inl rfl

end Keyspace.PartitionCount
