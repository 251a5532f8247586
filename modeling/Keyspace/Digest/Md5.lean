import Keyspace.Text.Hexadecimal
import Keyspace.Text.Utf8

/-!
The MD5 digest.

The padded message is a sequence of 32-bit words in little-endian order. Each sixteen of them change
a state of four words in sixty-four rounds, and the final state, written in base 16, is the digest.
-/

namespace Keyspace.Md5

/-- The chaining state. -/
structure State where
  a : UInt32
  b : UInt32
  c : UInt32
  d : UInt32

/-- The state before the first block. -/
def State.start : State := ⟨0x67452301, 0xefcdab89, 0x98badcfe, 0x10325476⟩

/-- What one round uses: a word of the block, a constant, a rotation, and one of four functions. -/
structure Round where
  word : Nat
  constant : UInt32
  rotation : UInt32
  phase : Nat

/-- The integer parts of `2 ^ 32 * |sin i|` for `i` from 1 to 64. -/
def constants : List UInt32 :=
  [0xd76aa478, 0xe8c7b756, 0x242070db, 0xc1bdceee, 0xf57c0faf, 0x4787c62a,
   0xa8304613, 0xfd469501, 0x698098d8, 0x8b44f7af, 0xffff5bb1, 0x895cd7be,
   0x6b901122, 0xfd987193, 0xa679438e, 0x49b40821, 0xf61e2562, 0xc040b340,
   0x265e5a51, 0xe9b6c7aa, 0xd62f105d, 0x02441453, 0xd8a1e681, 0xe7d3fbc8,
   0x21e1cde6, 0xc33707d6, 0xf4d50d87, 0x455a14ed, 0xa9e3e905, 0xfcefa3f8,
   0x676f02d9, 0x8d2a4c8a, 0xfffa3942, 0x8771f681, 0x6d9d6122, 0xfde5380c,
   0xa4beea44, 0x4bdecfa9, 0xf6bb4b60, 0xbebfbc70, 0x289b7ec6, 0xeaa127fa,
   0xd4ef3085, 0x04881d05, 0xd9d4d039, 0xe6db99e5, 0x1fa27cf8, 0xc4ac5665,
   0xf4292244, 0x432aff97, 0xab9423a7, 0xfc93a039, 0x655b59c3, 0x8f0ccc92,
   0xffeff47d, 0x85845dd1, 0x6fa87e4f, 0xfe2ce6e0, 0xa3014314, 0x4e0811a1,
   0xf7537e82, 0xbd3af235, 0x2ad7d2bb, 0xeb86d391]

/-- The rotations of a phase, used in turn. -/
def rotations : Nat → List UInt32
  | 0 => [7, 12, 17, 22]
  | 1 => [5, 9, 14, 20]
  | 2 => [4, 11, 16, 23]
  | _ => [6, 10, 15, 21]

/-- The word of the block that round `i` uses. -/
def wordIndex (i : Nat) : Nat :=
  match i / 16 with
  | 0 => i % 16
  | 1 => (5 * i + 1) % 16
  | 2 => (3 * i + 5) % 16
  | _ => (7 * i) % 16

/-- The sixty-four rounds in order. -/
def rounds : List Round :=
  constants.zipIdx.map fun (constant, i) =>
    ⟨wordIndex i, constant, (rotations (i / 16)).getD (i % 4) 0, i / 16⟩

/-- The function of a phase on three words. -/
def mix (phase : Nat) (b c d : UInt32) : UInt32 :=
  match phase with
  | 0 => (b &&& c) ||| (~~~b &&& d)
  | 1 => (d &&& b) ||| (~~~d &&& c)
  | 2 => b ^^^ c ^^^ d
  | _ => c ^^^ (b ||| ~~~d)

/-- The word turned left. -/
def rotate (x n : UInt32) : UInt32 := (x <<< n) ||| (x >>> (32 - n))

/-- One round. -/
def State.round (block : Array UInt32) (s : State) (r : Round) : State :=
  let sum := s.a + mix r.phase s.b s.c s.d + r.constant + block.getD r.word 0
  ⟨s.d, s.b + rotate sum r.rotation, s.b, s.c⟩

/-- The state after a block of sixteen words. -/
def State.compress (s : State) (block : Array UInt32) : State :=
  let t := rounds.foldl (State.round block) s
  ⟨s.a + t.a, s.b + t.b, s.c + t.c, s.d + t.d⟩

/-- The state and the words of a block that is not full yet. -/
structure Intake where
  state : State
  pending : Array UInt32

/-- One more word of the message. -/
def Intake.absorb (t : Intake) (w : UInt32) : Intake :=
  let pending := t.pending.push w
  if pending.size = 16 then ⟨t.state.compress pending, #[]⟩ else ⟨t.state, pending⟩

/-- The words that bytes make, taken in one by one: four bytes are a word, the first of them the
least significant. -/
def Intake.absorbBytes (t : Intake) : List UInt8 → Intake
  | a :: b :: c :: d :: rest =>
    let word := a.toUInt32 ||| b.toUInt32 <<< 8 ||| c.toUInt32 <<< 16 ||| d.toUInt32 <<< 24
    (t.absorb word).absorbBytes rest
  | _ => t

/-- The last bytes of a padded message of `size` bytes: a mark, zeros up to eight bytes before the
end of a block, and the size in bits. -/
def padding (size : Nat) : List UInt8 :=
  let bits := 8 * size
  0x80 :: List.replicate ((119 - size % 64) % 64) 0 ++
    (List.range 8).map fun (i : Nat) => UInt8.ofNat ((bits >>> (8 * i)) % 256)

/-- The state after the whole message. -/
def digest (message : List UInt8) : State :=
  (Intake.absorbBytes ⟨.start, #[]⟩ (message ++ padding message.length)).state

/-- The eight digits of a word, its least significant byte first. -/
def wordHex (w : UInt32) : Text :=
  (List.range 4).flatMap fun i => Text.hex 2 ((w.toNat >>> (8 * i)) % 256)

/-- The thirty-two digits of a state. -/
def State.hex (s : State) : Text := wordHex s.a ++ wordHex s.b ++ wordHex s.c ++ wordHex s.d

/-- The digest of a text's UTF-8 form; `none` if it has none. -/
def ofText? (t : Text) : Option Text := (Text.utf8? t).map fun bytes => (digest bytes).hex

end Keyspace.Md5
