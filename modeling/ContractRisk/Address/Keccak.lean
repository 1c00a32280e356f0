/-
**Keccak-256**, the hash that the checksum of an address is taken from.

The state is twenty-five lanes of 64 bits, at `x + 5 * y`. A message is padded to whole blocks of 136
bytes with a one at its end and a one in the last bit of the last block, each block is added to the
state and followed by the permutation of twenty-four rounds, and the digest is the first 32 bytes.
-/

namespace ContractRisk.Keccak

/-- The lanes of the state. -/
abbrev State := Array UInt64

/-- The lane at a place of the state. -/
def lane (state : State) (place : Nat) : UInt64 := state.getD place 0

/-- A lane rotated to the left. -/
def rotate (word : UInt64) (amount : Nat) : UInt64 :=
  if amount = 0 then word
  else (word <<< amount.toUInt64) ||| (word >>> (64 - amount).toUInt64)

/-- The constants that are added to the first lane, one for each round. -/
def roundConstants : List UInt64 := [
  0x0000000000000001, 0x0000000000008082, 0x800000000000808A, 0x8000000080008000,
  0x000000000000808B, 0x0000000080000001, 0x8000000080008081, 0x8000000000008009,
  0x000000000000008A, 0x0000000000000088, 0x0000000080008009, 0x000000008000000A,
  0x000000008000808B, 0x800000000000008B, 0x8000000000008089, 0x8000000000008003,
  0x8000000000008002, 0x8000000000000080, 0x000000000000800A, 0x800000008000000A,
  0x8000000080008081, 0x8000000000008080, 0x0000000080000001, 0x8000000080008008]

/-- The amounts by which the lanes are rotated. -/
def rotations : Array Nat := #[
  0, 1, 62, 28, 27,
  36, 44, 6, 55, 20,
  3, 10, 43, 25, 39,
  41, 45, 15, 21, 8,
  18, 2, 61, 56, 14]

/-- Each lane plus the parities of the two columns beside it. -/
def mixColumns (state : State) : State :=
  let parity (x : Nat) :=
    lane state x ^^^ lane state (x + 5) ^^^ lane state (x + 10) ^^^ lane state (x + 15) ^^^
      lane state (x + 20)
  (Array.range 25).map fun place =>
    let x := place % 5
    lane state place ^^^ parity ((x + 4) % 5) ^^^ rotate (parity ((x + 1) % 5)) 1

/-- The lanes rotated and carried to their new places: the one at `(x, y)` goes to `(y, 2x + 3y)`. -/
def spread (state : State) : State :=
  (Array.range 25).map fun place =>
    let x := place % 5
    let y := place / 5
    let source := (x + 3 * y) % 5 + 5 * x
    rotate (lane state source) (rotations.getD source 0)

/-- Each lane combined with the two after it in its row. -/
def combineRows (state : State) : State :=
  (Array.range 25).map fun place =>
    let row := place / 5 * 5
    let x := place % 5
    lane state place ^^^
      (~~~(lane state (row + (x + 1) % 5)) &&& lane state (row + (x + 2) % 5))

/-- One round with its constant. -/
def round (state : State) (constant : UInt64) : State :=
  let mixed := combineRows (spread (mixColumns state))
  mixed.modify 0 (· ^^^ constant)

/-- The permutation of twenty-four rounds. -/
def permute (state : State) : State := roundConstants.foldl round state

/-- The count of bytes in a block. -/
def rate : Nat := 136

/-- A message filled up to whole blocks. -/
def pad (message : List UInt8) : List UInt8 :=
  let free := rate - message.length % rate
  if free = 1 then message ++ [0x81]
  else message ++ 0x01 :: List.replicate (free - 2) 0 ++ [0x80]

/-- The lane that eight bytes write, the lowest first. -/
def laneOfBytes (bytes : List UInt8) : UInt64 :=
  bytes.foldr (fun byte value => value <<< 8 ||| byte.toUInt64) 0

/-- The eight bytes of a lane, the lowest first. -/
def bytesOfLane (word : UInt64) : List UInt8 :=
  (List.range 8).map fun place => (word >>> (8 * place).toUInt64).toUInt8

/-- The state after one block is added to it. -/
def absorb (state : State) (block : List UInt8) : State :=
  permute ((Array.range 25).map fun place =>
    lane state place ^^^ laneOfBytes ((block.drop (8 * place)).take 8))

/-- The blocks of a padded message, `count` of them. -/
def blocks : Nat → List UInt8 → List (List UInt8)
  | 0, _ => []
  | count + 1, bytes => bytes.take rate :: blocks count (bytes.drop rate)

/-- The digest of a message. -/
def digest (message : List UInt8) : List UInt8 :=
  let padded := pad message
  let state := (blocks (padded.length / rate) padded).foldl absorb (Array.replicate 25 0)
  ((List.range 4).flatMap fun place => bytesOfLane (lane state place))

end ContractRisk.Keccak
