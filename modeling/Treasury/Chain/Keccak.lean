/-!
# Keccak-256

The digest that chains use for addresses and function selectors: the sponge over the
permutation of 1600 bits, absorbing 136 bytes at a time, with a single one bit as the start
of the padding. The state is an array of twenty-five lanes, lane `x + 5 * y` in column `x`
of row `y`.
-/

namespace Treasury.Keccak

/-- Rotates a lane to the left. -/
def rotateLeft (lane : UInt64) (n : Nat) : UInt64 :=
  if n % 64 = 0 then lane
  else (lane <<< UInt64.ofNat (n % 64)) ||| (lane >>> UInt64.ofNat (64 - n % 64))

/-- The amounts by which lanes are rotated. -/
def rotations : List Nat :=
  [0, 1, 62, 28, 27, 36, 44, 6, 55, 20, 3, 10, 43, 25, 39, 41, 45, 15, 21, 8, 18, 2, 61, 56, 14]

/-- The constant of each round. -/
def roundConstants : List UInt64 :=
  [0x0000000000000001, 0x0000000000008082, 0x800000000000808A, 0x8000000080008000,
    0x000000000000808B, 0x0000000080000001, 0x8000000080008081, 0x8000000000008009,
    0x000000000000008A, 0x0000000000000088, 0x0000000080008009, 0x000000008000000A,
    0x000000008000808B, 0x800000000000008B, 0x8000000000008089, 0x8000000000008003,
    0x8000000000008002, 0x8000000000000080, 0x000000000000800A, 0x800000008000000A,
    0x8000000080008081, 0x8000000000008080, 0x0000000080000001, 0x8000000080008008]

/-- The lanes of a state. -/
abbrev State := Array UInt64

/-- The state of all zeros. -/
def State.zero : State := Array.replicate 25 0

/-- The lane in column `x` and row `y`, both counted around. -/
def State.lane (s : State) (x y : Nat) : UInt64 := s.getD (x % 5 + 5 * (y % 5)) 0

/-- The state with `f x y` in column `x` of row `y`. -/
def State.tabulate (f : Nat → Nat → UInt64) : State :=
  ((List.range 25).map fun i => f (i % 5) (i / 5)).toArray

/-- Adds to each lane the parity of two neighbouring columns. -/
def theta (s : State) : State :=
  let parity := (List.range 5).map fun x =>
    s.lane x 0 ^^^ s.lane x 1 ^^^ s.lane x 2 ^^^ s.lane x 3 ^^^ s.lane x 4
  let column (x : Nat) : UInt64 := parity.getD (x % 5) 0
  State.tabulate fun x y => s.lane x y ^^^ column (x + 4) ^^^ rotateLeft (column (x + 1)) 1

/-- Rotates each lane and moves it to its new place. -/
def rhoPi (s : State) : State :=
  State.tabulate fun x y =>
    let column := (x + 3 * y) % 5
    rotateLeft (s.lane column x) (rotations.getD (column + 5 * x) 0)

/-- Mixes each row. -/
def chi (s : State) : State :=
  State.tabulate fun x y => s.lane x y ^^^ (~~~(s.lane (x + 1) y) &&& s.lane (x + 2) y)

/-- One round. -/
def round (s : State) (constant : UInt64) : State :=
  let mixed := chi (rhoPi (theta s))
  mixed.modify 0 (· ^^^ constant)

/-- The permutation. -/
def permute (s : State) : State := roundConstants.foldl round s

/-- The number of bytes absorbed at a time. -/
def rate : Nat := 136

/-- The lane of eight bytes, the lowest first. -/
def laneOfBytes (bytes : List UInt8) : UInt64 :=
  bytes.foldr (fun b lane => (lane <<< 8) ||| b.toUInt64) 0

/-- The eight bytes of a lane, the lowest first. -/
def bytesOfLane (lane : UInt64) : List UInt8 :=
  (List.range 8).map fun i => (lane >>> UInt64.ofNat (8 * i)).toUInt8

/-- Adds a block to the state and permutes it. -/
def absorbBlock (s : State) (block : List UInt8) : State :=
  permute (State.tabulate fun x y =>
    let start := 8 * (x + 5 * y)
    s.lane x y ^^^ (if start < rate then laneOfBytes ((block.drop start).take 8) else 0))

/-- Fills the last block: a one bit after the data and a one bit at the very end. -/
def pad (bytes : List UInt8) : List UInt8 :=
  let zeros := rate - 1 - bytes.length
  if zeros = 0 then bytes ++ [0x81]
  else bytes ++ 0x01 :: List.replicate (zeros - 1) 0 ++ [0x80]

/-- Absorbs all bytes, block by block. -/
def absorb (s : State) (bytes : List UInt8) : State :=
  if bytes.length < rate then absorbBlock s (pad bytes)
  else absorb (absorbBlock s (bytes.take rate)) (bytes.drop rate)
termination_by bytes.length
decreasing_by
  simp only [List.length_drop, rate] at *
  omega

/-- The digest of thirty-two bytes. -/
def digest (bytes : List UInt8) : List UInt8 :=
  let s := absorb State.zero bytes
  [0, 1, 2, 3].flatMap fun x => bytesOfLane (s.lane x 0)

/-- The digest of a text, by its bytes. -/
def digestText (text : String) : List UInt8 := digest text.toUTF8.toList

end Treasury.Keccak
