/-!
# Keccak-256

The sponge over the permutation of 1600 bits, with a rate of 136 bytes and the
padding that starts with `0x01`.  Lanes are listed row by row.
-/

namespace TraceAdapter
namespace Evm
namespace Keccak

def roundConstants : List UInt64 :=
  [0x0000000000000001, 0x0000000000008082, 0x800000000000808A,
   0x8000000080008000, 0x000000000000808B, 0x0000000080000001,
   0x8000000080008081, 0x8000000000008009, 0x000000000000008A,
   0x0000000000000088, 0x0000000080008009, 0x000000008000000A,
   0x000000008000808B, 0x800000000000008B, 0x8000000000008089,
   0x8000000000008003, 0x8000000000008002, 0x8000000000000080,
   0x000000000000800A, 0x800000008000000A, 0x8000000080008081,
   0x8000000000008080, 0x0000000080000001, 0x8000000080008008]

def rotations : List UInt64 :=
  [0, 1, 62, 28, 27, 36, 44, 6, 55, 20, 3, 10, 43, 25, 39, 41, 45, 15, 21, 8,
   18, 2, 61, 56, 14]

def rotateLeft (x n : UInt64) : UInt64 :=
  if n = 0 then x else (x <<< n) ||| (x >>> (64 - n))

def lane (state : List UInt64) (x y : Nat) : UInt64 :=
  (state[x % 5 + 5 * (y % 5)]?).getD 0

def tabulate (f : Nat -> Nat -> UInt64) : List UInt64 :=
  (List.range 25).map fun i => f (i % 5) (i / 5)

def theta (state : List UInt64) : List UInt64 :=
  let parities := (List.range 5).map fun x =>
    lane state x 0 ^^^ lane state x 1 ^^^ lane state x 2 ^^^ lane state x 3 ^^^
      lane state x 4
  let parity (x : Nat) : UInt64 := (parities[x % 5]?).getD 0
  tabulate fun x y =>
    lane state x y ^^^ (parity (x + 4) ^^^ rotateLeft (parity (x + 1)) 1)

def rho (state : List UInt64) : List UInt64 :=
  List.zipWith rotateLeft state rotations

def pi (state : List UInt64) : List UInt64 :=
  tabulate fun x y => lane state (x + 3 * y) x

def chi (state : List UInt64) : List UInt64 :=
  tabulate fun x y =>
    lane state x y ^^^ (~~~ lane state (x + 1) y &&& lane state (x + 2) y)

def iota (c : UInt64) : List UInt64 -> List UInt64
  | [] => []
  | x :: rest => (x ^^^ c) :: rest

def permute (state : List UInt64) : List UInt64 :=
  roundConstants.foldl (fun s c => iota c (chi (pi (rho (theta s))))) state

def rate : Nat := 136

def laneOfBytes (bytes : List UInt8) : UInt64 :=
  bytes.foldr (fun b x => (x <<< 8) ||| b.toUInt64) 0

def bytesOfLane (x : UInt64) : List UInt8 :=
  (List.range 8).map fun i => (x >>> (8 * i.toUInt64)).toUInt8

def pad (bytes : List UInt8) : List UInt8 :=
  let short := rate - bytes.length % rate
  if short = 1 then bytes ++ [0x81]
  else bytes ++ [0x01] ++ List.replicate (short - 2) 0 ++ [0x80]

def absorb (state : List UInt64) (block : List UInt8) : List UInt64 :=
  let lanes := (List.range (rate / 8)).map fun i =>
    laneOfBytes ((block.drop (8 * i)).take 8)
  permute (tabulate fun x y =>
    lane state x y ^^^ (lanes[x + 5 * y]?).getD 0)

def hash (bytes : List UInt8) : List UInt8 :=
  let padded := pad bytes
  let blocks := (List.range (padded.length / rate)).map fun i =>
    (padded.drop (rate * i)).take rate
  let state := blocks.foldl absorb (List.replicate 25 0)
  (state.flatMap bytesOfLane).take 32

end Keccak
end Evm
end TraceAdapter
