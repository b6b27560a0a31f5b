/-!
# SHA-1 digests

The 160-bit digest of a sequence of bytes. Words are naturals below `2 ^ 32`.
-/

namespace EntityStore

namespace Sha1

def addWords (a b : Nat) : Nat := (a + b) % Nat.pow 2 32

def rotateLeft (k a : Nat) : Nat := (a <<< k ||| a >>> (32 - k)) % Nat.pow 2 32

def complement (a : Nat) : Nat := (Nat.pow 2 32 - 1) ^^^ a

structure State where
  a : Nat
  b : Nat
  c : Nat
  d : Nat
  e : Nat
  deriving DecidableEq, Repr

def initial : State := ⟨0x67452301, 0xefcdab89, 0x98badcfe, 0x10325476, 0xc3d2e1f0⟩

def State.add (s t : State) : State :=
  ⟨addWords s.a t.a, addWords s.b t.b, addWords s.c t.c, addWords s.d t.d, addWords s.e t.e⟩

/-- `n` in `width` bytes, the most significant first. -/
def bigEndian : Nat → Nat → List Nat
  | 0, _ => []
  | width + 1, n => bigEndian width (n / 256) ++ [n % 256]

/-- A one bit, zeros up to 8 bytes short of a whole block, and the length in bits. -/
def padding (length : Nat) : List Nat :=
  let zeros := (119 - length % 64) % 64
  128 :: List.replicate zeros 0 ++ bigEndian 8 (8 * length)

def words : List Nat → List Nat
  | a :: b :: c :: d :: rest => (((a * 256 + b) * 256 + c) * 256 + d) :: words rest
  | _ => []

/-- Extends a block's words, the latest first. -/
def extend : Nat → List Nat → List Nat
  | 0, ws => ws
  | n + 1, ws =>
    let entry (i : Nat) : Nat := ws.getD i 0
    extend n (rotateLeft 1 (entry 2 ^^^ entry 7 ^^^ entry 13 ^^^ entry 15) :: ws)

def schedule (block : List Nat) : List Nat := (extend 64 block.reverse).reverse

/-- The mixing function and constant of a round. -/
def mix (round : Nat) (b c d : Nat) : Nat × Nat :=
  if round < 20 then ((b &&& c) ||| (complement b &&& d), 0x5a827999)
  else if round < 40 then (b ^^^ c ^^^ d, 0x6ed9eba1)
  else if round < 60 then ((b &&& c) ||| (b &&& d) ||| (c &&& d), 0x8f1bbcdc)
  else (b ^^^ c ^^^ d, 0xca62c1d6)

def rounds : Nat → List Nat → State → State
  | _, [], s => s
  | i, w :: rest, s =>
    let (f, k) := mix i s.b s.c s.d
    let sum := addWords (addWords (addWords (rotateLeft 5 s.a) f) s.e) (addWords k w)
    rounds (i + 1) rest ⟨sum, s.a, rotateLeft 30 s.b, s.c, s.d⟩

def compress (s : State) (block : List Nat) : State := s.add (rounds 0 (schedule block) s)

def blocks : Nat → List Nat → State → State
  | 0, _, s => s
  | n + 1, ws, s => blocks n (ws.drop 16) (compress s (ws.take 16))

def digest (bytes : List UInt8) : State :=
  let message := bytes.map UInt8.toNat ++ padding bytes.length
  blocks (message.length / 64) (words message) initial

end Sha1

end EntityStore
