import TrustAnchor.Bytes

/-!
SHA-256 over byte strings.

The chaining value is a structure of eight words, so that a digest has 32 bytes by its shape.  The message
schedule is kept as a window of sixteen words: each round uses the first word, and the next one follows the
last.
-/

namespace TrustAnchor
namespace Sha256

/-- The chaining value. -/
structure State where
  a : UInt32
  b : UInt32
  c : UInt32
  d : UInt32
  e : UInt32
  f : UInt32
  g : UInt32
  h : UInt32
  deriving DecidableEq, Repr

/-- The chaining value before the first block. -/
def State.start : State where
  a := 0x6a09e667
  b := 0xbb67ae85
  c := 0x3c6ef372
  d := 0xa54ff53a
  e := 0x510e527f
  f := 0x9b05688c
  g := 0x1f83d9ab
  h := 0x5be0cd19

def State.add (s t : State) : State where
  a := s.a + t.a
  b := s.b + t.b
  c := s.c + t.c
  d := s.d + t.d
  e := s.e + t.e
  f := s.f + t.f
  g := s.g + t.g
  h := s.h + t.h

/-- The eight words one after the other. -/
def State.bytes (s : State) : Bytes :=
  Bytes.ofU32 s.a ++ Bytes.ofU32 s.b ++ Bytes.ofU32 s.c ++ Bytes.ofU32 s.d ++
    Bytes.ofU32 s.e ++ Bytes.ofU32 s.f ++ Bytes.ofU32 s.g ++ Bytes.ofU32 s.h

/-- The constant of each of the sixty-four rounds. -/
def roundConstants : List UInt32 :=
  [0x428a2f98, 0x71374491, 0xb5c0fbcf, 0xe9b5dba5, 0x3956c25b, 0x59f111f1, 0x923f82a4, 0xab1c5ed5,
    0xd807aa98, 0x12835b01, 0x243185be, 0x550c7dc3, 0x72be5d74, 0x80deb1fe, 0x9bdc06a7, 0xc19bf174,
    0xe49b69c1, 0xefbe4786, 0x0fc19dc6, 0x240ca1cc, 0x2de92c6f, 0x4a7484aa, 0x5cb0a9dc, 0x76f988da,
    0x983e5152, 0xa831c66d, 0xb00327c8, 0xbf597fc7, 0xc6e00bf3, 0xd5a79147, 0x06ca6351, 0x14292967,
    0x27b70a85, 0x2e1b2138, 0x4d2c6dfc, 0x53380d13, 0x650a7354, 0x766a0abb, 0x81c2c92e, 0x92722c85,
    0xa2bfe8a1, 0xa81a664b, 0xc24b8b70, 0xc76c51a3, 0xd192e819, 0xd6990624, 0xf40e3585, 0x106aa070,
    0x19a4c116, 0x1e376c08, 0x2748774c, 0x34b0bcb5, 0x391c0cb3, 0x4ed8aa4a, 0x5b9cca4f, 0x682e6ff3,
    0x748f82ee, 0x78a5636f, 0x84c87814, 0x8cc70208, 0x90befffa, 0xa4506ceb, 0xbef9a3f7, 0xc67178f2]

def rotateRight (x : UInt32) (n : UInt32) : UInt32 :=
  (x >>> n) ||| (x <<< (32 - n))

/-- One round with schedule word `w` and round constant `k`. -/
def State.round (s : State) (w k : UInt32) : State :=
  let sum1 := rotateRight s.e 6 ^^^ rotateRight s.e 11 ^^^ rotateRight s.e 25
  let choose := (s.e &&& s.f) ^^^ ((s.e ^^^ 0xffffffff) &&& s.g)
  let t1 := s.h + sum1 + choose + k + w
  let sum0 := rotateRight s.a 2 ^^^ rotateRight s.a 13 ^^^ rotateRight s.a 22
  let majority := (s.a &&& s.b) ^^^ (s.a &&& s.c) ^^^ (s.b &&& s.c)
  { a := t1 + (sum0 + majority), b := s.a, c := s.b, d := s.c,
    e := s.d + t1, f := s.e, g := s.f, h := s.g }

/-- Sixteen words of the message schedule, the next one to be used first. -/
structure Window where
  w0 : UInt32
  w1 : UInt32
  w2 : UInt32
  w3 : UInt32
  w4 : UInt32
  w5 : UInt32
  w6 : UInt32
  w7 : UInt32
  w8 : UInt32
  w9 : UInt32
  w10 : UInt32
  w11 : UInt32
  w12 : UInt32
  w13 : UInt32
  w14 : UInt32
  w15 : UInt32
  deriving DecidableEq, Repr

/-- The schedule word that follows a window. -/
def Window.next (w : Window) : UInt32 :=
  let small0 := rotateRight w.w1 7 ^^^ rotateRight w.w1 18 ^^^ (w.w1 >>> 3)
  let small1 := rotateRight w.w14 17 ^^^ rotateRight w.w14 19 ^^^ (w.w14 >>> 10)
  w.w0 + small0 + w.w9 + small1

/-- The window one word further on. -/
def Window.slide (w : Window) : Window :=
  ⟨w.w1, w.w2, w.w3, w.w4, w.w5, w.w6, w.w7, w.w8, w.w9, w.w10, w.w11, w.w12, w.w13, w.w14, w.w15,
    w.next⟩

/-- The rounds for the remaining constants, over a sliding window of the schedule. -/
def rounds : List UInt32 → Window → State → State
  | [], _, s => s
  | k :: ks, window, s => rounds ks window.slide (s.round window.w0 k)

/-- Takes in one block, which is the first window of its schedule. -/
def compress (s : State) (block : Window) : State :=
  s.add (rounds roundConstants block s)

/-- The big-endian words of a string; up to three bytes left over are dropped. -/
def words : Bytes → List UInt32
  | a :: b :: c :: d :: rest => Bytes.toU32 [a, b, c, d] :: words rest
  | _ => []

/-- A one bit, zeros up to eight bytes before a block's end, and the length in bits. -/
def padding (length : Nat) : Bytes :=
  let bits := length * 8
  0x80 :: Bytes.zeros ((119 - length % 64) % 64) ++
    Bytes.ofU32 (UInt32.ofNat (bits / 4294967296)) ++ Bytes.ofU32 (UInt32.ofNat bits)

/-- Takes in words, a block at a time; words that fill no block are dropped. -/
def absorb (s : State) : List UInt32 → State
  | w0 :: w1 :: w2 :: w3 :: w4 :: w5 :: w6 :: w7 :: w8 :: w9 :: w10 :: w11 :: w12 :: w13 :: w14 :: w15 ::
      rest =>
    absorb (compress s ⟨w0, w1, w2, w3, w4, w5, w6, w7, w8, w9, w10, w11, w12, w13, w14, w15⟩) rest
  | _ => s

/-- The SHA-256 digest of a message. -/
def hash (message : Bytes) : Bytes :=
  (absorb State.start (words (message ++ padding message.length))).bytes

@[simp] theorem State.length_bytes (s : State) : s.bytes.length = 32 := rfl

@[simp] theorem length_hash (message : Bytes) : (hash message).length = 32 :=
  State.length_bytes _

end Sha256
end TrustAnchor
