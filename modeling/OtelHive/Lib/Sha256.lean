import Mathlib.Init

/-!
# `OtelHive.Lib.Sha256`: the SHA-256 hash

The hash function of FIPS 180-4 over lists of bytes, written to compute. `pad` appends the
marker byte, the zero bytes and the bit length. `compress` runs the 64 rounds over one
block of sixteen words. `sha256` folds it over the blocks, from the initial hash value.

`length_sha256` is the only general fact: a digest has 32 bytes. Collision resistance is
not a theorem. A proof that needs it takes it as a hypothesis.
-/

set_option autoImplicit false

namespace OtelHive.Lib

namespace Sha256

/-- The round constants. -/
def roundConstants : List UInt32 :=
  [0x428a2f98, 0x71374491, 0xb5c0fbcf, 0xe9b5dba5, 0x3956c25b, 0x59f111f1, 0x923f82a4, 0xab1c5ed5,
   0xd807aa98, 0x12835b01, 0x243185be, 0x550c7dc3, 0x72be5d74, 0x80deb1fe, 0x9bdc06a7, 0xc19bf174,
   0xe49b69c1, 0xefbe4786, 0x0fc19dc6, 0x240ca1cc, 0x2de92c6f, 0x4a7484aa, 0x5cb0a9dc, 0x76f988da,
   0x983e5152, 0xa831c66d, 0xb00327c8, 0xbf597fc7, 0xc6e00bf3, 0xd5a79147, 0x06ca6351, 0x14292967,
   0x27b70a85, 0x2e1b2138, 0x4d2c6dfc, 0x53380d13, 0x650a7354, 0x766a0abb, 0x81c2c92e, 0x92722c85,
   0xa2bfe8a1, 0xa81a664b, 0xc24b8b70, 0xc76c51a3, 0xd192e819, 0xd6990624, 0xf40e3585, 0x106aa070,
   0x19a4c116, 0x1e376c08, 0x2748774c, 0x34b0bcb5, 0x391c0cb3, 0x4ed8aa4a, 0x5b9cca4f, 0x682e6ff3,
   0x748f82ee, 0x78a5636f, 0x84c87814, 0x8cc70208, 0x90befffa, 0xa4506ceb, 0xbef9a3f7, 0xc67178f2]

/-- The eight working words. -/
structure Words where
  a : UInt32
  b : UInt32
  c : UInt32
  d : UInt32
  e : UInt32
  f : UInt32
  g : UInt32
  h : UInt32
deriving DecidableEq

/-- The initial hash value. -/
def initial : Words :=
  ⟨0x6a09e667, 0xbb67ae85, 0x3c6ef372, 0xa54ff53a, 0x510e527f, 0x9b05688c, 0x1f83d9ab, 0x5be0cd19⟩

/-- Rotate right by `n` bits, for `0 < n < 32`. -/
def rotr (x n : UInt32) : UInt32 := (x >>> n) ||| (x <<< (32 - n))

def bigSigma0 (x : UInt32) : UInt32 := rotr x 2 ^^^ rotr x 13 ^^^ rotr x 22

def bigSigma1 (x : UInt32) : UInt32 := rotr x 6 ^^^ rotr x 11 ^^^ rotr x 25

def smallSigma0 (x : UInt32) : UInt32 := rotr x 7 ^^^ rotr x 18 ^^^ (x >>> 3)

def smallSigma1 (x : UInt32) : UInt32 := rotr x 17 ^^^ rotr x 19 ^^^ (x >>> 10)

/-- One round, with the round constant `k` and the schedule word `w`. -/
def round (s : Words) (k w : UInt32) : Words :=
  let t1 := s.h + bigSigma1 s.e + ((s.e &&& s.f) ^^^ (~~~ s.e &&& s.g)) + k + w
  let t2 := bigSigma0 s.a + ((s.a &&& s.b) ^^^ (s.a &&& s.c) ^^^ (s.b &&& s.c))
  ⟨t1 + t2, s.a, s.b, s.c, s.d + t1, s.e, s.f, s.g⟩

/-- The next schedule word after `ws`, the last sixteen words, oldest first. -/
def nextWord (ws : List UInt32) : UInt32 :=
  smallSigma1 (ws.getD 14 0) + ws.getD 9 0 + smallSigma0 (ws.getD 1 0) + ws.getD 0 0

/-- Run the rounds of the constants `ks`. `ws` is the window of the next sixteen schedule
words. -/
def rounds : List UInt32 → List UInt32 → Words → Words
  | [], _, s => s
  | k :: ks, ws, s => rounds ks (ws.tail ++ [nextWord ws]) (round s k (ws.getD 0 0))

/-- The hash value after one block of sixteen words. -/
def compress (s : Words) (block : List UInt32) : Words :=
  let t := rounds roundConstants block s
  ⟨s.a + t.a, s.b + t.b, s.c + t.c, s.d + t.d, s.e + t.e, s.f + t.f, s.g + t.g, s.h + t.h⟩

/-- `n` in `k` bytes, most significant byte first. -/
def beBytes : Nat → Nat → List UInt8
  | 0, _ => []
  | k + 1, n => beBytes k (n / 256) ++ [UInt8.ofNat n]

/-- The message with its padding: the marker bit, zeros, and the bit length in 64 bits. -/
def pad (m : List UInt8) : List UInt8 :=
  m ++ 0x80 :: List.replicate ((119 - m.length % 64) % 64) 0 ++ beBytes 8 (8 * m.length)

/-- Big-endian words of a byte list. A rest of fewer than four bytes is dropped. -/
def toWords : List UInt8 → List UInt32
  | b0 :: b1 :: b2 :: b3 :: bs =>
    (b0.toUInt32 <<< 24 ||| b1.toUInt32 <<< 16 ||| b2.toUInt32 <<< 8 ||| b3.toUInt32) :: toWords bs
  | _ => []

/-- Fold `compress` over `n` blocks of sixteen words. -/
def blocks : Nat → List UInt32 → Words → Words
  | 0, _, s => s
  | n + 1, ws, s => blocks n (ws.drop 16) (compress s (ws.take 16))

/-- The digest bytes of a hash value. -/
def Words.toBytes (s : Words) : List UInt8 :=
  [s.a, s.b, s.c, s.d, s.e, s.f, s.g, s.h].flatMap fun w => beBytes 4 w.toNat

end Sha256

open Sha256 in
/-- The SHA-256 digest of a message. -/
def sha256 (m : List UInt8) : List UInt8 :=
  let ws := toWords (pad m)
  (blocks (ws.length / 16) ws initial).toBytes

namespace Sha256

theorem length_beBytes (k n : Nat) : (beBytes k n).length = k := by
  induction k generalizing n with
  | zero => rfl
  | succ k ih => simp [beBytes, ih]

/-- A digest has 32 bytes. -/
theorem length_sha256 (m : List UInt8) : (sha256 m).length = 32 := by
  simp [sha256, Words.toBytes, length_beBytes]

-- The digest of the empty message.
example : sha256 [] =
    [0xe3, 0xb0, 0xc4, 0x42, 0x98, 0xfc, 0x1c, 0x14,
     0x9a, 0xfb, 0xf4, 0xc8, 0x99, 0x6f, 0xb9, 0x24,
     0x27, 0xae, 0x41, 0xe4, 0x64, 0x9b, 0x93, 0x4c,
     0xa4, 0x95, 0x99, 0x1b, 0x78, 0x52, 0xb8, 0x55] := by
  decide +kernel

end Sha256

/-! ### HMAC -/

/-- The key of one block: a longer key is hashed, a shorter one is filled with zeros. -/
def hmacKey (key : List UInt8) : List UInt8 :=
  let key := if 64 < key.length then sha256 key else key
  key ++ List.replicate (64 - key.length) 0

/-- HMAC with SHA-256. -/
def hmac (key message : List UInt8) : List UInt8 :=
  let key := hmacKey key
  sha256 (key.map (· ^^^ 0x5c) ++ sha256 (key.map (· ^^^ 0x36) ++ message))

end OtelHive.Lib
