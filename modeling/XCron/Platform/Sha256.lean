import XCron.Platform.Bytes

/-!
# SHA-256

The hash the virtual machine offers to contracts, as FIPS 180-4 defines it.
Words are naturals below `2 ^ 32`, so that digests of concrete messages are
computed by the kernel. Results about contracts never unfold it: they hold for
every function from byte strings to digests.
-/

namespace Platform.Sha256

def modulus : Nat := 4294967296

def rotr (x n : Nat) : Nat := (x >>> n) ||| ((x <<< (32 - n)) % modulus)

def complement (x : Nat) : Nat := x ^^^ 0xffffffff

def smallSigma0 (x : Nat) : Nat := rotr x 7 ^^^ rotr x 18 ^^^ (x >>> 3)

def smallSigma1 (x : Nat) : Nat := rotr x 17 ^^^ rotr x 19 ^^^ (x >>> 10)

def bigSigma0 (x : Nat) : Nat := rotr x 2 ^^^ rotr x 13 ^^^ rotr x 22

def bigSigma1 (x : Nat) : Nat := rotr x 6 ^^^ rotr x 11 ^^^ rotr x 25

def choose (x y z : Nat) : Nat := (x &&& y) ^^^ (complement x &&& z)

def majority (x y z : Nat) : Nat := (x &&& y) ^^^ (x &&& z) ^^^ (y &&& z)

def roundConstants : List Nat :=
  [0x428a2f98, 0x71374491, 0xb5c0fbcf, 0xe9b5dba5, 0x3956c25b, 0x59f111f1, 0x923f82a4, 0xab1c5ed5,
   0xd807aa98, 0x12835b01, 0x243185be, 0x550c7dc3, 0x72be5d74, 0x80deb1fe, 0x9bdc06a7, 0xc19bf174,
   0xe49b69c1, 0xefbe4786, 0x0fc19dc6, 0x240ca1cc, 0x2de92c6f, 0x4a7484aa, 0x5cb0a9dc, 0x76f988da,
   0x983e5152, 0xa831c66d, 0xb00327c8, 0xbf597fc7, 0xc6e00bf3, 0xd5a79147, 0x06ca6351, 0x14292967,
   0x27b70a85, 0x2e1b2138, 0x4d2c6dfc, 0x53380d13, 0x650a7354, 0x766a0abb, 0x81c2c92e, 0x92722c85,
   0xa2bfe8a1, 0xa81a664b, 0xc24b8b70, 0xc76c51a3, 0xd192e819, 0xd6990624, 0xf40e3585, 0x106aa070,
   0x19a4c116, 0x1e376c08, 0x2748774c, 0x34b0bcb5, 0x391c0cb3, 0x4ed8aa4a, 0x5b9cca4f, 0x682e6ff3,
   0x748f82ee, 0x78a5636f, 0x84c87814, 0x8cc70208, 0x90befffa, 0xa4506ceb, 0xbef9a3f7, 0xc67178f2]

structure Chaining where
  a : Nat
  b : Nat
  c : Nat
  d : Nat
  e : Nat
  f : Nat
  g : Nat
  h : Nat

def initialValue : Chaining :=
  ⟨0x6a09e667, 0xbb67ae85, 0x3c6ef372, 0xa54ff53a, 0x510e527f, 0x9b05688c, 0x1f83d9ab, 0x5be0cd19⟩

def Chaining.round (s : Chaining) (constant word : Nat) : Chaining :=
  let t1 := (s.h + bigSigma1 s.e + choose s.e s.f s.g + constant + word) % modulus
  let t2 := (bigSigma0 s.a + majority s.a s.b s.c) % modulus
  ⟨(t1 + t2) % modulus, s.a, s.b, s.c, (s.d + t1) % modulus, s.e, s.f, s.g⟩

def Chaining.add (s t : Chaining) : Chaining :=
  ⟨(s.a + t.a) % modulus, (s.b + t.b) % modulus, (s.c + t.c) % modulus, (s.d + t.d) % modulus,
    (s.e + t.e) % modulus, (s.f + t.f) % modulus, (s.g + t.g) % modulus, (s.h + t.h) % modulus⟩

def nextWord (window : List Nat) : Nat :=
  (smallSigma1 (window.getD 14 0) + window.getD 9 0 +
    smallSigma0 (window.getD 1 0) + window.getD 0 0) % modulus

def rounds : List Nat → List Nat → Chaining → Chaining
  | [], _, s => s
  | constant :: constants, window, s =>
      rounds constants (window.tail ++ [nextWord window]) (s.round constant (window.headD 0))

def compress (s : Chaining) (block : List Nat) : Chaining :=
  s.add (rounds roundConstants block s)

def toWords : Bytes → List Nat
  | a :: b :: c :: d :: rest =>
      (((a.toNat * 256 + b.toNat) * 256 + c.toNat) * 256 + d.toNat) :: toWords rest
  | _ => []

/-- The message, a one bit, zeros up to 56 bytes modulo 64, and its bit length. -/
def pad (message : Bytes) : Bytes :=
  message ++ [0x80] ++ List.replicate ((119 - message.length % 64) % 64) 0 ++
    beBytes 8 (message.length * 8)

def blocks : Nat → List Nat → List (List Nat)
  | 0, _ => []
  | count + 1, words => words.take 16 :: blocks count (words.drop 16)

def digestWords (message : Bytes) : Chaining :=
  let words := toWords (pad message)
  (blocks (words.length / 16) words).foldl compress initialValue

def Chaining.bytes (s : Chaining) : Bytes :=
  [s.a, s.b, s.c, s.d, s.e, s.f, s.g, s.h].flatMap (beBytes 4)

end Sha256

def sha256 (message : Bytes) : Bytes32 :=
  ⟨(Sha256.digestWords message).bytes, by simp [Sha256.Chaining.bytes]⟩

example : (sha256 []).val.take 4 = [0xe3, 0xb0, 0xc4, 0x42] := by decide +kernel

end Platform
