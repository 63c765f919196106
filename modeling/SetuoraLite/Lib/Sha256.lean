import SetuoraLite.Lib.Decimal

/-!
# SHA-256

`sha256Hex` is `hashlib.sha256(data).hexdigest()`, on words that are natural
numbers below `2 ^ 32`.
-/

namespace Lib

namespace Sha256

/-- The round constants. -/
def roundConstants : List Nat :=
  [0x428a2f98, 0x71374491, 0xb5c0fbcf, 0xe9b5dba5, 0x3956c25b, 0x59f111f1, 0x923f82a4, 0xab1c5ed5,
   0xd807aa98, 0x12835b01, 0x243185be, 0x550c7dc3, 0x72be5d74, 0x80deb1fe, 0x9bdc06a7, 0xc19bf174,
   0xe49b69c1, 0xefbe4786, 0x0fc19dc6, 0x240ca1cc, 0x2de92c6f, 0x4a7484aa, 0x5cb0a9dc, 0x76f988da,
   0x983e5152, 0xa831c66d, 0xb00327c8, 0xbf597fc7, 0xc6e00bf3, 0xd5a79147, 0x06ca6351, 0x14292967,
   0x27b70a85, 0x2e1b2138, 0x4d2c6dfc, 0x53380d13, 0x650a7354, 0x766a0abb, 0x81c2c92e, 0x92722c85,
   0xa2bfe8a1, 0xa81a664b, 0xc24b8b70, 0xc76c51a3, 0xd192e819, 0xd6990624, 0xf40e3585, 0x106aa070,
   0x19a4c116, 0x1e376c08, 0x2748774c, 0x34b0bcb5, 0x391c0cb3, 0x4ed8aa4a, 0x5b9cca4f, 0x682e6ff3,
   0x748f82ee, 0x78a5636f, 0x84c87814, 0x8cc70208, 0x90befffa, 0xa4506ceb, 0xbef9a3f7, 0xc67178f2]

/-- The eight words of the state. -/
structure State where
  a : Nat
  b : Nat
  c : Nat
  d : Nat
  e : Nat
  f : Nat
  g : Nat
  h : Nat

/-- The state before the first block. -/
def initial : State :=
  ⟨0x6a09e667, 0xbb67ae85, 0x3c6ef372, 0xa54ff53a, 0x510e527f, 0x9b05688c, 0x1f83d9ab, 0x5be0cd19⟩

/-- Rotate a word right. -/
def rotr (n w : Nat) : Nat := w >>> n ||| (w <<< (32 - n)) % 2 ^ 32

/-- Extend the message schedule, latest word first. -/
def schedule : Nat → List Nat → List Nat
  | 0, ws => ws
  | n + 1, ws =>
    let w2 := ws.getD 1 0
    let w15 := ws.getD 14 0
    let s0 := rotr 7 w15 ^^^ rotr 18 w15 ^^^ w15 >>> 3
    let s1 := rotr 17 w2 ^^^ rotr 19 w2 ^^^ w2 >>> 10
    schedule n ((ws.getD 15 0 + s0 + ws.getD 6 0 + s1) % 2 ^ 32 :: ws)

/-- One round. -/
def round (s : State) (kw : Nat × Nat) : State :=
  let s1 := rotr 6 s.e ^^^ rotr 11 s.e ^^^ rotr 25 s.e
  let ch := (s.e &&& s.f) ^^^ ((2 ^ 32 - 1 - s.e) &&& s.g)
  let t1 := s.h + s1 + ch + kw.1 + kw.2
  let s0 := rotr 2 s.a ^^^ rotr 13 s.a ^^^ rotr 22 s.a
  let maj := (s.a &&& s.b) ^^^ (s.a &&& s.c) ^^^ (s.b &&& s.c)
  ⟨(t1 + s0 + maj) % 2 ^ 32, s.a, s.b, s.c, (s.d + t1) % 2 ^ 32, s.e, s.f, s.g⟩

/-- Absorb one block of sixteen words. -/
def compress (s : State) (block : List Nat) : State :=
  let t := (roundConstants.zip (schedule 48 block.reverse).reverse).foldl round s
  ⟨(s.a + t.a) % 2 ^ 32, (s.b + t.b) % 2 ^ 32, (s.c + t.c) % 2 ^ 32, (s.d + t.d) % 2 ^ 32,
    (s.e + t.e) % 2 ^ 32, (s.f + t.f) % 2 ^ 32, (s.g + t.g) % 2 ^ 32, (s.h + t.h) % 2 ^ 32⟩

/-- The big-endian words of a byte list whose length is a multiple of four. -/
def wordsOf : List Nat → List Nat
  | a :: b :: c :: d :: rest => (a * 2 ^ 24 + b * 2 ^ 16 + c * 2 ^ 8 + d) :: wordsOf rest
  | _ => []

/-- The `width` low bytes of `n`, most significant first. -/
def bytesOf (width n : Nat) : List Nat :=
  (List.range width).reverse.map fun i => n / 256 ^ i % 256

/-- The padded message. -/
def pad (bytes : List Nat) : List Nat :=
  let zeros := (119 - bytes.length % 64) % 64
  bytes ++ 0x80 :: List.replicate zeros 0 ++ bytesOf 8 (8 * bytes.length)

/-- Absorb the words of a message, sixteen at a time, with fuel. -/
def absorb : Nat → List Nat → State → State
  | 0, _, s => s
  | fuel + 1, ws, s =>
    if ws.isEmpty then s else absorb fuel (ws.drop 16) (compress s (ws.take 16))

/-- A word in hexadecimal. -/
def hexWord (w : Nat) : PyStr := (List.range 8).reverse.map fun i => hexDigit (w / 16 ^ i % 16)

end Sha256

open Sha256 in
/-- `hashlib.sha256(data).hexdigest()`. -/
def sha256Hex (data : List UInt8) : PyStr :=
  let ws := wordsOf (pad (data.map UInt8.toNat))
  let s := absorb (ws.length / 16) ws initial
  [s.a, s.b, s.c, s.d, s.e, s.f, s.g, s.h].flatMap hexWord

end Lib
