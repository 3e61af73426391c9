/-
SpecStyle/Lib/Sha2.lean

SHA-256 on byte strings, with 32-bit words as natural numbers below 2^32.

The definitions compute in the kernel, so that a run of a model over whole
documents can be evaluated at the real hash: the operations are those the
kernel evaluates directly, and `force` makes it compute a word before it goes
on.  The message schedule is a window of the last sixteen words, moved by one
word each round.
-/
import SpecStyle.Lib.Utf8

namespace PyLib

namespace Sha2

/-- `f n`, with `n` computed first. -/
def force {α : Type} (n : Nat) (f : Nat → α) : α :=
  match n with
  | 0 => f 0
  | m + 1 => f (m + 1)

/-! ### Rounds -/

/-- The lowest 32 bits. -/
def word (n : Nat) : Nat := Nat.mod n 4294967296

/-- A word rotated right by `n` bits, cut out of two copies of it. -/
def rotr (x n : Nat) : Nat := word (Nat.shiftRight (Nat.mul x 4294967297) n)

/-- Sum modulo two of three words. -/
def xor3 (x y z : Nat) : Nat := Nat.xor (Nat.xor x y) z

/-- The working variables, which are also the chaining value. -/
structure Words where
  a : Nat
  b : Nat
  c : Nat
  d : Nat
  e : Nat
  f : Nat
  g : Nat
  h : Nat
/-- The round constants. -/
def roundConstants : List Nat :=
  [0x428a2f98, 0x71374491, 0xb5c0fbcf, 0xe9b5dba5, 0x3956c25b, 0x59f111f1, 0x923f82a4, 0xab1c5ed5,
   0xd807aa98, 0x12835b01, 0x243185be, 0x550c7dc3, 0x72be5d74, 0x80deb1fe, 0x9bdc06a7, 0xc19bf174,
   0xe49b69c1, 0xefbe4786, 0x0fc19dc6, 0x240ca1cc, 0x2de92c6f, 0x4a7484aa, 0x5cb0a9dc, 0x76f988da,
   0x983e5152, 0xa831c66d, 0xb00327c8, 0xbf597fc7, 0xc6e00bf3, 0xd5a79147, 0x06ca6351, 0x14292967,
   0x27b70a85, 0x2e1b2138, 0x4d2c6dfc, 0x53380d13, 0x650a7354, 0x766a0abb, 0x81c2c92e, 0x92722c85,
   0xa2bfe8a1, 0xa81a664b, 0xc24b8b70, 0xc76c51a3, 0xd192e819, 0xd6990624, 0xf40e3585, 0x106aa070,
   0x19a4c116, 0x1e376c08, 0x2748774c, 0x34b0bcb5, 0x391c0cb3, 0x4ed8aa4a, 0x5b9cca4f, 0x682e6ff3,
   0x748f82ee, 0x78a5636f, 0x84c87814, 0x8cc70208, 0x90befffa, 0xa4506ceb, 0xbef9a3f7, 0xc67178f2]
/-- The first chaining value. -/
def initial : Words :=
  ⟨0x6a09e667, 0xbb67ae85, 0x3c6ef372, 0xa54ff53a, 0x510e527f, 0x9b05688c, 0x1f83d9ab, 0x5be0cd19⟩
/-- One round with its constant and its schedule word. -/
def oneRound (k w : Nat) (r : Words) : Words :=
  match r with
  | ⟨a, b, c, d, e, f, g, h⟩ =>
    let s1 := xor3 (rotr e 6) (rotr e 11) (rotr e 25)
    let ch := Nat.xor (Nat.land e f) (Nat.land (Nat.sub 4294967295 e) g)
    force (word (Nat.add h (Nat.add s1 (Nat.add ch (Nat.add k w))))) fun t1 =>
      let s0 := xor3 (rotr a 2) (rotr a 13) (rotr a 22)
      let maj := xor3 (Nat.land a b) (Nat.land a c) (Nat.land b c)
      force (word (Nat.add t1 (Nat.add s0 maj))) fun a' =>
        force (word (Nat.add d t1)) fun e' => ⟨a', a, b, c, e', e, f, g⟩

/-- The word that enters a window of sixteen. -/
def nextWord (w0 w1 w9 w14 : Nat) : Nat :=
  let s0 := xor3 (rotr w1 7) (rotr w1 18) (Nat.shiftRight w1 3)
  let s1 := xor3 (rotr w14 17) (rotr w14 19) (Nat.shiftRight w14 10)
  word (Nat.add (Nat.add w0 s0) (Nat.add w9 s1))

/-- The rounds of one block, over the window of the next sixteen words. -/
def rounds : List Nat → List Nat → Words → Words
  | k :: ks, w0 :: w1 :: w2 :: w3 :: w4 :: w5 :: w6 :: w7 :: w8 :: w9 :: w10 :: w11 :: w12 :: w13 ::
      w14 :: w15 :: _, r =>
    force (nextWord w0 w1 w9 w14) fun w16 =>
      rounds ks [w1, w2, w3, w4, w5, w6, w7, w8, w9, w10, w11, w12, w13, w14, w15, w16]
        (oneRound k w0 r)
  | _, _, r => r

/-- Wordwise sum. -/
def Words.add (x y : Words) : Words :=
  match x, y with
  | ⟨a, b, c, d, e, f, g, h⟩, ⟨a', b', c', d', e', f', g', h'⟩ =>
    force (word (Nat.add a a')) fun a => force (word (Nat.add b b')) fun b =>
      force (word (Nat.add c c')) fun c => force (word (Nat.add d d')) fun d =>
        force (word (Nat.add e e')) fun e => force (word (Nat.add f f')) fun f =>
          force (word (Nat.add g g')) fun g => force (word (Nat.add h h')) fun h =>
            ⟨a, b, c, d, e, f, g, h⟩

/-! ### Messages -/

/-- Big-endian words of four bytes. -/
def words : Bytes → List Nat
  | a :: b :: c :: d :: rest =>
    force ((([b, c, d] : Bytes).foldl (fun n x => Nat.add (Nat.mul n 256) x.val) a.val)) fun w =>
      w :: words rest
  | _ => []

/-- The message with its one bit, its zeros and its length in bits. -/
def pad (bs : Bytes) : Bytes :=
  bs ++ byte 0x80 :: List.replicate ((119 - bs.length % 64) % 64) 0 ++
    (List.range 8).reverse.map fun i => byte (bs.length * 8 / 256 ^ i)

/-- The chaining value after all blocks of sixteen words. -/
def compress : List Nat → Words → Words
  | w0 :: w1 :: w2 :: w3 :: w4 :: w5 :: w6 :: w7 :: w8 :: w9 :: w10 :: w11 :: w12 :: w13 :: w14 ::
      w15 :: rest, r =>
    let window := [w0, w1, w2, w3, w4, w5, w6, w7, w8, w9, w10, w11, w12, w13, w14, w15]
    match r.add (rounds roundConstants window r) with
    | ⟨a, b, c, d, e, f, g, h⟩ => compress rest ⟨a, b, c, d, e, f, g, h⟩
  | _, r => r

/-- The digest, as one number. -/
def digest (bs : Bytes) : Nat :=
  match compress (words (pad bs)) initial with
  | ⟨a, b, c, d, e, f, g, h⟩ =>
    [b, c, d, e, f, g, h].foldl (fun n w => Nat.add (Nat.mul n 4294967296) w) a

/-- The digest of `abc` -/
example : digest [0x61, 0x62, 0x63] =
    0xba7816bf8f01cfea414140de5dae2223b00361a396177a9cb410ff61f20015ad := by decide +kernel

end Sha2

end PyLib
