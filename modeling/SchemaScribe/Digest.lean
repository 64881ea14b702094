import SchemaScribe.Text.Literal

/-!
# Digests

The SHA-256 digest of a byte sequence, as FIPS 180-4 defines it, written in hexadecimal. The message
schedule and the rounds are folds over 32-bit words, so the digest is a total function of the bytes.
-/

namespace SchemaScribe.Digest

/-- The constants of the rounds: the first 32 bits behind the point of the cube roots of the first 64
prime numbers. -/
def roundConstants : List UInt32 := [
  0x428a2f98, 0x71374491, 0xb5c0fbcf, 0xe9b5dba5, 0x3956c25b, 0x59f111f1,
  0x923f82a4, 0xab1c5ed5, 0xd807aa98, 0x12835b01, 0x243185be, 0x550c7dc3,
  0x72be5d74, 0x80deb1fe, 0x9bdc06a7, 0xc19bf174, 0xe49b69c1, 0xefbe4786,
  0x0fc19dc6, 0x240ca1cc, 0x2de92c6f, 0x4a7484aa, 0x5cb0a9dc, 0x76f988da,
  0x983e5152, 0xa831c66d, 0xb00327c8, 0xbf597fc7, 0xc6e00bf3, 0xd5a79147,
  0x06ca6351, 0x14292967, 0x27b70a85, 0x2e1b2138, 0x4d2c6dfc, 0x53380d13,
  0x650a7354, 0x766a0abb, 0x81c2c92e, 0x92722c85, 0xa2bfe8a1, 0xa81a664b,
  0xc24b8b70, 0xc76c51a3, 0xd192e819, 0xd6990624, 0xf40e3585, 0x106aa070,
  0x19a4c116, 0x1e376c08, 0x2748774c, 0x34b0bcb5, 0x391c0cb3, 0x4ed8aa4a,
  0x5b9cca4f, 0x682e6ff3, 0x748f82ee, 0x78a5636f, 0x84c87814, 0x8cc70208,
  0x90befffa, 0xa4506ceb, 0xbef9a3f7, 0xc67178f2]

/-- The eight words that are carried from block to block. -/
structure State where
  a : UInt32
  b : UInt32
  c : UInt32
  d : UInt32
  e : UInt32
  f : UInt32
  g : UInt32
  h : UInt32
deriving DecidableEq

/-- The state before the first block: the square roots of the first eight prime numbers. -/
def State.initial : State :=
  ⟨0x6a09e667, 0xbb67ae85, 0x3c6ef372, 0xa54ff53a,
    0x510e527f, 0x9b05688c, 0x1f83d9ab, 0x5be0cd19⟩

/-- Rotation to the right. -/
def rotate (n : UInt32) (x : UInt32) : UInt32 := (x >>> n) ||| (x <<< (32 - n))

/-- Extends the sixteen words of a block to the sixty-four of its schedule. -/
def schedule (block : List UInt32) : Array UInt32 :=
  (List.range 48).foldl (fun w _ =>
    let back := fun n => w.getD (w.size - n) 0
    let x := back 15
    let y := back 2
    let s := rotate 7 x ^^^ rotate 18 x ^^^ (x >>> 3)
    let t := rotate 17 y ^^^ rotate 19 y ^^^ (y >>> 10)
    w.push (back 16 + s + back 7 + t)) block.toArray

/-- One round with a word of the schedule and its constant. -/
def State.round (s : State) (word constant : UInt32) : State :=
  let choice := (s.e &&& s.f) ^^^ ((~~~s.e) &&& s.g)
  let majority := (s.a &&& s.b) ^^^ (s.a &&& s.c) ^^^ (s.b &&& s.c)
  let t := s.h + (rotate 6 s.e ^^^ rotate 11 s.e ^^^ rotate 25 s.e) + choice + constant + word
  let u := (rotate 2 s.a ^^^ rotate 13 s.a ^^^ rotate 22 s.a) + majority
  ⟨t + u, s.a, s.b, s.c, s.d + t, s.e, s.f, s.g⟩

/-- Adds the words of two states. -/
def State.add (s t : State) : State :=
  ⟨s.a + t.a, s.b + t.b, s.c + t.c, s.d + t.d, s.e + t.e, s.f + t.f, s.g + t.g, s.h + t.h⟩

/-- The state after a block. -/
def State.absorb (s : State) (block : List UInt32) : State :=
  s.add (((schedule block).toList.zip roundConstants).foldl
    (fun t (word, constant) => t.round word constant) s)

/-- The bytes of a number, most significant first. -/
def bigEndian : Nat → Nat → List UInt8
  | 0, _ => []
  | width + 1, n => bigEndian width (n / 256) ++ [UInt8.ofNat n]

/-- The message with its delimiter, zeros and length, a whole number of 64-byte blocks. -/
def padded (bytes : List UInt8) : List UInt8 :=
  bytes ++ 0x80 :: List.replicate ((119 - bytes.length % 64) % 64) 0 ++
    bigEndian 8 (8 * bytes.length)

/-- The 32-bit words of a byte sequence. -/
def words : List UInt8 → List UInt32
  | a :: b :: c :: d :: rest =>
    (a.toUInt32 <<< 24 ||| b.toUInt32 <<< 16 ||| c.toUInt32 <<< 8 ||| d.toUInt32) :: words rest
  | _ => []

/-- Absorbs the words of a message, sixteen at a time. -/
def absorbAll (s : State) (message : List UInt32) : State :=
  if message.isEmpty then s
  else absorbAll (s.absorb (message.take 16)) (message.drop 16)
termination_by message.length
decreasing_by
  have : message ≠ [] := by simp_all
  have := List.length_pos_iff.2 this
  simp only [List.length_drop]
  omega

/-- The digest in hexadecimal. -/
def sha256 (bytes : ByteArray) : String :=
  let s := absorbAll .initial (words (padded bytes.toList))
  .ofList ([s.a, s.b, s.c, s.d, s.e, s.f, s.g, s.h].flatMap fun w => Text.hexPlaces 8 w.toNat)

end SchemaScribe.Digest
