import Courier.Files.Operation
import Courier.Text.Hex

/-!
# SHA-256

The Secure Hash Algorithm with a digest of 256 bits.

Main definitions:

- `Sha256.pad` fills a message up to whole blocks of 64 bytes.
- `Sha256.compress` mixes one block into the state of eight words.
- `Sha256.digest` is the digest of some bytes and `Sha256.hexDigest` its text.
- `Digest.ofFile` is the text of the digest of a file.
-/

namespace Courier.Digest.Sha256

/-! ## Words -/

/-- Turn the bits of a word to the right. -/
def rotateRight (x : UInt32) (n : UInt32) : UInt32 :=
  (x >>> n) ||| (x <<< (32 - n))

/-- Choose the bits of `y` where `x` has ones and those of `z` elsewhere. -/
def choose (x y z : UInt32) : UInt32 :=
  (x &&& y) ^^^ ((~~~x) &&& z)

/-- The bits that at least two of three words share. -/
def majority (x y z : UInt32) : UInt32 :=
  (x &&& y) ^^^ (x &&& z) ^^^ (y &&& z)

/-- The mixing of the first word of the state. -/
def mixFirst (x : UInt32) : UInt32 :=
  rotateRight x 2 ^^^ rotateRight x 13 ^^^ rotateRight x 22

/-- The mixing of the fifth word of the state. -/
def mixFifth (x : UInt32) : UInt32 :=
  rotateRight x 6 ^^^ rotateRight x 11 ^^^ rotateRight x 25

/-- The mixing of the word fifteen places back in the schedule. -/
def mixEarly (x : UInt32) : UInt32 :=
  rotateRight x 7 ^^^ rotateRight x 18 ^^^ (x >>> 3)

/-- The mixing of the word two places back in the schedule. -/
def mixLate (x : UInt32) : UInt32 :=
  rotateRight x 17 ^^^ rotateRight x 19 ^^^ (x >>> 10)

/-- The first 32 bits of the fractional parts of the cube roots of the first 64 primes. -/
def roundConstants : Array UInt32 := #[
  0x428a2f98, 0x71374491, 0xb5c0fbcf, 0xe9b5dba5, 0x3956c25b, 0x59f111f1, 0x923f82a4, 0xab1c5ed5,
  0xd807aa98, 0x12835b01, 0x243185be, 0x550c7dc3, 0x72be5d74, 0x80deb1fe, 0x9bdc06a7, 0xc19bf174,
  0xe49b69c1, 0xefbe4786, 0x0fc19dc6, 0x240ca1cc, 0x2de92c6f, 0x4a7484aa, 0x5cb0a9dc, 0x76f988da,
  0x983e5152, 0xa831c66d, 0xb00327c8, 0xbf597fc7, 0xc6e00bf3, 0xd5a79147, 0x06ca6351, 0x14292967,
  0x27b70a85, 0x2e1b2138, 0x4d2c6dfc, 0x53380d13, 0x650a7354, 0x766a0abb, 0x81c2c92e, 0x92722c85,
  0xa2bfe8a1, 0xa81a664b, 0xc24b8b70, 0xc76c51a3, 0xd192e819, 0xd6990624, 0xf40e3585, 0x106aa070,
  0x19a4c116, 0x1e376c08, 0x2748774c, 0x34b0bcb5, 0x391c0cb3, 0x4ed8aa4a, 0x5b9cca4f, 0x682e6ff3,
  0x748f82ee, 0x78a5636f, 0x84c87814, 0x8cc70208, 0x90befffa, 0xa4506ceb, 0xbef9a3f7, 0xc67178f2]

/-! ## Blocks -/

/-- The state between blocks: eight words. -/
structure State where
  a : UInt32
  b : UInt32
  c : UInt32
  d : UInt32
  e : UInt32
  f : UInt32
  g : UInt32
  h : UInt32
deriving DecidableEq, Repr

/-- The state before the first block: the first 32 bits of the fractional parts of the
square roots of the first eight primes. -/
def State.start : State :=
  ⟨0x6a09e667, 0xbb67ae85, 0x3c6ef372, 0xa54ff53a, 0x510e527f, 0x9b05688c, 0x1f83d9ab, 0x5be0cd19⟩

/-- The eight bytes of a 64-bit count, the highest first. -/
def countBytes (n : Nat) : List UInt8 :=
  (List.range 8).map fun i => (n / Nat.pow 256 (7 - i)).toUInt8

/-- A message filled up to whole blocks: a single one bit, zeros, and the length in bits. -/
def pad (bytes : ByteArray) : ByteArray :=
  let zeros := (55 + 64 - bytes.size % 64) % 64
  bytes ++ ⟨(0x80 :: List.replicate zeros 0 ++ countBytes (8 * bytes.size)).toArray⟩

/-- The word that starts at a byte. -/
def wordAt (bytes : ByteArray) (i : Nat) : UInt32 :=
  ((bytes.get! i).toUInt32 <<< 24) ||| ((bytes.get! (i + 1)).toUInt32 <<< 16) |||
    ((bytes.get! (i + 2)).toUInt32 <<< 8) ||| (bytes.get! (i + 3)).toUInt32

/-- The 64 words of the schedule of the block that starts at a byte. -/
def schedule (bytes : ByteArray) (start : Nat) : Array UInt32 :=
  let first := (Array.range 16).map fun i => wordAt bytes (start + 4 * i)
  (List.range 48).foldl
    (fun w _ =>
      let n := w.size
      w.push (mixLate w[n - 2]! + w[n - 7]! + mixEarly w[n - 15]! + w[n - 16]!))
    first

/-- One round: mix a word of the schedule and its constant into the state. -/
def round (s : State) (word constant : UInt32) : State :=
  let t := s.h + mixFifth s.e + choose s.e s.f s.g + constant + word
  let u := mixFirst s.a + majority s.a s.b s.c
  ⟨t + u, s.a, s.b, s.c, s.d + t, s.e, s.f, s.g⟩

/-- Add two states word by word. -/
def State.add (s t : State) : State :=
  ⟨s.a + t.a, s.b + t.b, s.c + t.c, s.d + t.d, s.e + t.e, s.f + t.f, s.g + t.g, s.h + t.h⟩

/-- Mix the block that starts at a byte into the state. -/
def compress (bytes : ByteArray) (s : State) (start : Nat) : State :=
  let w := schedule bytes start
  s.add ((List.range 64).foldl (fun t i => round t w[i]! roundConstants[i]!) s)

/-! ## Digests -/

/-- The four bytes of a word, the highest first. -/
def wordBytes (x : UInt32) : List UInt8 :=
  [(x >>> 24).toUInt8, (x >>> 16).toUInt8, (x >>> 8).toUInt8, x.toUInt8]

/-- The bytes of a state. -/
def State.bytes (s : State) : List UInt8 :=
  [s.a, s.b, s.c, s.d, s.e, s.f, s.g, s.h].flatMap wordBytes

/-- The digest of some bytes. -/
def digest (bytes : ByteArray) : List UInt8 :=
  let padded := pad bytes
  let final := (List.range (padded.size / 64)).foldl
    (fun s i => compress padded s (64 * i)) State.start
  final.bytes

/-- The digest of some bytes as 64 hexadecimal digits. -/
def hexDigest (bytes : ByteArray) : String :=
  String.ofList (Text.Hex.chars (digest bytes))

end Courier.Digest.Sha256

namespace Courier.Digest

/-! ## Files -/

variable {m : Type → Type} [Monad m] [Files m]

/-- The digest of the content of a file, in hexadecimal digits. -/
def ofFile (p : Path) : m (Except FileFault String) := do
  match ← Files.read p with
  | .error fault => return .error fault
  | .ok content => return .ok (Sha256.hexDigest content)

end Courier.Digest
