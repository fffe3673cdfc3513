import Registrar.Text.Utf8
/-!
# SHA-256

The digest of a message of bytes: the message is padded to blocks of 64 bytes, and every block is
mixed into eight words of 32 bits in 64 rounds. Words are unsigned and wrap.
-/
namespace Registrar.Digest

/-- The eight words of the state. -/
structure State where
  a : UInt32
  b : UInt32
  c : UInt32
  d : UInt32
  e : UInt32
  f : UInt32
  g : UInt32
  h : UInt32

namespace State

/-- The state before the first block: the first 32 bits of the fractional parts of the square
roots of the first eight primes. -/
def start : State :=
  ⟨0x6a09e667, 0xbb67ae85, 0x3c6ef372, 0xa54ff53a, 0x510e527f, 0x9b05688c, 0x1f83d9ab, 0x5be0cd19⟩

def words (s : State) : List UInt32 := [s.a, s.b, s.c, s.d, s.e, s.f, s.g, s.h]

def add (s t : State) : State :=
  ⟨s.a + t.a, s.b + t.b, s.c + t.c, s.d + t.d, s.e + t.e, s.f + t.f, s.g + t.g, s.h + t.h⟩

end State

/-- The constants of the rounds: the first 32 bits of the fractional parts of the cube roots of
the first 64 primes. -/
def roundConstants : List UInt32 := [
  0x428a2f98, 0x71374491, 0xb5c0fbcf, 0xe9b5dba5, 0x3956c25b, 0x59f111f1, 0x923f82a4, 0xab1c5ed5,
  0xd807aa98, 0x12835b01, 0x243185be, 0x550c7dc3, 0x72be5d74, 0x80deb1fe, 0x9bdc06a7, 0xc19bf174,
  0xe49b69c1, 0xefbe4786, 0x0fc19dc6, 0x240ca1cc, 0x2de92c6f, 0x4a7484aa, 0x5cb0a9dc, 0x76f988da,
  0x983e5152, 0xa831c66d, 0xb00327c8, 0xbf597fc7, 0xc6e00bf3, 0xd5a79147, 0x06ca6351, 0x14292967,
  0x27b70a85, 0x2e1b2138, 0x4d2c6dfc, 0x53380d13, 0x650a7354, 0x766a0abb, 0x81c2c92e, 0x92722c85,
  0xa2bfe8a1, 0xa81a664b, 0xc24b8b70, 0xc76c51a3, 0xd192e819, 0xd6990624, 0xf40e3585, 0x106aa070,
  0x19a4c116, 0x1e376c08, 0x2748774c, 0x34b0bcb5, 0x391c0cb3, 0x4ed8aa4a, 0x5b9cca4f, 0x682e6ff3,
  0x748f82ee, 0x78a5636f, 0x84c87814, 0x8cc70208, 0x90befffa, 0xa4506ceb, 0xbef9a3f7, 0xc67178f2]

/-- The bits of a word moved right, those that fall out on the left again. -/
def rotate (x : UInt32) (n : UInt32) : UInt32 := (x >>> n) ||| (x <<< (32 - n))

/-- One more word of the schedule, from the sixteen before it. -/
def extend (before : List UInt32) : UInt32 :=
  let w (i : Nat) : UInt32 := before.getD i 0
  let s0 := rotate (w 1) 7 ^^^ rotate (w 1) 18 ^^^ (w 1 >>> 3)
  let s1 := rotate (w 14) 17 ^^^ rotate (w 14) 19 ^^^ (w 14 >>> 10)
  w 0 + s0 + w 9 + s1

/-- One round with a constant and a word of the schedule. -/
def round (s : State) (k w : UInt32) : State :=
  let s1 := rotate s.e 6 ^^^ rotate s.e 11 ^^^ rotate s.e 25
  let choice := (s.e &&& s.f) ^^^ (~~~s.e &&& s.g)
  let t1 := s.h + s1 + choice + k + w
  let s0 := rotate s.a 2 ^^^ rotate s.a 13 ^^^ rotate s.a 22
  let majority := (s.a &&& s.b) ^^^ (s.a &&& s.c) ^^^ (s.b &&& s.c)
  ⟨t1 + s0 + majority, s.a, s.b, s.c, s.d + t1, s.e, s.f, s.g⟩

/-- The rounds with some constants; `window` holds the next sixteen words of the schedule. -/
def rounds (s : State) (window : List UInt32) : List UInt32 → State
  | [] => s
  | k :: rest => rounds (round s k (window.getD 0 0)) (window.drop 1 ++ [extend window]) rest

/-- The words of some bytes, four bytes a word, the first one highest. -/
def wordsOf : List Nat → List UInt32
  | a :: b :: c :: d :: rest =>
    UInt32.ofNat (a * 0x1000000 + b * 0x10000 + c * 0x100 + d) :: wordsOf rest
  | _ => []

/-- The state after one more block. -/
def compress (s : State) (block : List Nat) : State :=
  s.add (rounds s (wordsOf block) roundConstants)

/-- The bytes of a number, the highest first. -/
def bytesOf : (width n : Nat) → List Nat
  | 0, _ => []
  | width + 1, n => n / Nat.pow 256 width % 256 :: bytesOf width n

@[simp] theorem length_bytesOf (width n : Nat) : (bytesOf width n).length = width := by
  induction width with
  | zero => rfl
  | succ width ih => simp [bytesOf, ih]

/-- The message with a one bit, zeros and its length in bits, up to whole blocks. -/
def pad (message : List Nat) : List Nat :=
  message ++ 0x80 :: List.replicate ((119 - message.length % 64) % 64) 0
    ++ bytesOf 8 (8 * message.length)

theorem length_pad_mod (message : List Nat) : (pad message).length % 64 = 0 := by
  simp [pad]; omega

/-- The state after all blocks of some bytes. -/
def compressAll (s : State) (bytes : List Nat) : State :=
  if bytes = [] then s else compressAll (compress s (bytes.take 64)) (bytes.drop 64)
termination_by bytes.length
decreasing_by
  cases bytes with
  | nil => contradiction
  | cons b rest => simp only [List.length_drop, List.length_cons]; omega

/-- The digest of a message, as 32 bytes. -/
def sha256 (message : List Nat) : List Nat :=
  (compressAll .start (pad message)).words.flatMap fun w => bytesOf 4 w.toNat

theorem length_sha256 (message : List Nat) : (sha256 message).length = 32 := by
  simp [sha256, State.words]

/-- Bytes as two hexadecimal digits each. -/
def hexadecimal (bytes : List Nat) : String :=
  String.ofList (bytes.flatMap fun b => [Nat.digitChar (b / 16), Nat.digitChar (b % 16)])

/-- The digest of a text, in hexadecimal. -/
def ofText (s : List Char) : String := hexadecimal (sha256 (Text.encodeUtf8 s))

end Registrar.Digest
