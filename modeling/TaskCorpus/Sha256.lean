/-!
# SHA-256

The digest of a sequence of bytes, as sixty-four hexadecimal digits. The message is padded to
whole blocks of sixty-four bytes, and each block in turn changes a state of eight words.
-/

namespace TaskCorpus.Sha256

/-- The working state: eight words. -/
structure State where
  a : UInt32
  b : UInt32
  c : UInt32
  d : UInt32
  e : UInt32
  f : UInt32
  g : UInt32
  h : UInt32
  deriving DecidableEq

def start : State :=
  ⟨0x6a09e667, 0xbb67ae85, 0x3c6ef372, 0xa54ff53a, 0x510e527f, 0x9b05688c, 0x1f83d9ab, 0x5be0cd19⟩

/-- The constants of the sixty-four rounds. -/
def roundConstants : List UInt32 := [
  0x428a2f98, 0x71374491, 0xb5c0fbcf, 0xe9b5dba5, 0x3956c25b, 0x59f111f1, 0x923f82a4, 0xab1c5ed5,
  0xd807aa98, 0x12835b01, 0x243185be, 0x550c7dc3, 0x72be5d74, 0x80deb1fe, 0x9bdc06a7, 0xc19bf174,
  0xe49b69c1, 0xefbe4786, 0x0fc19dc6, 0x240ca1cc, 0x2de92c6f, 0x4a7484aa, 0x5cb0a9dc, 0x76f988da,
  0x983e5152, 0xa831c66d, 0xb00327c8, 0xbf597fc7, 0xc6e00bf3, 0xd5a79147, 0x06ca6351, 0x14292967,
  0x27b70a85, 0x2e1b2138, 0x4d2c6dfc, 0x53380d13, 0x650a7354, 0x766a0abb, 0x81c2c92e, 0x92722c85,
  0xa2bfe8a1, 0xa81a664b, 0xc24b8b70, 0xc76c51a3, 0xd192e819, 0xd6990624, 0xf40e3585, 0x106aa070,
  0x19a4c116, 0x1e376c08, 0x2748774c, 0x34b0bcb5, 0x391c0cb3, 0x4ed8aa4a, 0x5b9cca4f, 0x682e6ff3,
  0x748f82ee, 0x78a5636f, 0x84c87814, 0x8cc70208, 0x90befffa, 0xa4506ceb, 0xbef9a3f7, 0xc67178f2]

/-- A word turned right by a number of bits between 1 and 31. -/
def turn (x n : UInt32) : UInt32 := (x >>> n) ||| (x <<< (32 - n))

/-- The last eight bytes of a natural, the most significant first. -/
def lengthBytes (n : Nat) : List UInt8 :=
  (List.range 8).map fun i => UInt8.ofNat (n >>> (56 - 8 * i))

/-- A message of whole blocks: a one bit, zeros, and the length in bits follow the bytes. -/
def pad (bytes : List UInt8) : List UInt8 :=
  let n := bytes.length
  let zeros : List UInt8 := List.replicate ((119 - n % 64) % 64) 0
  bytes ++ 0x80 :: (zeros ++ lengthBytes (n * 8))

/-- Four bytes as a word, the most significant first. -/
def wordOf (a b c d : UInt8) : UInt32 :=
  (a.toUInt32 <<< 24) ||| (b.toUInt32 <<< 16) ||| (c.toUInt32 <<< 8) ||| d.toUInt32

def wordsOf : List UInt8 → List UInt32
  | a :: b :: c :: d :: rest => wordOf a b c d :: wordsOf rest
  | _ => []

/-- The words of the rounds of a block, of which sixteen are given and the others follow from
those before them. The last word comes first. -/
def extend : Nat → List UInt32 → List UInt32
  | 0, ws => ws
  | n + 1, ws =>
    let w₂ := ws.getD 1 0
    let w₁₅ := ws.getD 14 0
    let small := turn w₁₅ 7 ^^^ turn w₁₅ 18 ^^^ (w₁₅ >>> 3)
    let large := turn w₂ 17 ^^^ turn w₂ 19 ^^^ (w₂ >>> 10)
    extend n ((ws.getD 15 0 + small + ws.getD 6 0 + large) :: ws)

def schedule (block : List UInt32) : List UInt32 := (extend 48 block.reverse).reverse

def round (s : State) (k w : UInt32) : State :=
  let large := turn s.e 6 ^^^ turn s.e 11 ^^^ turn s.e 25
  let choice := (s.e &&& s.f) ^^^ (~~~s.e &&& s.g)
  let t₁ := s.h + large + choice + k + w
  let small := turn s.a 2 ^^^ turn s.a 13 ^^^ turn s.a 22
  let majority := (s.a &&& s.b) ^^^ (s.a &&& s.c) ^^^ (s.b &&& s.c)
  ⟨t₁ + (small + majority), s.a, s.b, s.c, s.d + t₁, s.e, s.f, s.g⟩

/-- The state after the rounds of one block. -/
def compress (s : State) (block : List UInt32) : State :=
  let t := (roundConstants.zip (schedule block)).foldl (fun t kw => round t kw.1 kw.2) s
  ⟨s.a + t.a, s.b + t.b, s.c + t.c, s.d + t.d, s.e + t.e, s.f + t.f, s.g + t.g, s.h + t.h⟩

/-- Sixteen words at a time, for a number of blocks. -/
def run : Nat → State → List UInt32 → State
  | 0, s, _ => s
  | n + 1, s, ws => run n (compress s (ws.take 16)) (ws.drop 16)

/-- The eight hexadecimal digits of a word. -/
def wordDigits (w : UInt32) : List Char :=
  let ds := Nat.toDigits 16 w.toNat
  List.replicate (8 - ds.length) '0' ++ ds

/-- The digest of bytes. -/
def digest (bytes : ByteArray) : String :=
  let ws := wordsOf (pad bytes.toList)
  let s := run (ws.length / 16) start ws
  String.ofList ([s.a, s.b, s.c, s.d, s.e, s.f, s.g, s.h].flatMap wordDigits)

end TaskCorpus.Sha256
