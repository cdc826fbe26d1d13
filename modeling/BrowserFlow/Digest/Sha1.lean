/-!
The hash function SHA-1.
-/

namespace BrowserFlow.Sha1

structure State where
  a : UInt32
  b : UInt32
  c : UInt32
  d : UInt32
  e : UInt32
deriving DecidableEq, Repr

def State.initial : State := ⟨0x67452301, 0xEFCDAB89, 0x98BADCFE, 0x10325476, 0xC3D2E1F0⟩

def State.add (s t : State) : State := ⟨s.a + t.a, s.b + t.b, s.c + t.c, s.d + t.d, s.e + t.e⟩

def rotateLeft (x : UInt32) (n : UInt32) : UInt32 := (x <<< n) ||| (x >>> (32 - n))

def bytesOfLength (length : Nat) : List UInt8 :=
  (List.range 8).map fun i => UInt8.ofNat (length >>> (8 * (7 - i)) % 256)

/-- A one bit, zeros up to eight bytes before the end of a block, and the length in bits. -/
def pad (message : List UInt8) : List UInt8 :=
  let zeros := (119 - message.length % 64) % 64
  message ++ 0x80 :: List.replicate zeros 0 ++ bytesOfLength (8 * message.length)

def words : List UInt8 → List UInt32
  | p :: q :: r :: s :: rest =>
    (p.toUInt32 <<< 24 ||| q.toUInt32 <<< 16 ||| r.toUInt32 <<< 8 ||| s.toUInt32) :: words rest
  | _ => []

def extend (w : Array UInt32) (t : Nat) : Array UInt32 :=
  let word (i : Nat) := w.getD (t - i) 0
  w.push (rotateLeft (word 3 ^^^ word 8 ^^^ word 14 ^^^ word 16) 1)

def schedule (block : List UInt32) : Array UInt32 :=
  (List.range' 16 64).foldl extend block.toArray

def roundFunction (t : Nat) (b c d : UInt32) : UInt32 × UInt32 :=
  if t < 20 then ((b &&& c) ||| (~~~b &&& d), 0x5A827999)
  else if t < 40 then (b ^^^ c ^^^ d, 0x6ED9EBA1)
  else if t < 60 then ((b &&& c) ||| (b &&& d) ||| (c &&& d), 0x8F1BBCDC)
  else (b ^^^ c ^^^ d, 0xCA62C1D6)

def round (w : Array UInt32) (s : State) (t : Nat) : State :=
  let (f, k) := roundFunction t s.b s.c s.d
  ⟨rotateLeft s.a 5 + f + s.e + k + w.getD t 0, s.a, rotateLeft s.b 30, s.c, s.d⟩

def compress (s : State) (block : List UInt32) : State :=
  let w := schedule block
  s.add ((List.range 80).foldl (round w) s)

/-- Compresses the words, 16 at a time; `blocks` is how many blocks there are. -/
def compressAll : Nat → State → List UInt32 → State
  | 0, s, _ => s
  | blocks + 1, s, rest => compressAll blocks (compress s (rest.take 16)) (rest.drop 16)

def hexWord (x : UInt32) : List Char :=
  (List.range 8).map fun i => Nat.digitChar (x.toNat >>> (4 * (7 - i)) % 16)

def hash (message : List UInt8) : State :=
  let padded := pad message
  compressAll (padded.length / 64) .initial (words padded)

/-- The hash of a text in UTF-8, as 40 lower-case hexadecimal digits. -/
def hexDigest (text : String) : String :=
  let s := hash text.toUTF8.toList
  String.ofList ([s.a, s.b, s.c, s.d, s.e].flatMap hexWord)

end BrowserFlow.Sha1
