import SvgSkeleton.Shell.Bytes

/-!
Numbers that tell texts apart: the digests MD5, SHA-1, SHA-2 and BLAKE2b, and the smaller sums of
the bytes of a text.
-/

namespace SvgSkeleton.Shell.Digest

/-! ### Words -/

/-- A text with the mark behind its end, zeros, and its length in bits as a number of so many bytes,
so that it fills blocks. -/
def padded (block lengthBytes : Nat) (bigEndian : Bool) (s : Bytes) : Array Nat :=
  let size := s.length
  let zeros := (block - (size + 1 + lengthBytes) % block) % block
  let bits := size * 8
  let length := (List.range lengthBytes).map fun i => bits >>> (8 * i) % 256
  (s.map Char.toNat ++ 0x80 :: List.replicate zeros 0
    ++ (if bigEndian then length.reverse else length)).toArray

/-- The number that bytes from a place on write. -/
def word (size : Nat) (bigEndian : Bool) (bytes : Array Nat) (start : Nat) : Nat :=
  let parts := (List.range size).map fun i => bytes.getD (start + i) 0
  (if bigEndian then parts else parts.reverse).foldl (fun n b => n * 256 + b) 0

/-- The hexadecimal digits of a number of so many bytes. -/
def hex (size n : Nat) : Bytes :=
  let ds := Nat.toDigits 16 n
  List.replicate (2 * size - ds.length) '0' ++ ds

/-- The number with the order of its bytes turned around. -/
def turned (size n : Nat) : Nat :=
  (List.range size).foldl (fun m i => m * 256 + n >>> (8 * i) % 256) 0

def rotateLeft (x : UInt32) (n : UInt32) : UInt32 := (x <<< n) ||| (x >>> (32 - n))

def rotateRight (x : UInt32) (n : UInt32) : UInt32 := (x >>> n) ||| (x <<< (32 - n))

def rotateRight64 (x : UInt64) (n : UInt64) : UInt64 := (x >>> n) ||| (x <<< (64 - n))

/-! ### Constants -/

/-- The prime numbers, so many of them. -/
def primes : Nat → Nat → List Nat → List Nat
  | 0, _, found => found.reverse
  | fuel + 1, n, found =>
    primes fuel (n + 1) (if found.any (n % · == 0) then found else n :: found)

def firstPrimes : List Nat := primes 420 2 []

/-- The greatest number whose power is at most `n`, between two bounds. -/
def root (power n : Nat) : Nat → Nat → Nat → Nat
  | 0, low, _ => low
  | fuel + 1, low, high =>
    if high ≤ low + 1 then low
    else
      let middle := (low + high) / 2
      if Nat.pow middle power ≤ n then root power n fuel middle high
      else root power n fuel low middle

/-- The first 64 bits behind the point of a root of a number. -/
def rootBits (power n : Nat) : UInt64 :=
  UInt64.ofNat (root power (n * (1 <<< (64 * power))) 80 0 (1 <<< 70) % (1 <<< 64))

/-- The constants of the rounds: the cube roots of the first primes. -/
def roundBits : Array UInt64 := ((firstPrimes.take 80).map (rootBits 3)).toArray

def roundBits32 : Array UInt32 := roundBits.map fun (x : UInt64) => (x >>> 32).toUInt32

/-- The square roots of the first sixteen primes. -/
def startBits : Array UInt64 := ((firstPrimes.take 16).map (rootBits 2)).toArray

/-- The constants of the rounds of MD5: the sines of the whole numbers. -/
def sineBits : Array UInt32 :=
  ((List.range 64).map fun i => ((Float.ofNat (i + 1)).sin.abs * 4294967296.0).toUInt32).toArray

def md5Shifts : List UInt32 :=
  [7, 12, 17, 22, 5, 9, 14, 20, 4, 11, 16, 23, 6, 10, 15, 21]

/-! ### MD5 -/

/-- A block of MD5. -/
def md5Block (w : Array UInt32) (h : Array UInt32) : Array UInt32 :=
  let (a, b, c, d) := (List.range 64).foldl (fun (a, b, c, d) i =>
    let (f, g) : UInt32 × Nat :=
      if i < 16 then ((b &&& c) ||| (~~~b &&& d), i)
      else if i < 32 then ((d &&& b) ||| (~~~d &&& c), (5 * i + 1) % 16)
      else if i < 48 then (b ^^^ c ^^^ d, (3 * i + 5) % 16)
      else (c ^^^ (b ||| ~~~d), (7 * i) % 16)
    let x := a + f + sineBits.getD i 0 + w.getD g 0
    let shift := md5Shifts.getD (i / 16 * 4 + i % 4) 7
    (d, b + rotateLeft x shift, b, c))
    (h.getD 0 0, h.getD 1 0, h.getD 2 0, h.getD 3 0)
  #[h.getD 0 0 + a, h.getD 1 0 + b, h.getD 2 0 + c, h.getD 3 0 + d]

/-- The words of a block. -/
def wordsOf (bytes : Array Nat) (bigEndian : Bool) (block : Nat) : Array UInt32 :=
  ((List.range 16).map fun i => UInt32.ofNat (word 4 bigEndian bytes (block * 64 + 4 * i))).toArray

/-- Do all blocks of 64 bytes in turn. -/
def overBlocks (bigEndian : Bool) (step : Array UInt32 → Array UInt32 → Array UInt32)
    (start : Array UInt32) (s : Bytes) : Array UInt32 :=
  let bytes := padded 64 8 bigEndian s
  (List.range (bytes.size / 64)).foldl (fun h i => step (wordsOf bytes bigEndian i) h) start

def md5 (s : Bytes) : Bytes :=
  let h := overBlocks false md5Block #[0x67452301, 0xefcdab89, 0x98badcfe, 0x10325476] s
  h.toList.flatMap fun x => hex 4 (turned 4 x.toNat)

/-! ### SHA-1 -/

/-- The words of a block and those that follow from them. -/
def sha1Words (w : Array UInt32) : Array UInt32 :=
  (List.range 64).foldl (fun w k =>
    let i := k + 16
    w.push (rotateLeft (w.getD (i - 3) 0 ^^^ w.getD (i - 8) 0 ^^^ w.getD (i - 14) 0
      ^^^ w.getD (i - 16) 0) 1)) w

def sha1Block (w : Array UInt32) (h : Array UInt32) : Array UInt32 :=
  let w := sha1Words w
  let (a, b, c, d, e) := (List.range 80).foldl (fun (a, b, c, d, e) i =>
    let (f, k) : UInt32 × UInt32 :=
      if i < 20 then ((b &&& c) ||| (~~~b &&& d), 0x5a827999)
      else if i < 40 then (b ^^^ c ^^^ d, 0x6ed9eba1)
      else if i < 60 then ((b &&& c) ||| (b &&& d) ||| (c &&& d), 0x8f1bbcdc)
      else (b ^^^ c ^^^ d, 0xca62c1d6)
    (rotateLeft a 5 + f + e + k + w.getD i 0, a, rotateLeft b 30, c, d))
    (h.getD 0 0, h.getD 1 0, h.getD 2 0, h.getD 3 0, h.getD 4 0)
  #[h.getD 0 0 + a, h.getD 1 0 + b, h.getD 2 0 + c, h.getD 3 0 + d, h.getD 4 0 + e]

def sha1 (s : Bytes) : Bytes :=
  let h := overBlocks true sha1Block
    #[0x67452301, 0xefcdab89, 0x98badcfe, 0x10325476, 0xc3d2e1f0] s
  h.toList.flatMap fun x => hex 4 x.toNat

/-! ### SHA-2 -/

def sha256Words (w : Array UInt32) : Array UInt32 :=
  (List.range 48).foldl (fun w k =>
    let i := k + 16
    let x := w.getD (i - 15) 0
    let y := w.getD (i - 2) 0
    let s0 := rotateRight x 7 ^^^ rotateRight x 18 ^^^ (x >>> 3)
    let s1 := rotateRight y 17 ^^^ rotateRight y 19 ^^^ (y >>> 10)
    w.push (w.getD (i - 16) 0 + s0 + w.getD (i - 7) 0 + s1)) w

def sha256Block (w : Array UInt32) (h : Array UInt32) : Array UInt32 :=
  let w := sha256Words w
  let after := (List.range 64).foldl (fun (v : Array UInt32) i =>
    let a := v.getD 0 0
    let b := v.getD 1 0
    let c := v.getD 2 0
    let e := v.getD 4 0
    let s1 := rotateRight e 6 ^^^ rotateRight e 11 ^^^ rotateRight e 25
    let choice := (e &&& v.getD 5 0) ^^^ (~~~e &&& v.getD 6 0)
    let t1 := v.getD 7 0 + s1 + choice + roundBits32.getD i 0 + w.getD i 0
    let s0 := rotateRight a 2 ^^^ rotateRight a 13 ^^^ rotateRight a 22
    let majority := (a &&& b) ^^^ (a &&& c) ^^^ (b &&& c)
    #[t1 + s0 + majority, a, b, c, v.getD 3 0 + t1, e, v.getD 5 0, v.getD 6 0]) h
  (h.zip after).map fun (x, y) => x + y

def sha256With (start : Array UInt32) (size : Nat) (s : Bytes) : Bytes :=
  (overBlocks true sha256Block start s).toList.take size |>.flatMap fun x => hex 4 x.toNat

def sha256 : Bytes → Bytes :=
  sha256With ((startBits.extract 0 8).map fun (x : UInt64) => (x >>> 32).toUInt32) 8

def sha224 : Bytes → Bytes := sha256With ((startBits.extract 8 16).map fun x => x.toUInt32) 7

def sha512Words (w : Array UInt64) : Array UInt64 :=
  (List.range 64).foldl (fun w k =>
    let i := k + 16
    let x := w.getD (i - 15) 0
    let y := w.getD (i - 2) 0
    let s0 := rotateRight64 x 1 ^^^ rotateRight64 x 8 ^^^ (x >>> 7)
    let s1 := rotateRight64 y 19 ^^^ rotateRight64 y 61 ^^^ (y >>> 6)
    w.push (w.getD (i - 16) 0 + s0 + w.getD (i - 7) 0 + s1)) w

def sha512Block (w : Array UInt64) (h : Array UInt64) : Array UInt64 :=
  let w := sha512Words w
  let after := (List.range 80).foldl (fun (v : Array UInt64) i =>
    let a := v.getD 0 0
    let b := v.getD 1 0
    let c := v.getD 2 0
    let e := v.getD 4 0
    let s1 := rotateRight64 e 14 ^^^ rotateRight64 e 18 ^^^ rotateRight64 e 41
    let choice := (e &&& v.getD 5 0) ^^^ (~~~e &&& v.getD 6 0)
    let t1 := v.getD 7 0 + s1 + choice + roundBits.getD i 0 + w.getD i 0
    let s0 := rotateRight64 a 28 ^^^ rotateRight64 a 34 ^^^ rotateRight64 a 39
    let majority := (a &&& b) ^^^ (a &&& c) ^^^ (b &&& c)
    #[t1 + s0 + majority, a, b, c, v.getD 3 0 + t1, e, v.getD 5 0, v.getD 6 0]) h
  (h.zip after).map fun (x, y) => x + y

def sha512With (start : Array UInt64) (size : Nat) (s : Bytes) : Bytes :=
  let bytes := padded 128 16 true s
  let wordsAt (block : Nat) : Array UInt64 :=
    ((List.range 16).map fun i => UInt64.ofNat (word 8 true bytes (block * 128 + 8 * i))).toArray
  let h := (List.range (bytes.size / 128)).foldl (fun h i => sha512Block (wordsAt i) h) start
  h.toList.take size |>.flatMap fun x => hex 8 x.toNat

def sha512 : Bytes → Bytes := sha512With (startBits.extract 0 8) 8

def sha384 : Bytes → Bytes := sha512With (startBits.extract 8 16) 6

/-! ### BLAKE2b -/

def blakeOrders : List (List Nat) :=
  [[0, 1, 2, 3, 4, 5, 6, 7, 8, 9, 10, 11, 12, 13, 14, 15],
   [14, 10, 4, 8, 9, 15, 13, 6, 1, 12, 0, 2, 11, 7, 5, 3],
   [11, 8, 12, 0, 5, 2, 15, 13, 10, 14, 3, 6, 7, 1, 9, 4],
   [7, 9, 3, 1, 13, 12, 11, 14, 2, 6, 5, 10, 4, 0, 15, 8],
   [9, 0, 5, 7, 2, 4, 10, 15, 14, 1, 11, 12, 6, 8, 3, 13],
   [2, 12, 6, 10, 0, 11, 8, 3, 4, 13, 7, 5, 15, 14, 1, 9],
   [12, 5, 1, 15, 14, 13, 4, 10, 0, 7, 6, 3, 9, 2, 8, 11],
   [13, 11, 7, 14, 12, 1, 3, 9, 5, 0, 15, 4, 8, 6, 2, 10],
   [6, 15, 14, 9, 11, 3, 0, 8, 12, 2, 13, 7, 1, 4, 10, 5],
   [10, 2, 8, 4, 7, 6, 1, 5, 15, 11, 9, 14, 3, 12, 13, 0]]

/-- Which words are mixed in a round. -/
def blakeMixes : List (Nat × Nat × Nat × Nat) :=
  [(0, 4, 8, 12), (1, 5, 9, 13), (2, 6, 10, 14), (3, 7, 11, 15),
   (0, 5, 10, 15), (1, 6, 11, 12), (2, 7, 8, 13), (3, 4, 9, 14)]

def blakeMix (v : Array UInt64) (x y : UInt64) : Nat × Nat × Nat × Nat → Array UInt64
  | (a, b, c, d) =>
    let at' (v : Array UInt64) (i : Nat) : UInt64 := v.getD i 0
    let half (v : Array UInt64) (x : UInt64) (r1 r2 : UInt64) : Array UInt64 :=
      let v := v.setIfInBounds a (at' v a + at' v b + x)
      let v := v.setIfInBounds d (rotateRight64 (at' v d ^^^ at' v a) r1)
      let v := v.setIfInBounds c (at' v c + at' v d)
      v.setIfInBounds b (rotateRight64 (at' v b ^^^ at' v c) r2)
    half (half v x 32 24) y 16 63

def blakeBlock (words : Array UInt64) (count : Nat) (isLast : Bool) (h : Array UInt64) :
    Array UInt64 :=
  let start := startBits.extract 0 8
  let v := h ++ start
  let v := v.setIfInBounds 12 (v.getD 12 0 ^^^ UInt64.ofNat count)
  let v := if isLast then v.setIfInBounds 14 (~~~(v.getD 14 0)) else v
  let v := (List.range 12).foldl (fun v round =>
    let order := blakeOrders.getD (round % 10) []
    blakeMixes.zipIdx.foldl (fun v (mix, i) =>
      blakeMix v (words.getD (order.getD (2 * i) 0) 0) (words.getD (order.getD (2 * i + 1) 0) 0)
        mix) v) v
  ((List.range 8).map fun i => h.getD i 0 ^^^ v.getD i 0 ^^^ v.getD (i + 8) 0).toArray

/-- BLAKE2b with so many bytes of digest. -/
def blake2bOf (size : Nat) (s : Bytes) : Bytes :=
  let bytes := (s.map Char.toNat).toArray
  let count := max 1 ((s.length + 127) / 128)
  let start := startBits.extract 0 8
  let h := start.setIfInBounds 0 (start.getD 0 0 ^^^ 0x01010000 ^^^ UInt64.ofNat size)
  let h := (List.range count).foldl (fun h i =>
    let words := ((List.range 16).map fun k =>
      UInt64.ofNat (word 8 false bytes (i * 128 + 8 * k))).toArray
    blakeBlock words (min s.length ((i + 1) * 128)) (i + 1 == count) h) h
  (h.toList.flatMap fun x => hex 8 (turned 8 x.toNat)).take (2 * size)

def blake2b : Bytes → Bytes := blake2bOf 64

/-- The bytes that hexadecimal digits write. -/
def bytesOf : Bytes → Bytes
  | a :: b :: r =>
    Char.ofNat ((Text.hexValue a).getD 0 * 16 + (Text.hexValue b).getD 0) :: bytesOf r
  | _ => []

/-! ### Sums -/

/-- A step of the remainder on division by the polynomial, for a byte. -/
def crcByte (crc : UInt32) (b : Nat) : UInt32 :=
  (List.range 8).foldl (fun crc _ =>
    if crc &&& 0x80000000 != 0 then (crc <<< 1) ^^^ 0x04c11db7 else crc <<< 1)
    (crc ^^^ (UInt32.ofNat b <<< 24))

/-- The bytes of a number, the lowest first. -/
def lengthBytes : Nat → Nat → List Nat
  | 0, _ => []
  | fuel + 1, n => if n = 0 then [] else n % 256 :: lengthBytes fuel (n / 256)

/-- The remainder of a text followed by its length. -/
def crc (s : Bytes) : Nat :=
  (~~~((s.map Char.toNat ++ lengthBytes 16 s.length).foldl crcByte 0)).toNat

/-- The sum of the bytes in 16 bits that are turned at each. -/
def bsd (s : Bytes) : Nat :=
  s.foldl (fun n c => ((n >>> 1) + (n &&& 1) <<< 15 + c.toNat) % 65536) 0

/-- The sum of the bytes, folded into 16 bits. -/
def sysv (s : Bytes) : Nat :=
  let n := sumOf (s.map Char.toNat) % (1 <<< 32)
  let r := n % 65536 + n / 65536
  r % 65536 + r / 65536

end SvgSkeleton.Shell.Digest
