import NativeBuild.Machine.Bytes

/-
  Digests, by which contents are told apart: a message is filled up to whole blocks, and each block
  stirs a state of a few words. The constants are the first bits behind the point of sines and of
  roots of primes.
-/

namespace NativeBuild.Machine

/-- The bytes of a message filled up to whole blocks: a one, zeros, and its length in bits, which takes
an eighth of a block. -/
def filledUp (block : Nat) (highFirst : Bool) (bytes : List UInt8) : List UInt8 :=
  let size := bytes.length
  let length := (List.range (block / 8)).map fun k => (size * 8 / Nat.pow 256 k).toUInt8
  bytes ++ [128] ++ List.replicate ((2 * block - 1 - block / 8 - size % block) % block) 0 ++
    if highFirst then length.reverse else length

/-- The words of a block, four bytes each. -/
def wordsOf (highFirst : Bool) (block : List UInt8) : Array UInt32 :=
  ((inGroups 4 (block.length + 1) block).map fun group =>
    (if highFirst then group else group.reverse).foldl
      (fun (n : UInt32) b => n * 256 + b.toUInt32) 0).toArray

/-- A word turned to the left. -/
def turned (x : UInt32) (n : Nat) : UInt32 :=
  x <<< n.toUInt32 ||| x >>> (32 - n.toUInt32)

/-- The bytes of words. -/
def wordBytes (highFirst : Bool) (words : List UInt32) : List UInt8 :=
  words.flatMap fun w =>
    let bytes := ([24, 16, 8, 0] : List UInt32).map fun k => (w >>> k).toUInt8
    if highFirst then bytes else bytes.reverse

/-- Adds lists of words. -/
def addWords (a b : List UInt32) : List UInt32 := (a.zip b).map fun (x, y) => x + y

/-- A digest made block by block. -/
def digest (highFirst : Bool) (start : List UInt32)
    (compress : List UInt32 → Array UInt32 → List UInt32) (bytes : List UInt8) : List UInt8 :=
  let filled := filledUp 64 highFirst bytes
  let blocks := inGroups 64 (filled.length + 1) filled
  wordBytes highFirst (blocks.foldl (fun state block =>
    addWords state (compress state (wordsOf highFirst block))) start)

/-- The constants of MD5: the sine of each number from one on, in units of `2 ^ -32`. -/
def sineWords : Array UInt32 :=
  ((List.range 64).map fun k =>
    ((Float.ofNat (k + 1)).sin.abs * 4294967296.0).floor.toUInt32).toArray

/-- The compression of MD5. -/
def compressMd5 (state : List UInt32) (block : Array UInt32) : List UInt32 :=
  let shifts : List (List Nat) := [[7, 12, 17, 22], [5, 9, 14, 20], [4, 11, 16, 23], [6, 10, 15, 21]]
  (List.range 64).foldl (fun state k =>
    match state with
    | [a, b, c, d] =>
      let (f, index) : UInt32 × Nat :=
        if k < 16 then ((b &&& c) ||| (~~~b &&& d), k)
        else if k < 32 then ((d &&& b) ||| (~~~d &&& c), (5 * k + 1) % 16)
        else if k < 48 then (b ^^^ c ^^^ d, (3 * k + 5) % 16)
        else (c ^^^ (b ||| ~~~d), 7 * k % 16)
      let sum := a + f + sineWords.getD k 0 + block.getD index 0
      [d, b + turned sum (((shifts.getD (k / 16) []).getD (k % 4)) 0), b, c]
    | state => state) state

/-- The compression of SHA-1. -/
def compressSha1 (state : List UInt32) (block : Array UInt32) : List UInt32 :=
  let schedule := (List.range 64).foldl (fun (w : Array UInt32) k =>
    let word := fun (back : Nat) => w.getD (k + 16 - back) 0
    w.push (turned (word 3 ^^^ word 8 ^^^ word 14 ^^^ word 16) 1)) block
  (List.range 80).foldl (fun state k =>
    match state with
    | [a, b, c, d, e] =>
      let (f, constant) : UInt32 × UInt32 :=
        if k < 20 then ((b &&& c) ||| (~~~b &&& d), 0x5A827999)
        else if k < 40 then (b ^^^ c ^^^ d, 0x6ED9EBA1)
        else if k < 60 then ((b &&& c) ||| (b &&& d) ||| (c &&& d), 0x8F1BBCDC)
        else (b ^^^ c ^^^ d, 0xCA62C1D6)
      [turned a 5 + f + e + constant + schedule.getD k 0, a, turned b 30, c, d]
    | state => state) state

/-- The first primes. -/
def primes (count : Nat) : List Nat :=
  ((List.range 420).filter fun n =>
    2 ≤ n && (List.range n).all fun d => d < 2 || n % d != 0).take count

/-- The greatest number whose power is not above `n`, among those with so many bits. -/
def rootOf (power n : Nat) : Nat → Nat → Nat
  | 0, root => root
  | bits + 1, root =>
    let next := root + Nat.pow 2 bits
    rootOf power n bits (if Nat.pow next power ≤ n then next else root)

/-- The first bits behind the point of a root of each of the first primes. -/
def rootWords (power count : Nat) : List UInt32 :=
  (primes count).map fun p => (rootOf power (p * Nat.pow 2 (32 * power)) 40 0).toUInt32

/-- The compression of SHA-256. -/
def compressSha256 (constants : Array UInt32) (state : List UInt32) (block : Array UInt32) :
    List UInt32 :=
  let schedule := (List.range 48).foldl (fun (w : Array UInt32) k =>
    let word := fun (back : Nat) => w.getD (k + 16 - back) 0
    let x := word 15
    let y := word 2
    let s := turned x 25 ^^^ turned x 14 ^^^ (x >>> 3)
    let t := turned y 15 ^^^ turned y 13 ^^^ (y >>> 10)
    w.push (word 16 + s + word 7 + t)) block
  (List.range 64).foldl (fun state k =>
    match state with
    | [a, b, c, d, e, f, g, h] =>
      let s := turned e 26 ^^^ turned e 21 ^^^ turned e 7
      let t := turned a 30 ^^^ turned a 19 ^^^ turned a 10
      let choice := (e &&& f) ^^^ (~~~e &&& g)
      let majority := (a &&& b) ^^^ (a &&& c) ^^^ (b &&& c)
      let x := h + s + choice + constants.getD k 0 + schedule.getD k 0
      [x + t + majority, a, b, c, d + x, e, f, g]
    | state => state) state

/-- A long word turned to the right. -/
def turnedLong (x : UInt64) (n : UInt64) : UInt64 := x >>> n ||| x <<< (64 - n)

/-- The first bits behind the point of a root of each of the first primes, for long words. -/
def rootLongs (power count : Nat) : List UInt64 :=
  (primes count).map fun p => (rootOf power (p * Nat.pow 2 (64 * power)) 72 0).toUInt64

/-- The compression of SHA-512. -/
def compressSha512 (constants : Array UInt64) (state : List UInt64) (block : Array UInt64) :
    List UInt64 :=
  let schedule := (List.range 64).foldl (fun (w : Array UInt64) k =>
    let word := fun (back : Nat) => w.getD (k + 16 - back) 0
    let x := word 15
    let y := word 2
    let s := turnedLong x 1 ^^^ turnedLong x 8 ^^^ (x >>> 7)
    let t := turnedLong y 19 ^^^ turnedLong y 61 ^^^ (y >>> 6)
    w.push (word 16 + s + word 7 + t)) block
  (List.range 80).foldl (fun state k =>
    match state with
    | [a, b, c, d, e, f, g, h] =>
      let s := turnedLong e 14 ^^^ turnedLong e 18 ^^^ turnedLong e 41
      let t := turnedLong a 28 ^^^ turnedLong a 34 ^^^ turnedLong a 39
      let choice := (e &&& f) ^^^ (~~~e &&& g)
      let majority := (a &&& b) ^^^ (a &&& c) ^^^ (b &&& c)
      let x := h + s + choice + constants.getD k 0 + schedule.getD k 0
      [x + t + majority, a, b, c, d + x, e, f, g]
    | state => state) state

/-- A digest made of long words. -/
def longDigest (start : List UInt64) (bytes : List UInt8) : List UInt8 :=
  let filled := filledUp 128 true bytes
  let constants := (rootLongs 3 80).toArray
  let words := fun (block : List UInt8) => ((inGroups 8 17 block).map fun group =>
    group.foldl (fun (n : UInt64) b => n * 256 + b.toUInt64) 0).toArray
  let state := (inGroups 128 (filled.length + 1) filled).foldl (fun state block =>
    (state.zip (compressSha512 constants state (words block))).map fun (x, y) => x + y) start
  state.flatMap fun w => ([56, 48, 40, 32, 24, 16, 8, 0] : List UInt64).map fun k => (w >>> k).toUInt8

/-- The orders in which the words of a block are stirred in, one for each round. -/
def stirOrders : List (List Nat) := [
  [0, 1, 2, 3, 4, 5, 6, 7, 8, 9, 10, 11, 12, 13, 14, 15],
  [14, 10, 4, 8, 9, 15, 13, 6, 1, 12, 0, 2, 11, 7, 5, 3],
  [11, 8, 12, 0, 5, 2, 15, 13, 10, 14, 3, 6, 7, 1, 9, 4],
  [7, 9, 3, 1, 13, 12, 11, 14, 2, 6, 5, 10, 4, 0, 15, 8],
  [9, 0, 5, 7, 2, 4, 10, 15, 14, 1, 11, 12, 6, 8, 3, 13],
  [2, 12, 6, 10, 0, 11, 8, 3, 4, 13, 7, 5, 15, 14, 1, 9],
  [12, 5, 1, 15, 14, 13, 4, 10, 0, 7, 6, 3, 9, 2, 8, 11],
  [13, 11, 7, 14, 12, 1, 3, 9, 5, 0, 15, 4, 8, 6, 2, 10],
  [6, 15, 14, 9, 11, 3, 0, 8, 12, 2, 13, 7, 1, 4, 10, 5],
  [10, 2, 8, 4, 7, 6, 1, 5, 15, 11, 9, 14, 3, 12, 13, 0]]

/-- The places of the state that are stirred together: the columns of a square, then its diagonals. -/
def stirPlaces : List (Nat × Nat × Nat × Nat) :=
  [(0, 4, 8, 12), (1, 5, 9, 13), (2, 6, 10, 14), (3, 7, 11, 15),
    (0, 5, 10, 15), (1, 6, 11, 12), (2, 7, 8, 13), (3, 4, 9, 14)]

/-- Stirs two words into four places of a state. -/
def stir (v : Array UInt64) (places : Nat × Nat × Nat × Nat) (x y : UInt64) : Array UInt64 :=
  let (i, j, k, l) := places
  let half := fun (v : Array UInt64) (word right left : UInt64) =>
    let a := v.getD i 0 + v.getD j 0 + word
    let d := turnedLong (v.getD l 0 ^^^ a) right
    let c := v.getD k 0 + d
    let b := turnedLong (v.getD j 0 ^^^ c) left
    (((v.setIfInBounds i a).setIfInBounds l d).setIfInBounds k c).setIfInBounds j b
  half (half v x 32 24) y 16 63

/-- Stirs a block into a state. The number of bytes so far goes in with it, and a mark if it is the
last one. -/
def stirBlock (start state : List UInt64) (block : List UInt8) (count : Nat) (isLast : Bool) :
    List UInt64 :=
  let words := ((inGroups 8 17 (block ++ List.replicate (128 - block.length) 0)).map fun group =>
    group.foldr (fun b (n : UInt64) => n * 256 + b.toUInt64) 0).toArray
  let v := (state ++ start).toArray
  let v := v.modify 12 (· ^^^ count.toUInt64)
  let v := if isLast then v.modify 14 (~~~·) else v
  let v := (stirOrders ++ stirOrders.take 2).foldl (fun v order =>
    (stirPlaces.zip (inGroups 2 9 order)).foldl (fun v (places, pair) =>
      stir v places (words.getD (pair.headD 0) 0) (words.getD (pair.getLastD 0) 0)) v) v
  state.zipIdx.map fun (h, k) => h ^^^ v.getD k 0 ^^^ v.getD (k + 8) 0

/-- A digest of up to 64 bytes that is stirred. -/
def stirredDigest (size : Nat) (bytes : List UInt8) : List UInt8 :=
  let start := rootLongs 2 8
  let first := start.zipIdx.map fun (w, k) => if k = 0 then w ^^^ 0x01010000 ^^^ size.toUInt64 else w
  let blocks := if bytes = [] then [[]] else inGroups 128 (bytes.length + 1) bytes
  let state := blocks.zipIdx.foldl (fun state (block, k) =>
    stirBlock start state block (128 * k + block.length) (k + 1 == blocks.length)) first
  state.flatMap fun w => ([0, 8, 16, 24, 32, 40, 48, 56] : List UInt64).map fun k => (w >>> k).toUInt8

/-- The ways to make a digest. -/
inductive DigestKind where
  | md5
  | sha1
  | sha224
  | sha256
  | sha384
  | sha512
  /-- One that is stirred, with its number of bytes. -/
  | blake2b (bytes : Nat)
  deriving Repr, DecidableEq

namespace DigestKind

/-- The name that stands in front of a digest. -/
def title : DigestKind → String
  | md5 => "MD5"
  | sha1 => "SHA1"
  | sha224 => "SHA224"
  | sha256 => "SHA256"
  | sha384 => "SHA384"
  | sha512 => "SHA512"
  | blake2b bytes => if bytes = 64 then "BLAKE2b" else "BLAKE2b-" ++ toString (8 * bytes)

/-- How many bytes a digest has. -/
def size : DigestKind → Nat
  | md5 => 16
  | sha1 => 20
  | sha224 => 28
  | sha256 => 32
  | sha384 => 48
  | sha512 => 64
  | blake2b bytes => bytes

/-- The digest of bytes. -/
def digestOf (kind : DigestKind) (bytes : List UInt8) : List UInt8 :=
  let later := (rootLongs 2 16).drop 8
  let short := compressSha256 (rootWords 3 64).toArray
  (match kind with
    | md5 => digest false [0x67452301, 0xEFCDAB89, 0x98BADCFE, 0x10325476] compressMd5 bytes
    | sha1 =>
      digest true [0x67452301, 0xEFCDAB89, 0x98BADCFE, 0x10325476, 0xC3D2E1F0] compressSha1 bytes
    | sha224 => digest true (later.map UInt64.toUInt32) short bytes
    | sha256 => digest true (rootWords 2 8) short bytes
    | sha384 => longDigest later bytes
    | sha512 => longDigest (rootLongs 2 8) bytes
    | blake2b size => stirredDigest size bytes).take kind.size

/-- The digits of the digest of bytes. -/
def digits (kind : DigestKind) (bytes : List UInt8) : List Char :=
  (kind.digestOf bytes).flatMap fun b => padLeft '0' 2 (Nat.toDigits 16 b.toNat)

/-- The kind that a name stands for. -/
def named? (name : String) : Option DigestKind :=
  [md5, sha1, sha224, sha256, sha384, sha512, blake2b 64].find? fun kind => kind.title.toLower == name

end DigestKind

/-- The cyclic redundancy check of bytes, with their number behind them. -/
def redundancy (bytes : List UInt8) : Nat :=
  let step := fun (crc : UInt32) (b : UInt8) =>
    (List.range 8).foldl (fun (crc : UInt32) _ =>
      if crc &&& 0x80000000 ≠ 0 then (crc <<< 1) ^^^ 0x04C11DB7 else crc <<< 1)
      (crc ^^^ (b.toUInt32 <<< 24))
  let size := (Nat.toDigits 256 bytes.length).length
  let length := if bytes = [] then [] else
    (List.range size).map fun k => (bytes.length / Nat.pow 256 k).toUInt8
  (~~~((bytes ++ length).foldl step 0)).toNat

/-- The sum of bytes of which the bits are turned to the right before each is added. -/
def turnedSum (bytes : List UInt8) : Nat :=
  bytes.foldl (fun n b => ((n / 2 + n % 2 * 32768) + b.toNat) % 65536) 0

/-- The sum of bytes, with what is over added again. -/
def plainSum (bytes : List UInt8) : Nat :=
  let n := (bytes.foldl (fun n b => n + b.toNat) 0) % Nat.pow 2 32
  let n := n % 65536 + n / 65536
  n % 65536 + n / 65536

end NativeBuild.Machine
