import PackageClosure.Shell.Utility.Basic

set_option autoImplicit false

namespace PackageClosure.Shell.Utility

namespace Digest

def rotateLeft (word : UInt32) (count : Nat) : UInt32 :=
  (word <<< UInt32.ofNat count) ||| (word >>> UInt32.ofNat (32 - count))

def rotateRight (word : UInt32) (count : Nat) : UInt32 := rotateLeft word (32 - count)

def bytesOfNumber (count number : Nat) : Bytes :=
  ((List.range count).map fun index => UInt8.ofNat (number / Nat.pow 256 index)).reverse

def padded (littleEnd : Bool) (bytes : Bytes) : Bytes :=
  let zeros := (119 - bytes.length % 64) % 64
  let size := bytesOfNumber 8 (8 * bytes.length)
  bytes ++ 0x80 :: List.replicate zeros 0 ++ if littleEnd then size.reverse else size

def wordOf (bytes : Bytes) : UInt32 :=
  bytes.foldl (fun word byte => word * 256 + UInt32.ofNat byte.toNat) 0

def words (littleEnd : Bool) : Bytes → List UInt32
  | first :: second :: third :: fourth :: rest =>
      let bytes := [first, second, third, fourth]
      wordOf (if littleEnd then bytes.reverse else bytes) :: words littleEnd rest
  | _ => []

def blocks : Nat → List UInt32 → List (Array UInt32)
  | 0, _ => []
  | count + 1, words =>
      if words.isEmpty then [] else (words.take 16).toArray :: blocks count (words.drop 16)

def hexDigits (bytes : Bytes) : String :=
  String.ofList <| bytes.flatMap fun byte =>
    [Nat.digitChar (byte.toNat / 16), Nat.digitChar (byte.toNat % 16)]

def process (littleEnd : Bool) (start : List UInt32)
    (rounds : Array UInt32 → List UInt32 → List UInt32) (bytes : Bytes) : Bytes :=
  let all := words littleEnd (padded littleEnd bytes)
  let final := (blocks all.length all).foldl (fun state block =>
    (state.zip (rounds block state)).map fun (before, after) => before + after) start
  final.flatMap fun word =>
    let digits := bytesOfNumber 4 word.toNat
    if littleEnd then digits.reverse else digits

def cubeRoots : Array UInt32 :=
  #[0x428a2f98, 0x71374491, 0xb5c0fbcf, 0xe9b5dba5, 0x3956c25b, 0x59f111f1, 0x923f82a4,
    0xab1c5ed5, 0xd807aa98, 0x12835b01, 0x243185be, 0x550c7dc3, 0x72be5d74, 0x80deb1fe,
    0x9bdc06a7, 0xc19bf174, 0xe49b69c1, 0xefbe4786, 0x0fc19dc6, 0x240ca1cc, 0x2de92c6f,
    0x4a7484aa, 0x5cb0a9dc, 0x76f988da, 0x983e5152, 0xa831c66d, 0xb00327c8, 0xbf597fc7,
    0xc6e00bf3, 0xd5a79147, 0x06ca6351, 0x14292967, 0x27b70a85, 0x2e1b2138, 0x4d2c6dfc,
    0x53380d13, 0x650a7354, 0x766a0abb, 0x81c2c92e, 0x92722c85, 0xa2bfe8a1, 0xa81a664b,
    0xc24b8b70, 0xc76c51a3, 0xd192e819, 0xd6990624, 0xf40e3585, 0x106aa070, 0x19a4c116,
    0x1e376c08, 0x2748774c, 0x34b0bcb5, 0x391c0cb3, 0x4ed8aa4a, 0x5b9cca4f, 0x682e6ff3,
    0x748f82ee, 0x78a5636f, 0x84c87814, 0x8cc70208, 0x90befffa, 0xa4506ceb, 0xbef9a3f7,
    0xc67178f2]

def squareRoots : List UInt32 :=
  [0x6a09e667, 0xbb67ae85, 0x3c6ef372, 0xa54ff53a, 0x510e527f, 0x9b05688c, 0x1f83d9ab,
    0x5be0cd19]

def schedule (block : Array UInt32) : Array UInt32 :=
  (List.range 48).foldl (fun (words : Array UInt32) index =>
    let early := words.getD (index + 1) 0
    let late := words.getD (index + 14) 0
    let first := rotateRight early 7 ^^^ rotateRight early 18 ^^^ (early >>> 3)
    let second := rotateRight late 17 ^^^ rotateRight late 19 ^^^ (late >>> 10)
    words.push (words.getD index 0 + first + words.getD (index + 9) 0 + second)) block

def rootRound (words : Array UInt32) (state : List UInt32) (index : Nat) : List UInt32 :=
  match state with
  | [a, b, c, d, e, f, g, h] =>
      let large := rotateRight e 6 ^^^ rotateRight e 11 ^^^ rotateRight e 25
      let choice := (e &&& f) ^^^ ((~~~e) &&& g)
      let first := h + large + choice + cubeRoots.getD index 0 + words.getD index 0
      let small := rotateRight a 2 ^^^ rotateRight a 13 ^^^ rotateRight a 22
      let majority := (a &&& b) ^^^ (a &&& c) ^^^ (b &&& c)
      [first + small + majority, a, b, c, d + first, e, f, g]
  | other => other

def rootRounds (block : Array UInt32) (state : List UInt32) : List UInt32 :=
  (List.range 64).foldl (rootRound (schedule block)) state

def sha256 (bytes : Bytes) : Bytes := process false squareRoots rootRounds bytes

def rotatingSchedule (block : Array UInt32) : Array UInt32 :=
  (List.range 64).foldl (fun (words : Array UInt32) index =>
    let word := words.getD (index + 13) 0 ^^^ words.getD (index + 8) 0 ^^^
      words.getD (index + 2) 0 ^^^ words.getD index 0
    words.push (rotateLeft word 1)) block

def rotatingRound (words : Array UInt32) (state : List UInt32) (index : Nat) : List UInt32 :=
  match state with
  | [a, b, c, d, e] =>
      let (mixed, root) : UInt32 × UInt32 :=
        if index < 20 then ((b &&& c) ||| ((~~~b) &&& d), 0x5a827999)
        else if index < 40 then (b ^^^ c ^^^ d, 0x6ed9eba1)
        else if index < 60 then ((b &&& c) ||| (b &&& d) ||| (c &&& d), 0x8f1bbcdc)
        else (b ^^^ c ^^^ d, 0xca62c1d6)
      [rotateLeft a 5 + mixed + e + root + words.getD index 0, a, rotateLeft b 30, c, d]
  | other => other

def rotatingRounds (block : Array UInt32) (state : List UInt32) : List UInt32 :=
  (List.range 80).foldl (rotatingRound (rotatingSchedule block)) state

def sha1 (bytes : Bytes) : Bytes :=
  process false [0x67452301, 0xefcdab89, 0x98badcfe, 0x10325476, 0xc3d2e1f0] rotatingRounds bytes

def sines : Array UInt32 :=
  #[0xd76aa478, 0xe8c7b756, 0x242070db, 0xc1bdceee, 0xf57c0faf, 0x4787c62a, 0xa8304613,
    0xfd469501, 0x698098d8, 0x8b44f7af, 0xffff5bb1, 0x895cd7be, 0x6b901122, 0xfd987193,
    0xa679438e, 0x49b40821, 0xf61e2562, 0xc040b340, 0x265e5a51, 0xe9b6c7aa, 0xd62f105d,
    0x02441453, 0xd8a1e681, 0xe7d3fbc8, 0x21e1cde6, 0xc33707d6, 0xf4d50d87, 0x455a14ed,
    0xa9e3e905, 0xfcefa3f8, 0x676f02d9, 0x8d2a4c8a, 0xfffa3942, 0x8771f681, 0x6d9d6122,
    0xfde5380c, 0xa4beea44, 0x4bdecfa9, 0xf6bb4b60, 0xbebfbc70, 0x289b7ec6, 0xeaa127fa,
    0xd4ef3085, 0x04881d05, 0xd9d4d039, 0xe6db99e5, 0x1fa27cf8, 0xc4ac5665, 0xf4292244,
    0x432aff97, 0xab9423a7, 0xfc93a039, 0x655b59c3, 0x8f0ccc92, 0xffeff47d, 0x85845dd1,
    0x6fa87e4f, 0xfe2ce6e0, 0xa3014314, 0x4e0811a1, 0xf7537e82, 0xbd3af235, 0x2ad7d2bb,
    0xeb86d391]

def shifts : List Nat := [7, 12, 17, 22, 5, 9, 14, 20, 4, 11, 16, 23, 6, 10, 15, 21]

def sineRound (block : Array UInt32) (state : List UInt32) (index : Nat) : List UInt32 :=
  match state with
  | [a, b, c, d] =>
      let (mixed, place) :=
        if index < 16 then ((b &&& c) ||| ((~~~b) &&& d), index)
        else if index < 32 then ((d &&& b) ||| ((~~~d) &&& c), (5 * index + 1) % 16)
        else if index < 48 then (b ^^^ c ^^^ d, (3 * index + 5) % 16)
        else (c ^^^ (b ||| (~~~d)), (7 * index) % 16)
      let sum := mixed + a + sines.getD index 0 + block.getD place 0
      let shift := shifts.getD (index / 16 * 4 + index % 4) 0
      [d, b + rotateLeft sum shift, b, c]
  | other => other

def sineRounds (block : Array UInt32) (state : List UInt32) : List UInt32 :=
  (List.range 64).foldl (sineRound block) state

def md5 (bytes : Bytes) : Bytes :=
  process true [0x67452301, 0xefcdab89, 0x98badcfe, 0x10325476] sineRounds bytes

end Digest

end PackageClosure.Shell.Utility
