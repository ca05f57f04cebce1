import PackageClosure.Shell.Utility.Digest

set_option autoImplicit false

namespace PackageClosure.Shell.Utility

namespace Digest

def isPrime (number : Nat) : Bool :=
  1 < number && (List.range number).all fun divisor => divisor < 2 || number % divisor ≠ 0

def primes : List Nat := (List.range 410).filter isPrime

def cubeRoot (number : Nat) : Nat → Nat → Nat
  | 0, root => root
  | bit + 1, root =>
      let next := root + Nat.pow 2 bit
      cubeRoot number bit (if next * next * next ≤ number then next else root)

def squareFraction (number : Nat) : UInt64 := UInt64.ofNat (number * Nat.pow 2 128).sqrt

def cubeFraction (number : Nat) : UInt64 :=
  UInt64.ofNat (cubeRoot (number * Nat.pow 2 192) 70 0)

def wideRoots : Array UInt64 := (primes.map cubeFraction).toArray

def wideStart (second : Bool) : List UInt64 :=
  ((primes.drop (if second then 8 else 0)).take 8).map squareFraction

def rotateWide (word : UInt64) (count : Nat) : UInt64 :=
  (word >>> UInt64.ofNat count) ||| (word <<< UInt64.ofNat (64 - count))

def widePadded (bytes : Bytes) : Bytes :=
  let zeros := (239 - bytes.length % 128) % 128
  bytes ++ 0x80 :: List.replicate zeros 0 ++ bytesOfNumber 16 (8 * bytes.length)

def wideWord (bytes : Bytes) : UInt64 :=
  bytes.foldl (fun word byte => word * 256 + UInt64.ofNat byte.toNat) 0

def wideWords : Nat → Bytes → List UInt64
  | 0, _ => []
  | count + 1, bytes =>
      if bytes.isEmpty then [] else wideWord (bytes.take 8) :: wideWords count (bytes.drop 8)

def wideBlocks : Nat → List UInt64 → List (Array UInt64)
  | 0, _ => []
  | count + 1, words =>
      if words.isEmpty then [] else (words.take 16).toArray :: wideBlocks count (words.drop 16)

def wideSchedule (block : Array UInt64) : Array UInt64 :=
  (List.range 64).foldl (fun (words : Array UInt64) index =>
    let early := words.getD (index + 1) 0
    let late := words.getD (index + 14) 0
    let first := rotateWide early 1 ^^^ rotateWide early 8 ^^^ (early >>> 7)
    let second := rotateWide late 19 ^^^ rotateWide late 61 ^^^ (late >>> 6)
    words.push (words.getD index 0 + first + words.getD (index + 9) 0 + second)) block

def wideRound (words : Array UInt64) (state : List UInt64) (index : Nat) : List UInt64 :=
  match state with
  | [a, b, c, d, e, f, g, h] =>
      let large := rotateWide e 14 ^^^ rotateWide e 18 ^^^ rotateWide e 41
      let choice := (e &&& f) ^^^ ((~~~e) &&& g)
      let first := h + large + choice + wideRoots.getD index 0 + words.getD index 0
      let small := rotateWide a 28 ^^^ rotateWide a 34 ^^^ rotateWide a 39
      let majority := (a &&& b) ^^^ (a &&& c) ^^^ (b &&& c)
      [first + small + majority, a, b, c, d + first, e, f, g]
  | other => other

def wideProcess (start : List UInt64) (bytes : Bytes) : Bytes :=
  let padded := widePadded bytes
  let words := wideWords padded.length padded
  let final := (wideBlocks words.length words).foldl (fun state block =>
    let after := (List.range 80).foldl (wideRound (wideSchedule block)) state
    (state.zip after).map fun (before, after) => before + after) start
  final.flatMap fun word => bytesOfNumber 8 word.toNat

def sha512 (bytes : Bytes) : Bytes := wideProcess (wideStart false) bytes

def sha384 (bytes : Bytes) : Bytes := (wideProcess (wideStart true) bytes).take 48

def sha224 (bytes : Bytes) : Bytes :=
  let start := (wideStart true).map fun word => UInt32.ofNat (word.toNat % Nat.pow 2 32)
  (process false start rootRounds bytes).take 28

def mixingOrders : List (List Nat) :=
  [[0, 1, 2, 3, 4, 5, 6, 7, 8, 9, 10, 11, 12, 13, 14, 15],
    [14, 10, 4, 8, 9, 15, 13, 6, 1, 12, 0, 2, 11, 7, 5, 3],
    [11, 8, 12, 0, 5, 2, 15, 13, 10, 14, 3, 6, 7, 1, 9, 4],
    [7, 9, 3, 1, 13, 12, 11, 14, 2, 6, 5, 10, 4, 0, 15, 8],
    [9, 0, 5, 7, 2, 4, 10, 15, 14, 1, 11, 12, 6, 8, 3, 13],
    [2, 12, 6, 10, 0, 11, 8, 3, 4, 13, 7, 5, 15, 14, 1, 9],
    [12, 5, 1, 15, 14, 13, 4, 10, 0, 7, 6, 3, 9, 2, 8, 11],
    [13, 11, 7, 14, 12, 1, 3, 9, 5, 0, 15, 4, 8, 6, 2, 10],
    [6, 15, 14, 9, 11, 3, 0, 8, 12, 2, 13, 7, 1, 4, 10, 5],
    [10, 2, 8, 4, 7, 6, 1, 5, 15, 11, 9, 14, 3, 12, 13, 0]]

def mixedPlaces : List (Nat × Nat × Nat × Nat) :=
  [(0, 4, 8, 12), (1, 5, 9, 13), (2, 6, 10, 14), (3, 7, 11, 15), (0, 5, 10, 15), (1, 6, 11, 12),
    (2, 7, 8, 13), (3, 4, 9, 14)]

def mixFour (square : Array UInt64) (places : Nat × Nat × Nat × Nat) (one other : UInt64) :
    Array UInt64 :=
  let (first, second, third, fourth) := places
  let b := square.getD second 0
  let c := square.getD third 0
  let d := square.getD fourth 0
  let a := square.getD first 0 + b + one
  let d := rotateWide (d ^^^ a) 32
  let c := c + d
  let b := rotateWide (b ^^^ c) 24
  let a := a + b + other
  let d := rotateWide (d ^^^ a) 16
  let c := c + d
  let b := rotateWide (b ^^^ c) 63
  (((square.setIfInBounds first a).setIfInBounds second b).setIfInBounds third c).setIfInBounds
    fourth d

def mixBlock (state : List UInt64) (block : Array UInt64) (count : Nat) (last : Bool) :
    List UInt64 :=
  let start := wideStart false
  let finish : List UInt64 := (start.drop 4).zipIdx.map fun (word, index) =>
    if index = 0 then word ^^^ UInt64.ofNat count
    else if index = 2 && last then ~~~word
    else word
  let square := (state ++ start.take 4 ++ finish).toArray
  let mixed := (List.range 12).foldl (fun square round =>
    let order := mixingOrders.getD (round % 10) []
    mixedPlaces.zipIdx.foldl (fun square (places, index) =>
      let word (place : Nat) : UInt64 := block.getD (order.getD place 0) 0
      mixFour square places (word (2 * index)) (word (2 * index + 1))) square) square
  state.zipIdx.map fun (word, index) => word ^^^ mixed.getD index 0 ^^^ mixed.getD (index + 8) 0

def blake2b (size : Nat) (bytes : Bytes) : Bytes :=
  let blockCount := max 1 ((bytes.length + 127) / 128)
  let start := (wideStart false).zipIdx.map fun (word, index) =>
    if index = 0 then word ^^^ 0x01010000 ^^^ UInt64.ofNat size else word
  let final := (List.range blockCount).foldl (fun state index =>
    let part := (bytes.drop (128 * index)).take 128
    let filled := part ++ List.replicate (128 - part.length) 0
    let words := (wideWords 16 filled).map fun word =>
      wideWord (bytesOfNumber 8 word.toNat).reverse
    let last := index + 1 = blockCount
    mixBlock state words.toArray (if last then bytes.length else 128 * (index + 1)) last) start
  (final.flatMap fun word => (bytesOfNumber 8 word.toNat).reverse).take size

end Digest

end PackageClosure.Shell.Utility
