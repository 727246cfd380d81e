import Dissect.Text.Utf8

/-!
The hash function BLAKE3 without a key. A text is cut into chunks of 1024 octets, a chunk into
blocks of 64; chunk values are joined in a binary tree whose left side holds the largest possible
power of two of chunks.
-/

namespace Dissect.Digest

abbrev Words := Array UInt32

def initial : Words :=
  #[0x6A09E667, 0xBB67AE85, 0x3C6EF372, 0xA54FF53A, 0x510E527F, 0x9B05688C, 0x1F83D9AB, 0x5BE0CD19]

def permutation : Array Nat := #[2, 6, 3, 10, 7, 0, 4, 13, 1, 11, 12, 5, 9, 14, 15, 8]

/-- The four words that each of the eight steps of a round mixes: the columns, then the
diagonals. -/
def quadruples : List (Nat × Nat × Nat × Nat) :=
  [(0, 4, 8, 12), (1, 5, 9, 13), (2, 6, 10, 14), (3, 7, 11, 15),
   (0, 5, 10, 15), (1, 6, 11, 12), (2, 7, 8, 13), (3, 4, 9, 14)]

def chunkStart : UInt32 := 1
def chunkEnd : UInt32 := 2
def parentNode : UInt32 := 4
def rootNode : UInt32 := 8

def rotateRight (x : UInt32) (n : UInt32) : UInt32 := (x >>> n) ||| (x <<< (32 - n))

def mix (s : Words) (q : Nat × Nat × Nat × Nat) (x y : UInt32) : Words :=
  let (ia, ib, ic, id) := q
  let a := s.getD ia 0
  let b := s.getD ib 0
  let c := s.getD ic 0
  let d := s.getD id 0
  let a := a + b + x
  let d := rotateRight (d ^^^ a) 16
  let c := c + d
  let b := rotateRight (b ^^^ c) 12
  let a := a + b + y
  let d := rotateRight (d ^^^ a) 8
  let c := c + d
  let b := rotateRight (b ^^^ c) 7
  (((s.setIfInBounds ia a).setIfInBounds ib b).setIfInBounds ic c).setIfInBounds id d

def mixRound (s block : Words) : Words :=
  (quadruples.foldl
    (fun (acc : Words × Nat) q =>
      (mix acc.1 q (block.getD acc.2 0) (block.getD (acc.2 + 1) 0), acc.2 + 2)) (s, 0)).1

def rounds : Nat → Words → Words → Words
  | 0, s, _ => s
  | n + 1, s, block => rounds n (mixRound s block) (permutation.map (block.getD · 0))

/-- The compression of a block of `length` octets under a chaining value, to eight words. -/
def compress (chaining block : Words) (counter : UInt64) (length : UInt32) (flags : UInt32) :
    Words :=
  let s := chaining ++ #[0x6A09E667, 0xBB67AE85, 0x3C6EF372, 0xA54FF53A,
    counter.toUInt32, (counter >>> 32).toUInt32, length, flags]
  let s := rounds 7 s block
  Array.ofFn fun i : Fin 8 => s.getD i 0 ^^^ s.getD (i + 8) 0

/-- The word of four octets from position `at` on, the first the least; octets past the end count as
zero. -/
def wordAt (octets : Array UInt8) (start stop i : Nat) : UInt32 :=
  let octet (j : Nat) : UInt32 :=
    let p := start + 4 * i + j
    if p < stop then (octets.getD p 0).toUInt32 else 0
  octet 0 ||| (octet 1 <<< 8) ||| (octet 2 <<< 16) ||| (octet 3 <<< 24)

def blockAt (octets : Array UInt8) (start stop : Nat) : Words :=
  Array.ofFn fun i : Fin 16 => wordAt octets start stop i

/-- The chaining value after the remaining `count` blocks of a chunk; `final` marks the last. -/
def chunkBlocks (octets : Array UInt8) (stop : Nat) (counter : UInt64) (final : UInt32) :
    Nat → Nat → UInt32 → Words → Words
  | 0, _, _, chaining => chaining
  | count + 1, start, opening, chaining =>
      let blockStop := min stop (start + 64)
      let flags := opening ||| (if count == 0 then chunkEnd ||| final else 0)
      let next := compress chaining (blockAt octets start blockStop) counter
        (blockStop - start).toUInt32 flags
      chunkBlocks octets stop counter final count (start + 64) 0 next

def chunkValue (octets : Array UInt8) (index : Nat) (final : UInt32) : Words :=
  let start := index * 1024
  let stop := min octets.size (start + 1024)
  let count := max 1 ((stop - start + 63) / 64)
  chunkBlocks octets stop index.toUInt64 final count start chunkStart initial

/-- The largest power of two below `n`, for `n` above one. -/
def leftChunks (n : Nat) : Nat := Nat.pow 2 (n - 1).log2

/-- The value of the subtree over `count` chunks from `index` on; `depth` bounds its height. -/
def treeValue (octets : Array UInt8) : Nat → Nat → Nat → UInt32 → Words
  | 0, index, _, final => chunkValue octets index final
  | depth + 1, index, count, final =>
      if count ≤ 1 then chunkValue octets index final
      else
        let left := leftChunks count
        let joined := treeValue octets depth index left 0
          ++ treeValue octets depth (index + left) (count - left) 0
        compress initial joined 0 64 (parentNode ||| final)

def hash (octets : Array UInt8) : Words :=
  let count := max 1 ((octets.size + 1023) / 1024)
  treeValue octets (count.log2 + 1) 0 count rootNode

def wordText (w : UInt32) : String :=
  String.join <| ([0, 8, 16, 24] : List UInt32).map fun n => Text.Utf8.hexOctet (w >>> n).toUInt8

/-- The first sixteen digits of the hash of a text. -/
def fingerprint (text : String) : String :=
  String.join (((hash (Text.Utf8.encode text).toArray).toList.take 2).map wordText)

end Dissect.Digest
