-- SUMMARY: The BLAKE3 hash function of byte strings.

/-!
# BLAKE3

The input is cut into chunks of 1024 bytes and these into blocks of 64. Blocks are compressed one
after the other within a chunk, and chunks are joined by a binary tree whose left branches are full.
Whatever is compressed last is marked as the root, and the hash is taken from it.
-/

namespace AgentGovernance.Blake3

/-- Eight or sixteen words. -/
abbrev Words := Array UInt32

/-- The initial chaining value. -/
def initial : Words :=
  #[0x6A09E667, 0xBB67AE85, 0x3C6EF372, 0xA54FF53A, 0x510E527F, 0x9B05688C, 0x1F83D9AB, 0x5BE0CD19]

/-- Marks of the first block of a chunk, of its last block, of a parent and of the root. -/
def chunkStart : UInt32 := 1
def chunkEnd : UInt32 := 2
def parentMark : UInt32 := 4
def rootMark : UInt32 := 8

/-- The order in which a round takes the words of the round before. -/
def permutation : List Nat := [2, 6, 3, 10, 7, 0, 4, 13, 1, 11, 12, 5, 9, 14, 15, 8]

/-! ## Compression -/

/-- Rotation to the right. -/
def rotate (x : UInt32) (n : UInt32) : UInt32 := (x >>> n) ||| (x <<< (32 - n))

/-- Mixes two message words into four words of the state. -/
def mix (s : Words) (a b c d : Nat) (x y : UInt32) : Words :=
  let sa := s.getD a 0 + s.getD b 0 + x
  let sd := rotate (s.getD d 0 ^^^ sa) 16
  let sc := s.getD c 0 + sd
  let sb := rotate (s.getD b 0 ^^^ sc) 12
  let sa := sa + sb + y
  let sd := rotate (sd ^^^ sa) 8
  let sc := sc + sd
  let sb := rotate (sb ^^^ sc) 7
  (((s.setIfInBounds a sa).setIfInBounds b sb).setIfInBounds c sc).setIfInBounds d sd

/-- The words that each of the eight mixes of a round works on. -/
def lanes : List (Nat × Nat × Nat × Nat) :=
  [(0, 4, 8, 12), (1, 5, 9, 13), (2, 6, 10, 14), (3, 7, 11, 15),
   (0, 5, 10, 15), (1, 6, 11, 12), (2, 7, 8, 13), (3, 4, 9, 14)]

/-- One round. -/
def round (s m : Words) : Words :=
  (lanes.zip (List.range 8)).foldl
    (fun s ((a, b, c, d), i) => mix s a b c d (m.getD (2 * i) 0) (m.getD (2 * i + 1) 0)) s

/-- Rounds, each on the permuted message of the one before. -/
def rounds : Nat → Words → Words → Words
  | 0, s, _ => s
  | n + 1, s, m => rounds n (round s m) (permutation.map fun i => m.getD i 0).toArray

/-- What is compressed: a chaining value and a block with its position, length and marks. -/
structure Input where
  chaining : Words
  block : Words
  counter : Nat
  length : Nat
  marks : UInt32

/-- The sixteen words that compression yields. -/
def compress (i : Input) : Words :=
  let start := i.chaining ++ initial.extract 0 4 ++
    #[i.counter.toUInt32, (i.counter / 4294967296).toUInt32, i.length.toUInt32, i.marks]
  let s := rounds 7 start i.block
  ((List.range 8).map fun k => s.getD k 0 ^^^ s.getD (k + 8) 0).toArray ++
    ((List.range 8).map fun k => s.getD (k + 8) 0 ^^^ i.chaining.getD k 0).toArray

/-- The chaining value that compression yields. -/
def chain (i : Input) : Words := (compress i).extract 0 8

/-! ## Chunks and tree -/

/-- Cuts a list into pieces of `n` elements; an empty list is one empty piece. -/
def pieces {α : Type} (n : Nat) : Nat → List α → List (List α)
  | 0, xs => [xs]
  | fuel + 1, xs => if xs.length ≤ n then [xs] else xs.take n :: pieces n fuel (xs.drop n)

/-- A word from four bytes, lowest first. -/
def wordAt (bytes : Array UInt8) (i : Nat) : UInt32 :=
  (bytes.getD i 0).toUInt32 ||| ((bytes.getD (i + 1) 0).toUInt32 <<< 8) |||
    ((bytes.getD (i + 2) 0).toUInt32 <<< 16) ||| ((bytes.getD (i + 3) 0).toUInt32 <<< 24)

/-- The sixteen words of a block, filled up with zeros. -/
def blockWords (bytes : List UInt8) : Words :=
  let a := bytes.toArray
  ((List.range 16).map fun i => wordAt a (4 * i)).toArray

/-- Compresses the blocks of a chunk but the last, which is left to be compressed. -/
def chunkFrom (counter : Nat) (chaining : Words) (marks : UInt32) : List (List UInt8) → Input
  | [] => { chaining, block := blockWords [], counter, length := 0, marks := marks ||| chunkEnd }
  | [b] =>
    { chaining, block := blockWords b, counter, length := b.length, marks := marks ||| chunkEnd }
  | b :: bs =>
    chunkFrom counter (chain { chaining, block := blockWords b, counter, length := 64, marks }) 0 bs

/-- What is left of the chunk with the given number. -/
def chunk (counter : Nat) (bytes : List UInt8) : Input :=
  chunkFrom counter initial chunkStart (pieces 64 16 bytes)

/-- The largest power of two below a number that is at least two. -/
def leftSize (n : Nat) : Nat := Nat.pow 2 (n - 1).log2

/-- What is left of a tree over chunks of which the first has the given number. -/
def tree : Nat → (counter : Nat) → List (List UInt8) → Input
  | fuel + 1, counter, c :: d :: cs =>
    let chunks := c :: d :: cs
    let size := leftSize chunks.length
    let left := tree fuel counter (chunks.take size)
    let right := tree fuel (counter + size) (chunks.drop size)
    { chaining := initial, block := chain left ++ chain right, counter := 0, length := 64
      marks := parentMark }
  | _, counter, chunks => chunk counter (chunks.headD [])

/-- The bytes of a word, lowest first. -/
def wordBytes (w : UInt32) : List UInt8 :=
  [w.toUInt8, (w >>> 8).toUInt8, (w >>> 16).toUInt8, (w >>> 24).toUInt8]

/-- The 32 bytes of the hash. -/
def hash (bytes : List UInt8) : List UInt8 :=
  let chunks := pieces 1024 (bytes.length / 1024 + 1) bytes
  let root := tree chunks.length 0 chunks
  (compress { root with counter := 0, marks := root.marks ||| rootMark }).toList.take 8
    |>.flatMap wordBytes

/-- Bytes as hexadecimal digits. -/
def hexDigits (bytes : List UInt8) : String :=
  String.ofList (bytes.flatMap fun b =>
    [Nat.digitChar (b.toNat / 16), Nat.digitChar (b.toNat % 16)])

/-- A number in four bytes, lowest first. -/
def bytes32 (n : Nat) : List UInt8 := wordBytes n.toUInt32

/-- A number in eight bytes, lowest first. -/
def bytes64 (n : Nat) : List UInt8 := bytes32 n ++ bytes32 (n / 4294967296)

end AgentGovernance.Blake3
