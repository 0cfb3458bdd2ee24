/-!
# BLAKE3

The hash of a byte string by BLAKE3, without a key.  The bytes are cut into chunks, each chunk is
compressed block by block, and the chunks are the leaves of a binary tree whose left parts are complete.
-/

namespace CatalogImport.Digest

/-- Words of 32 bits: a chaining value has eight, a block sixteen. -/
abbrev Words := List UInt32

/-- The initial chaining value. -/
def initial : Words :=
  [0x6A09E667, 0xBB67AE85, 0x3C6EF372, 0xA54FF53A, 0x510E527F, 0x9B05688C, 0x1F83D9AB, 0x5BE0CD19]

/-- The order in which the words of a block enter the next round. -/
def permutation : List Nat := [2, 6, 3, 10, 7, 0, 4, 13, 1, 11, 12, 5, 9, 14, 15, 8]

/-- The first block of a chunk. -/
def chunkStart : UInt32 := 1
/-- The last block of a chunk. -/
def chunkEnd : UInt32 := 2
/-- A node with two parts. -/
def parent : UInt32 := 4
/-- The node at the root. -/
def root : UInt32 := 8

/-- A word with its bits moved to the right, those that fall off coming in at the left. -/
def rotateRight (x : UInt32) (n : UInt32) : UInt32 := (x >>> n) ||| (x <<< (32 - n))

/-- The mixing of four words of the state with two words of the block. -/
def mix (state : Array UInt32) (a b c d : Nat) (x y : UInt32) : Array UInt32 :=
  let va := state.getD a 0 + state.getD b 0 + x
  let vd := rotateRight (state.getD d 0 ^^^ va) 16
  let vc := state.getD c 0 + vd
  let vb := rotateRight (state.getD b 0 ^^^ vc) 12
  let va := va + vb + y
  let vd := rotateRight (vd ^^^ va) 8
  let vc := vc + vd
  let vb := rotateRight (vb ^^^ vc) 7
  (((state.setIfInBounds a va).setIfInBounds b vb).setIfInBounds c vc).setIfInBounds d vd

/-- One round: the columns of the state, then its diagonals. -/
def round (state block : Array UInt32) : Array UInt32 :=
  let m (i : Nat) : UInt32 := block.getD i 0
  let state := mix state 0 4 8 12 (m 0) (m 1)
  let state := mix state 1 5 9 13 (m 2) (m 3)
  let state := mix state 2 6 10 14 (m 4) (m 5)
  let state := mix state 3 7 11 15 (m 6) (m 7)
  let state := mix state 0 5 10 15 (m 8) (m 9)
  let state := mix state 1 6 11 12 (m 10) (m 11)
  let state := mix state 2 7 8 13 (m 12) (m 13)
  mix state 3 4 9 14 (m 14) (m 15)

/-- Some rounds, with the words of the block in a new order after each. -/
def rounds : Nat → Array UInt32 → Array UInt32 → Array UInt32
  | 0, state, _ => state
  | n + 1, state, block =>
    rounds n (round state block) (permutation.map fun i => block.getD i 0).toArray

/-- Compresses a block of so many bytes into a chaining value. -/
def compress (chaining block : Words) (counter : Nat) (size flags : UInt32) : Words :=
  let low := UInt32.ofNat (counter % Nat.pow 2 32)
  let high := UInt32.ofNat (counter / Nat.pow 2 32)
  let start := (chaining ++ initial.take 4 ++ [low, high, size, flags]).toArray
  let state := (rounds 7 start block.toArray).toList
  List.zipWith (· ^^^ ·) (state.take 8) (state.drop 8)

/-- The words of a block, four bytes each with the lowest first; missing bytes are zero. -/
def wordsOf (bytes : List UInt8) : Words :=
  (List.range 16).map fun i =>
    ((bytes.drop (4 * i)).take 4).foldr (fun b w => w * 256 + b.toUInt32) 0

/-- Cuts bytes into pieces of a size, of which the last may be shorter; there is at least one. -/
def pieces (size : Nat) (bytes : List UInt8) : List (List UInt8) :=
  (List.range (max 1 ((bytes.length + size - 1) / size))).map fun i =>
    (bytes.drop (size * i)).take size

/-- Compresses the blocks of a chunk one after the other. -/
def chunkFrom (counter : Nat) (last : UInt32) (chaining : Words) (first : UInt32) :
    List (List UInt8) → Words
  | [] => chaining
  | block :: rest =>
    let flags := first ||| if rest = [] then chunkEnd ||| last else 0
    let next := compress chaining (wordsOf block) counter (UInt32.ofNat block.length) flags
    chunkFrom counter last next 0 rest

/-- The chaining value of a chunk with a number; `last` marks the root. -/
def chunkValue (counter : Nat) (last : UInt32) (chunk : List UInt8) : Words :=
  chunkFrom counter last initial chunkStart (pieces 64 chunk)

/-- The greatest power of two below a number. -/
def leftSize (n : Nat) : Nat := Nat.pow 2 (n - 1).log2

/-- The chaining value of chunks numbered from `counter` on. -/
def treeValue : (fuel counter : Nat) → (last : UInt32) → List (List UInt8) → Words
  | 0, _, _, _ => initial
  | fuel + 1, counter, last, chunks =>
    match chunks with
    | [] => initial
    | [chunk] => chunkValue counter last chunk
    | chunks =>
      let left := leftSize chunks.length
      let below := treeValue fuel counter 0 (chunks.take left)
      let above := treeValue fuel (counter + left) 0 (chunks.drop left)
      compress initial (below ++ above) 0 64 (parent ||| last)

/-- A word as eight hexadecimal digits, its lowest byte first. -/
def hexOfWord (w : UInt32) : List Char :=
  (List.range 4).flatMap fun i =>
    let b := w.toNat / Nat.pow 256 i % 256
    [Nat.digitChar (b / 16), Nat.digitChar (b % 16)]

/-- The hash of bytes as 64 hexadecimal digits. -/
def blake3 (bytes : List UInt8) : String :=
  let chunks := pieces 1024 bytes
  String.ofList ((treeValue chunks.length 0 root chunks).flatMap hexOfWord)

end CatalogImport.Digest
