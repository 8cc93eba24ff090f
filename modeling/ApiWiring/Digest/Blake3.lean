/-!
# The BLAKE3 digest

The digest of a text: a tree hash over chunks of 1024 bytes. A chunk is compressed block by block,
each block of 64 bytes going into the chaining value of the next; the chaining values of chunks are
joined in pairs, the left subtree of each join being the largest complete one; the last compression
is marked as the root and gives the 32 bytes of the digest. All arithmetic is on 32-bit words.
-/
namespace ApiWiring.Blake3

/-- Eight words that one compression hands to the next. -/
abbrev Chain := Array UInt32

/-- The initial chaining value. -/
def initial : Chain := #[0x6A09E667, 0xBB67AE85, 0x3C6EF372, 0xA54FF53A, 0x510E527F, 0x9B05688C,
  0x1F83D9AB, 0x5BE0CD19]

/-- The order in which the next round takes the words of a block. -/
def permutation : List Nat := [2, 6, 3, 10, 7, 0, 4, 13, 1, 11, 12, 5, 9, 14, 15, 8]

/-- The number of bytes in a block. -/
def blockLength : Nat := 64

/-- The number of bytes in a chunk. -/
def chunkLength : Nat := 1024

/-- The mark of the first block of a chunk. -/
def chunkStart : UInt32 := 1

/-- The mark of the last block of a chunk. -/
def chunkEnd : UInt32 := 2

/-- The mark of a join. -/
def join : UInt32 := 4

/-- The mark of the last compression. -/
def root : UInt32 := 8

/-- A word turned to the right. -/
def turn (word : UInt32) (count : UInt32) : UInt32 :=
  (word >>> count) ||| (word <<< (32 - count))

/-- The word at a place of a state. -/
def at_ (state : Array UInt32) (place : Nat) : UInt32 := state.getD place 0

/-- Mixes two words into four places of a state. -/
def mix (state : Array UInt32) (a b c d : Nat) (x y : UInt32) : Array UInt32 :=
  let va := at_ state a + at_ state b + x
  let vd := turn (at_ state d ^^^ va) 16
  let vc := at_ state c + vd
  let vb := turn (at_ state b ^^^ vc) 12
  let va := va + vb + y
  let vd := turn (vd ^^^ va) 8
  let vc := vc + vd
  let vb := turn (vb ^^^ vc) 7
  (((state.setIfInBounds a va).setIfInBounds b vb).setIfInBounds c vc).setIfInBounds d vd

/-- The places that a round mixes, columns first, with the two words of the block for each. -/
def mixings : List (Nat × Nat × Nat × Nat × Nat) := [
  (0, 4, 8, 12, 0), (1, 5, 9, 13, 2), (2, 6, 10, 14, 4), (3, 7, 11, 15, 6),
  (0, 5, 10, 15, 8), (1, 6, 11, 12, 10), (2, 7, 8, 13, 12), (3, 4, 9, 14, 14)]

/-- One round over a block. -/
def roundOver (block : Array UInt32) (state : Array UInt32) : Array UInt32 :=
  mixings.foldl
    (fun state (a, b, c, d, word) => mix state a b c d (at_ block word) (at_ block (word + 1)))
    state

/-- The block in the order of the next round. -/
def permuted (block : Array UInt32) : Array UInt32 := (permutation.map (at_ block)).toArray

/-- Rounds over a block, each with the words in a new order. -/
def rounds : Nat → Array UInt32 → Array UInt32 → Array UInt32
  | 0, _, state => state
  | count + 1, block, state => rounds count (permuted block) (roundOver block state)

/-- The input of one compression. -/
structure Compression where
  /-- The chaining value. -/
  chain : Chain
  /-- The sixteen words of the block. -/
  block : Array UInt32
  /-- The number of the chunk. -/
  counter : UInt64
  /-- The number of bytes in the block. -/
  length : UInt32
  /-- What the compression is for. -/
  marks : UInt32

/-- The chaining value after a compression. -/
def Compression.output (c : Compression) : Chain :=
  let state := c.chain ++ initial.extract 0 4 ++
    #[c.counter.toUInt32, (c.counter >>> 32).toUInt32, c.length, c.marks]
  let state := rounds 7 c.block state
  ((List.range 8).map fun place => at_ state place ^^^ at_ state (place + 8)).toArray

/-- The word of the four bytes from an offset, the first byte lowest; bytes past the end count as
zero. -/
def wordAt (bytes : ByteArray) (stop offset : Nat) : UInt32 :=
  let byte (place : Nat) : UInt32 := if place < stop then (bytes.get! place).toUInt32 else 0
  byte offset ||| (byte (offset + 1) <<< 8) ||| (byte (offset + 2) <<< 16) |||
    (byte (offset + 3) <<< 24)

/-- The words of the block from an offset. -/
def blockAt (bytes : ByteArray) (stop offset : Nat) : Array UInt32 :=
  ((List.range 16).map fun place => wordAt bytes stop (offset + 4 * place)).toArray

/-- The last compression of the chunk from `start` to `stop`, with `blocks` blocks to go from
`offset` on. -/
def chunkFrom (bytes : ByteArray) (start stop : Nat) : Nat → Nat → Chain → Compression
  | 0, offset, chain => lastBlock offset chain
  | blocks + 1, offset, chain =>
    if stop ≤ offset + blockLength then lastBlock offset chain
    else
      let marks := if offset = start then chunkStart else 0
      let compression : Compression :=
        ⟨chain, blockAt bytes stop offset, number, blockLength.toUInt32, marks⟩
      chunkFrom bytes start stop blocks (offset + blockLength) compression.output
where
  /-- The number of the chunk. -/
  number : UInt64 := (start / chunkLength).toUInt64
  /-- The compression of the last block. -/
  lastBlock (offset : Nat) (chain : Chain) : Compression :=
    let marks := (if offset = start then chunkStart else 0) ||| chunkEnd
    ⟨chain, blockAt bytes stop offset, number, (stop - offset).toUInt32, marks⟩

/-- The last compression of the chunk from `start` to `stop`. -/
def chunk (bytes : ByteArray) (start stop : Nat) : Compression :=
  chunkFrom bytes start stop (chunkLength / blockLength) start initial

/-- The compression that joins two subtrees. -/
def joined (left right : Chain) : Compression :=
  ⟨initial, left ++ right, 0, blockLength.toUInt32, join⟩

/-- The number of bytes in the left subtree of a join over so many bytes: the largest power of two
of chunks that leaves something for the right. -/
def leftLength (length : Nat) : Nat := chunkLength * Nat.pow 2 ((length - 1) / chunkLength).log2

/-- The last compression of the tree over the bytes from `start` on, `length` of them; `depth`
bounds its height. -/
def tree (bytes : ByteArray) : Nat → Nat → Nat → Compression
  | 0, start, length => chunk bytes start (start + length)
  | depth + 1, start, length =>
    if length ≤ chunkLength then chunk bytes start (start + length)
    else
      let left := leftLength length
      joined (tree bytes depth start left).output
        (tree bytes depth (start + left) (length - left)).output

/-- The eight words of a digest. -/
def words (bytes : ByteArray) : Chain :=
  let last := tree bytes bytes.size 0 bytes.size
  { last with marks := last.marks ||| root }.output

/-- The hexadecimal digits of a word, its lowest byte first. -/
def wordText (word : UInt32) : List Char :=
  (List.range 4).flatMap fun place =>
    let byte := (word.toNat / Nat.pow 256 place) % 256
    [Nat.digitChar (byte / 16), Nat.digitChar (byte % 16)]

/-- The digest of a text in hexadecimal digits. -/
def digest (text : String) : String :=
  String.ofList ((words text.toUTF8).toList.flatMap wordText)

end ApiWiring.Blake3
