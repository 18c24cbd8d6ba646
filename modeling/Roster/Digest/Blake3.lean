/-!
# The BLAKE3 hash

The input is cut into chunks of 1024 bytes and each chunk into blocks of 64. The blocks of a chunk
are compressed one after the other into the chaining value of the chunk. The chunks are the leaves
of a binary tree whose left subtrees are full: a parent compresses the chaining values of its two
children. Each compression that is still to be made is kept as a node, since the last one of all, at
the root, is made with a flag of its own.
-/

namespace Roster.Digest.Blake3

/-- A chaining value. -/
abbrev Chain := Vector UInt32 8

/-- A block as words. -/
abbrev Block := Vector UInt32 16

/-- The chaining value that chunks and parents start from. -/
def initial : Chain :=
  #v[0x6A09E667, 0xBB67AE85, 0x3C6EF372, 0xA54FF53A, 0x510E527F, 0x9B05688C, 0x1F83D9AB, 0x5BE0CD19]

def chunkStart : UInt32 := 1

def chunkEnd : UInt32 := 2

def parent : UInt32 := 4

def root : UInt32 := 8

def rotateRight (x n : UInt32) : UInt32 := (x >>> n) ||| (x <<< (32 - n))

/-- Mixes two words of a block into four words of the state. -/
def mix (state : Block) (a b c d : Fin 16) (x y : UInt32) : Block :=
  let va := state[a] + state[b] + x
  let vd := rotateRight (state[d] ^^^ va) 16
  let vc := state[c] + vd
  let vb := rotateRight (state[b] ^^^ vc) 12
  let va := va + vb + y
  let vd := rotateRight (vd ^^^ va) 8
  let vc := vc + vd
  let vb := rotateRight (vb ^^^ vc) 7
  (((state.set a va).set b vb).set c vc).set d vd

/-- Mixes a block into the columns of the state and then into its diagonals. -/
def round (state block : Block) : Block :=
  let state := mix state 0 4 8 12 block[0] block[1]
  let state := mix state 1 5 9 13 block[2] block[3]
  let state := mix state 2 6 10 14 block[4] block[5]
  let state := mix state 3 7 11 15 block[6] block[7]
  let state := mix state 0 5 10 15 block[8] block[9]
  let state := mix state 1 6 11 12 block[10] block[11]
  let state := mix state 2 7 8 13 block[12] block[13]
  mix state 3 4 9 14 block[14] block[15]

/-- The order in which the next round takes the words of a block. -/
def permute (block : Block) : Block :=
  #v[block[2], block[6], block[3], block[10], block[7], block[0], block[4], block[13],
    block[1], block[11], block[12], block[5], block[9], block[14], block[15], block[8]]

/-- So many rounds, with the block permuted between two. -/
def rounds : Nat → Block → Block → Block
  | 0, state, _ => state
  | count + 1, state, block => rounds count (round state block) (permute block)

/-- A compression that is still to be made. -/
structure Node where
  chain : Chain
  block : Block
  counter : Nat
  length : Nat
  flags : UInt32

namespace Node

/-- The sixteen words after the last round. -/
def compress (node : Node) : Block :=
  let chain := node.chain
  let state := #v[chain[0], chain[1], chain[2], chain[3], chain[4], chain[5], chain[6], chain[7],
    initial[0], initial[1], initial[2], initial[3],
    UInt32.ofNat node.counter, UInt32.ofNat (node.counter >>> 32), UInt32.ofNat node.length,
    node.flags]
  rounds 7 state node.block

/-- The chaining value of the node. -/
def value (node : Node) : Chain :=
  let state := node.compress
  Vector.ofFn fun i : Fin 8 => state[i.val] ^^^ state[i.val + 8]

end Node

/-- The number that up to four bytes spell, the lowest first. -/
def word (bytes : List UInt8) : UInt32 :=
  UInt32.ofNat (bytes.foldr (fun byte high => byte.toNat + 256 * high) 0)

/-- A block from up to 64 bytes, filled up with zeros. -/
def blockOf (bytes : List UInt8) : Block :=
  Vector.ofFn fun i : Fin 16 => word ((bytes.drop (4 * i.val)).take 4)

/-- The last compression of a chunk, after the blocks before it have been compressed. -/
def chunkNode (counter : Nat) (chain : Chain) (flags : UInt32) (bytes : List UInt8) : Node :=
  if 64 < bytes.length then
    let node : Node := ⟨chain, blockOf (bytes.take 64), counter, 64, flags⟩
    chunkNode counter node.value 0 (bytes.drop 64)
  else
    ⟨chain, blockOf bytes, counter, bytes.length, flags ||| chunkEnd⟩
termination_by bytes.length
decreasing_by
  rw [List.length_drop]
  omega

/-- The number of chunks in the left subtree above `chunks` chunks: the largest power of two that
leaves at least one for the right. -/
def leftChunks (chunks : Nat) : Nat := 1 <<< Nat.log2 (chunks - 1)

theorem leftChunks_pos (chunks : Nat) : 0 < leftChunks chunks := by
  rw [leftChunks, Nat.one_shiftLeft]
  exact Nat.two_pow_pos _

theorem leftChunks_lt {chunks : Nat} (h : 2 ≤ chunks) : leftChunks chunks < chunks := by
  have := Nat.log2_self_le (n := chunks - 1) (by omega)
  rw [leftChunks, Nat.one_shiftLeft]
  omega

/-- The compression that joins two subtrees. -/
def parentNode (left right : Node) : Node :=
  ⟨initial, left.value ++ right.value, 0, 64, parent⟩

/-- The last compression of the subtree above the given bytes, whose first chunk has the given
number. -/
def tree (counter : Nat) (bytes : List UInt8) : Node :=
  if bytes.length ≤ 1024 then chunkNode counter initial chunkStart bytes
  else
    let left := leftChunks ((bytes.length + 1023) / 1024)
    parentNode (tree counter (bytes.take (left * 1024)))
      (tree (counter + left) (bytes.drop (left * 1024)))
termination_by bytes.length
decreasing_by
  · have := @leftChunks_lt ((bytes.length + 1023) / 1024) (by omega)
    rw [List.length_take]
    omega
  · have := leftChunks_pos ((bytes.length + 1023) / 1024)
    rw [List.length_drop]
    omega

/-- The four bytes of a word, the lowest first. -/
def wordBytes (x : UInt32) : List UInt8 :=
  [x.toUInt8, (x >>> 8).toUInt8, (x >>> 16).toUInt8, (x >>> 24).toUInt8]

/-- The 32 bytes of the hash. -/
def hash (bytes : List UInt8) : List UInt8 :=
  let node := tree 0 bytes
  ({ node with flags := node.flags ||| root } : Node).value.toList.flatMap wordBytes

end Roster.Digest.Blake3
