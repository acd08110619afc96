/-!
# The hash function BLAKE3

A text is cut into chunks of 1024 bytes and these into blocks of 64. The blocks of a chunk are
compressed one after another, each starting from the chaining value of the one before; the chunks
are the leaves of a binary tree whose left branches hold a power of two of them. `Blake3.digest` is
the 32-byte hash in hexadecimal.

Every number here is a 32-bit word and wraps.
-/

namespace Rewinding.Blake3

/-- The state of a compression, and also a block of the text. -/
abbrev Words := Vector UInt32 16

/-- What one compression hands to the next. -/
abbrev Chaining := Vector UInt32 8

/-- The chaining value at the start of every chunk. -/
def start : Chaining :=
  #v[0x6A09E667, 0xBB67AE85, 0x3C6EF372, 0xA54FF53A, 0x510E527F, 0x9B05688C, 0x1F83D9AB, 0x5BE0CD19]

/-! ### Flags of a compression -/

def chunkStart : UInt32 := 1
def chunkEnd : UInt32 := 2
def parent : UInt32 := 4
def root : UInt32 := 8

/-! ### The compression -/

def turn (x n : UInt32) : UInt32 := (x >>> n) ||| (x <<< (32 - n))

/-- Mix two words of the block into the four words of the state at `a`, `b`, `c` and `d`. -/
def mix (v : Words) (a b c d : Fin 16) (x y : UInt32) : Words :=
  let a₁ := v[a] + v[b] + x
  let d₁ := turn (v[d] ^^^ a₁) 16
  let c₁ := v[c] + d₁
  let b₁ := turn (v[b] ^^^ c₁) 12
  let a₂ := a₁ + b₁ + y
  let d₂ := turn (d₁ ^^^ a₂) 8
  let c₂ := c₁ + d₂
  let b₂ := turn (b₁ ^^^ c₂) 7
  (((v.set a a₂).set b b₂).set c c₂).set d d₂

/-- Mix the whole block into the columns and then the diagonals of the state. -/
def round (v m : Words) : Words :=
  let v := mix v 0 4 8 12 m[0] m[1]
  let v := mix v 1 5 9 13 m[2] m[3]
  let v := mix v 2 6 10 14 m[4] m[5]
  let v := mix v 3 7 11 15 m[6] m[7]
  let v := mix v 0 5 10 15 m[8] m[9]
  let v := mix v 1 6 11 12 m[10] m[11]
  let v := mix v 2 7 8 13 m[12] m[13]
  mix v 3 4 9 14 m[14] m[15]

/-- The order in which the next round takes the words of the block. -/
def shuffle : Vector (Fin 16) 16 := #v[2, 6, 3, 10, 7, 0, 4, 13, 1, 11, 12, 5, 9, 14, 15, 8]

/-- Run `n` rounds, with the block reordered after each. -/
def rounds : Nat → Words → Words → Words
  | 0, v, _ => v
  | n + 1, v, m => rounds n (round v m) (shuffle.map fun i => m[i])

structure Pending where
  chaining : Chaining
  block : Words
  counter : UInt64
  length : UInt32
  flags : UInt32

/-- Run a compression and keep the half that is handed on. -/
def Pending.run (p : Pending) : Chaining :=
  let h := p.chaining
  let v := rounds 7
    #v[h[0], h[1], h[2], h[3], h[4], h[5], h[6], h[7], start[0], start[1], start[2], start[3],
      p.counter.toUInt32, (p.counter >>> 32).toUInt32, p.length, p.flags]
    p.block
  #v[v[0] ^^^ v[8], v[1] ^^^ v[9], v[2] ^^^ v[10], v[3] ^^^ v[11],
    v[4] ^^^ v[12], v[5] ^^^ v[13], v[6] ^^^ v[14], v[7] ^^^ v[15]]

/-! ### Chunks -/

/-- Cut a list into pieces of `n + 1`; the last may be shorter. -/
def pieces (n : Nat) (xs : List α) : List (List α) :=
  match xs with
  | [] => []
  | x :: rest => (x :: rest.take n) :: pieces n (rest.drop n)
termination_by xs.length
decreasing_by
  simp only [List.length_drop, List.length_cons]
  omega

/-- The word whose bytes are `bytes`, the lowest first. -/
def littleEndian (bytes : List UInt8) : UInt32 :=
  bytes.foldr (fun byte word => (word <<< 8) ||| byte.toUInt32) 0

/-- The words of a block, filled up with zeros. -/
def blockOf (bytes : List UInt8) : Words :=
  let words := (pieces 3 bytes).map littleEndian
  Vector.ofFn fun i => words.getD i 0

/-- The compressions of a chunk from `chaining` on, all but the last of which are run. -/
def compressBlocks (counter : UInt64) (flags : UInt32) (chaining : Chaining) :
    List (List UInt8) → Pending
  | [] => ⟨chaining, blockOf [], counter, 0, flags ||| chunkEnd⟩
  | [block] => ⟨chaining, blockOf block, counter, block.length.toUInt32, flags ||| chunkEnd⟩
  | block :: blocks =>
    compressBlocks counter 0
      (Pending.run ⟨chaining, blockOf block, counter, block.length.toUInt32, flags⟩) blocks

/-- The last compression of a chunk. -/
def leaf (counter : Nat) (chunk : List UInt8) : Pending :=
  compressBlocks counter.toUInt64 chunkStart start (pieces 63 chunk)

/-! ### The tree -/

/-- The compression that joins two subtrees. -/
def join (left right : Pending) : Pending :=
  ⟨start, left.run ++ right.run, 0, 64, parent⟩

/-- The last compression of the tree over `chunks`, of which the first has the number `counter`. -/
def tree (counter : Nat) (chunks : List (List UInt8)) : Pending :=
  match chunks with
  | [] => leaf counter []
  | [chunk] => leaf counter chunk
  | a :: b :: rest =>
    let size := Nat.pow 2 (Nat.log2 (rest.length + 1))
    join (tree counter ((a :: b :: rest).take size))
      (tree (counter + size) ((a :: b :: rest).drop size))
termination_by chunks.length
decreasing_by
  · have hs : size ≤ rest.length + 1 := Nat.log2_self_le (Nat.succ_ne_zero _)
    simp only [List.length_take, List.length_cons]
    omega
  · have hs : 0 < size := Nat.two_pow_pos _
    simp only [List.length_drop, List.length_cons]
    omega

/-- The bytes of a word, the lowest first. -/
def wordBytes (w : UInt32) : List UInt8 :=
  [w.toUInt8, (w >>> 8).toUInt8, (w >>> 16).toUInt8, (w >>> 24).toUInt8]

/-- The hash of `bytes`: the root of the tree, marked as such. -/
def hash (bytes : List UInt8) : List UInt8 :=
  let top := tree 0 (pieces 1023 bytes)
  (Pending.run { top with counter := 0, flags := top.flags ||| root }).toList.flatMap wordBytes

def hexByte (b : UInt8) : List Char :=
  [Nat.digitChar (b.toNat / 16), Nat.digitChar (b.toNat % 16)]

/-- The hash of `bytes` in hexadecimal. -/
def digest (bytes : List UInt8) : String := String.ofList ((hash bytes).flatMap hexByte)

end Rewinding.Blake3
