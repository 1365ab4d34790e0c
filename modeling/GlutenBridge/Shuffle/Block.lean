import Mathlib.Data.List.Basic
import Mathlib.Algebra.Order.BigOperators.Group.List
import Mathlib.Algebra.Order.Ring.Nat

/-!
# Shuffle row blocks and the block decoder

A shuffle block is a batch of rows together with the two identity tags of
`DB::BlockInfo`: the overflow flag and the bucket (partition) number. The reader
of `ShuffleReader.cpp` never looks inside a row, so a block is a list of rows of
an arbitrary type `R`, its byte size as `Block::bytes()` reports it, and its tags.

The decoder (`NativeReader::read`) delivers one block per call and, once the byte
stream is exhausted, the empty block on every later call. It is modelled by the
list of blocks it has still to deliver.
-/

set_option autoImplicit false

namespace GlutenBridge.Shuffle

/-- `DB::BlockInfo`: the overflow flag and the bucket number of a block. -/
structure BlockInfo where
  is_overflows : Bool := false
  bucket_num : Int := -1
deriving DecidableEq, Repr

/-- A row block: its rows, the byte size `Block::bytes()` reports, and its tags. -/
structure Block (R : Type) where
  data : List R
  bytes : Nat
  info : BlockInfo := {}
deriving DecidableEq, Repr

variable {R : Type}

namespace Block

/-- `Block::rows()`. -/
def rows (b : Block R) : Nat := b.data.length

/-- The default-constructed `DB::Block {}`: no rows and default tags. -/
def empty : Block R := ⟨[], 0, {}⟩

@[simp] theorem rows_empty : (empty : Block R).rows = 0 := rfl

/-- The row count of a list of blocks, as the reader's `buffer_rows` sums it. -/
def totalRows (blocks : List (Block R)) : Nat := (blocks.map rows).sum

/-- The byte count of a list of blocks, as the reader's `buffer_bytes` sums it. -/
def totalBytes (blocks : List (Block R)) : Nat := (blocks.map bytes).sum

@[simp] theorem totalRows_nil : totalRows ([] : List (Block R)) = 0 := rfl
@[simp] theorem totalBytes_nil : totalBytes ([] : List (Block R)) = 0 := rfl

@[simp] theorem totalRows_append (xs ys : List (Block R)) :
    totalRows (xs ++ ys) = totalRows xs + totalRows ys := by
  simp [totalRows]

@[simp] theorem totalBytes_append (xs ys : List (Block R)) :
    totalBytes (xs ++ ys) = totalBytes xs + totalBytes ys := by
  simp [totalBytes]

@[simp] theorem totalRows_cons (b : Block R) (xs : List (Block R)) :
    totalRows (b :: xs) = b.rows + totalRows xs := by
  simp [totalRows]

@[simp] theorem totalBytes_cons (b : Block R) (xs : List (Block R)) :
    totalBytes (b :: xs) = b.bytes + totalBytes xs := by
  simp [totalBytes]

end Block

/-- `DB::concatenateBlocks`: the rows of all blocks, in order. The reader overwrites
the tags of the result, so they are left at their defaults here. -/
def concatenateBlocks (blocks : List (Block R)) : Block R :=
  ⟨(blocks.map Block.data).flatten, Block.totalBytes blocks, {}⟩

@[simp] theorem rows_concatenateBlocks (blocks : List (Block R)) :
    (concatenateBlocks blocks).rows = Block.totalRows blocks := by
  induction blocks with
  | nil => rfl
  | cons b bs ih =>
    simp only [Block.rows, concatenateBlocks, List.map_cons, List.flatten_cons,
      List.length_append] at ih ⊢
    simp [ih, Block.rows]

/-- `NativeReader::read` over the blocks still to come: the next block, or the empty
block once the stream is exhausted. -/
def NativeReader.read : List (Block R) → Block R × List (Block R)
  | [] => (Block.empty, [])
  | b :: rest => (b, rest)

end GlutenBridge.Shuffle
