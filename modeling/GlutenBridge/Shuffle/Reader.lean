import GlutenBridge.Shuffle.Block

/-!
# `ShuffleReader::read`

The reader of `ShuffleReader.cpp`, one call at a time. Its state is what survives
between calls: the decoder's remaining blocks, the two thresholds (`Int64`, a
negative value disabling the threshold) and the look-ahead `pending_block`.

The `while` loop of `read` is `readLoop`, structurally recursive on the blocks the
decoder has still to deliver: every iteration reads one block, and a read past the
end yields the empty block, on which the loop breaks. `buffer_rows` and
`buffer_bytes` are `size_t` sums of row and byte counts of blocks held in memory at
once, so they are natural numbers here. The comparison of a `size_t` total with an
`Int64` threshold happens only when the threshold is not negative, where the
conversion keeps its value.

The reader's `header` field, set from the first result and read by nothing in this
file, is not modelled.
-/

set_option autoImplicit false

namespace GlutenBridge.Shuffle

variable {R : Type}

/-- The state a `ShuffleReader` keeps between calls of `read`. -/
structure ShuffleReader (R : Type) where
  /-- The blocks `input_stream->read()` has still to deliver. -/
  input_stream : List (Block R)
  max_shuffle_read_rows : Int
  max_shuffle_read_bytes : Int
  pending_block : Option (Block R) := none

/-- The loop guard of `read`:
`!buffer_rows || ((max_rows < 0 || buffer_rows < max_rows) && (max_bytes < 0 || ...))`. -/
def keepReading (maxRows maxBytes : Int) (bufferRows bufferBytes : Nat) : Bool :=
  bufferRows == 0 ||
    ((decide (maxRows < 0) || decide ((bufferRows : Int) < maxRows)) &&
      (decide (maxBytes < 0) || decide ((bufferBytes : Int) < maxBytes)))

/-- The test that stashes a block as pending: its tags differ from those of the
first block already gathered. -/
def identityDiffers (first block : Block R) : Bool :=
  first.info.is_overflows != block.info.is_overflows ||
    first.info.bucket_num != block.info.bucket_num

/-- The `while` loop of `read`. It returns the blocks gathered, the block stashed as
pending (if any) and the blocks the decoder has still to deliver. -/
def readLoop (maxRows maxBytes : Int) :
    List (Block R) → Nat → Nat → List (Block R) →
      List (Block R) × Option (Block R) × List (Block R)
  | blocks, bufferRows, bufferBytes, input =>
    if keepReading maxRows maxBytes bufferRows bufferBytes then
      match input with
      | [] => (blocks, none, [])
      | block :: rest =>
        if block.rows = 0 then (blocks, none, rest)
        else match blocks with
          | first :: _ =>
            if identityDiffers first block then (blocks, some block, rest)
            else readLoop maxRows maxBytes (blocks ++ [block])
              (bufferRows + block.rows) (bufferBytes + block.bytes) rest
          | [] => readLoop maxRows maxBytes [block] (bufferRows + block.rows)
              (bufferBytes + block.bytes) rest
    else (blocks, none, input)

/-- The chunk `read` returns for the blocks it gathered: their concatenation with
the tags of the first one, or the empty block when nothing was gathered. -/
def finalBlock : List (Block R) → Block R
  | [] => Block.empty
  | first :: rest => { concatenateBlocks (first :: rest) with info := first.info }

namespace ShuffleReader

/-- A reader freshly constructed over a decoder. -/
def create (input : List (Block R)) (maxRows maxBytes : Int) : ShuffleReader R :=
  ⟨input, maxRows, maxBytes, none⟩

/-- The blocks one call of `read` gathers, and the state it leaves: the pending block
seeds the gathering, and the loop runs from its row and byte counts. -/
def gather (r : ShuffleReader R) : List (Block R) × ShuffleReader R :=
  let seed := r.pending_block.toList
  let (blocks, pending, rest) := readLoop r.max_shuffle_read_rows r.max_shuffle_read_bytes
    seed (Block.totalRows seed) (Block.totalBytes seed) r.input_stream
  (blocks, { r with input_stream := rest, pending_block := pending })

/-- `ShuffleReader::read`: the chunk of one call and the state after it. -/
def read (r : ShuffleReader R) : Block R × ShuffleReader R :=
  ((finalBlock r.gather.1), r.gather.2)

/-- The state after `n` calls of `read`. -/
def after : Nat → ShuffleReader R → ShuffleReader R
  | 0, r => r
  | n + 1, r => after n r.read.2

/-- The chunks returned by the first `n` calls of `read`, in call order. -/
def chunks : Nat → ShuffleReader R → List (Block R)
  | 0, _ => []
  | n + 1, r => r.read.1 :: chunks n r.read.2

/-- The blocks not yet returned: the pending block, then the decoder's blocks. -/
def remaining (r : ShuffleReader R) : List (Block R) :=
  r.pending_block.toList ++ r.input_stream

end ShuffleReader

end GlutenBridge.Shuffle
