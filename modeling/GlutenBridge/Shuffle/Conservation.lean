import GlutenBridge.Shuffle.Batching

/-!
# Every row is delivered, whatever blocks the decoder yields

The run theorems of `Batching` take a decoder whose blocks all have rows. The decoder may
also yield a block without rows before its end. `read` breaks its loop on such a block
and drops it, so a call can return the empty chunk while rows are still to come.

No row is lost, duplicated or reordered for all that (`chunks_allRows`): from any state
of the reader, as many calls as there are blocks left return, together, the rows of those
blocks in order. Each call returns the rows it took and leaves the others
(`read_allRows`), and takes at least one block while any is left
(`length_remaining_read_lt`).

`read_rows_eq_zero_iff` says when a call returns an empty chunk, in every state reached
from a freshly created reader: exactly when no block is pending and the decoder's next
block has no rows, or there is none. A consumer that stops at the first empty chunk
therefore stops at the first block without rows.
-/

set_option autoImplicit false

namespace GlutenBridge.Shuffle

variable {R : Type}

open Block

/-- The rows of a list of blocks, block after block. -/
def allRows (blocks : List (Block R)) : List R := (blocks.map Block.data).flatten

@[simp] theorem allRows_nil : allRows ([] : List (Block R)) = [] := rfl

@[simp] theorem allRows_cons (b : Block R) (blocks : List (Block R)) :
    allRows (b :: blocks) = b.data ++ allRows blocks := rfl

@[simp] theorem allRows_append (xs ys : List (Block R)) :
    allRows (xs ++ ys) = allRows xs ++ allRows ys := by
  simp [allRows]

theorem data_eq_nil_of_rows {b : Block R} (h : b.rows = 0) : b.data = [] :=
  List.length_eq_zero.1 h

theorem data_finalBlock (blocks : List (Block R)) : (finalBlock blocks).data = allRows blocks := by
  cases blocks <;> rfl

/-! ## One call -/

section Loop

variable (maxRows maxBytes : Int)

/-- What the loop gathered, what it stashed and what it left hold the rows it started
from, and what it gathered begins with the blocks it started from. -/
theorem readLoop_allRows : ∀ (input blocks : List (Block R)) (rows bytes : Nat),
    let res := readLoop maxRows maxBytes blocks rows bytes input
    allRows res.1 ++ allRows res.2.1.toList ++ allRows res.2.2 =
        allRows blocks ++ allRows input ∧
      blocks <+: res.1 ∧ (∀ p ∈ res.2.1, 0 < p.rows) ∧
      res.1.length + res.2.1.toList.length + res.2.2.length ≤ blocks.length + input.length
  | input, blocks, rows, bytes => by
    unfold readLoop
    split
    · rename_i hkeep
      match input with
      | [] => simp
      | b :: rest =>
        dsimp only
        split
        · rename_i hb
          simp [data_eq_nil_of_rows hb]
        · rename_i hb
          split
          · rename_i first t
            split
            · simp
              omega
            · obtain ⟨hrows, hpre, hpend, hlen⟩ := readLoop_allRows rest ((first :: t) ++ [b])
                (rows + b.rows) (bytes + b.bytes)
              refine ⟨by simpa using hrows, (List.prefix_append _ _).trans hpre, hpend, ?_⟩
              simp only [List.length_append, List.length_cons, List.length_nil] at hlen ⊢
              omega
          · obtain ⟨hrows, hpre, hpend, hlen⟩ := readLoop_allRows rest [b] (rows + b.rows)
              (bytes + b.bytes)
            refine ⟨by simpa using hrows, List.nil_prefix, hpend, ?_⟩
            simp only [List.length_singleton, List.length_nil, List.length_cons] at hlen ⊢
            omega
    · simp

theorem readLoop_allRows_of_eq {input blocks out rest : List (Block R)} {rows bytes : Nat}
    {pend : Option (Block R)} (h : readLoop maxRows maxBytes blocks rows bytes input = (out, pend, rest)) :
    allRows out ++ allRows pend.toList ++ allRows rest = allRows blocks ++ allRows input ∧
      blocks <+: out ∧ (∀ p ∈ pend, 0 < p.rows) ∧
      out.length + pend.toList.length + rest.length ≤ blocks.length + input.length := by
  have := readLoop_allRows maxRows maxBytes input blocks rows bytes
  rw [h] at this
  exact this

/-- From nothing gathered, the loop takes the decoder's next block. -/
theorem readLoop_nil_cons (b : Block R) (rest : List (Block R)) :
    readLoop maxRows maxBytes [] 0 0 (b :: rest) =
      if b.rows = 0 then ([], none, rest) else readLoop maxRows maxBytes [b] b.rows b.bytes rest := by
  rw [readLoop, if_pos (keepReading_eq_true.2 (Or.inl rfl))]
  split_ifs <;> simp

end Loop

namespace ShuffleReader

/-- A call returns the rows of the blocks it took, and leaves the rows of the others. -/
theorem read_allRows (r : ShuffleReader R) :
    r.read.1.data ++ allRows r.read.2.remaining = allRows r.remaining := by
  obtain ⟨hrows, -⟩ := readLoop_allRows r.max_shuffle_read_rows r.max_shuffle_read_bytes
    r.input_stream r.pending_block.toList (totalRows r.pending_block.toList)
    (totalBytes r.pending_block.toList)
  simpa [read, gather, remaining, data_finalBlock] using hrows

theorem length_remaining_read_le (r : ShuffleReader R) :
    r.read.2.remaining.length ≤ r.remaining.length := by
  rcases hres : readLoop r.max_shuffle_read_rows r.max_shuffle_read_bytes r.pending_block.toList
    (totalRows r.pending_block.toList) (totalBytes r.pending_block.toList) r.input_stream with
    ⟨out, pend, rest⟩
  obtain ⟨-, hpre, -, hlen⟩ := readLoop_allRows_of_eq _ _ hres
  have := hpre.length_le
  simp only [read, gather, remaining, hres, List.length_append] at hlen this ⊢
  omega

/-- A call takes at least one block while any is left. -/
theorem length_remaining_read_lt (r : ShuffleReader R) (hne : r.remaining ≠ []) :
    r.read.2.remaining.length < r.remaining.length := by
  obtain ⟨input, maxRows, maxBytes, pending⟩ := r
  simp only [read, gather, remaining] at hne ⊢
  cases pending with
  | some p =>
    rcases hres : readLoop maxRows maxBytes [p] (totalRows [p]) (totalBytes [p]) input with
      ⟨out, pend, rest⟩
    obtain ⟨-, hpre, -, hlen⟩ := readLoop_allRows_of_eq maxRows maxBytes hres
    have := hpre.length_le
    simp only [Option.toList_some, hres, List.length_singleton, List.length_append] at hlen this ⊢
    omega
  | none =>
    obtain ⟨b, rest, rfl⟩ := List.exists_cons_of_ne_nil (by simpa using hne)
    simp only [Option.toList_none, totalRows_nil, totalBytes_nil, readLoop_nil_cons]
    split_ifs
    · simp
    · rcases hres : readLoop maxRows maxBytes [b] b.rows b.bytes rest with ⟨out, pend, rest'⟩
      obtain ⟨-, hpre, -, hlen⟩ := readLoop_allRows_of_eq maxRows maxBytes hres
      have := hpre.length_le
      simp only [hres, List.length_singleton, List.length_cons, List.nil_append,
        List.length_append] at hlen this ⊢
      omega

/-- No row is lost, duplicated or reordered, whatever rows the decoder's blocks have: from
any state, as many calls as there are blocks left return, together, the rows of those
blocks in order. -/
theorem chunks_allRows : ∀ (n : Nat) (r : ShuffleReader R), r.remaining.length ≤ n →
    allRows (r.chunks n) = allRows r.remaining
  | 0, r, h => by
    rw [List.length_eq_zero.1 (Nat.le_zero.1 h)]
    rfl
  | n + 1, r, h => by
    have hlen : r.read.2.remaining.length ≤ n := by
      by_cases hne : r.remaining = []
      · have := length_remaining_read_le r
        rw [hne, List.length_nil] at this
        omega
      · have := length_remaining_read_lt r hne
        omega
    rw [chunks, allRows_cons, chunks_allRows n r.read.2 hlen, read_allRows]

/-- A block of two rows, a block without rows, then a block of one row. -/
def stallingStream : List (Block Nat) := [⟨[1, 2], 8, {}⟩, ⟨[], 0, {}⟩, ⟨[3], 4, {}⟩]

theorem chunks_allRows_stallingStream :
    (create stallingStream 2 (-1)).remaining.length ≤ 3 ∧
      allRows ((create stallingStream 2 (-1)).chunks 3) =
        allRows (create stallingStream 2 (-1)).remaining :=
  ⟨by decide, chunks_allRows 3 _ (by decide)⟩

/-- The pending block, when there is one, has rows. -/
def PendingRows (r : ShuffleReader R) : Prop := ∀ p ∈ r.pending_block, 0 < p.rows

theorem pendingRows_read (r : ShuffleReader R) : PendingRows r.read.2 := by
  rcases hres : readLoop r.max_shuffle_read_rows r.max_shuffle_read_bytes r.pending_block.toList
    (totalRows r.pending_block.toList) (totalBytes r.pending_block.toList) r.input_stream with
    ⟨out, pend, rest⟩
  obtain ⟨-, -, hpend, -⟩ := readLoop_allRows_of_eq _ _ hres
  simpa [PendingRows, ShuffleReader.read, gather, hres] using hpend

theorem pendingRows_after : ∀ (n : Nat) {r : ShuffleReader R}, PendingRows r → PendingRows (r.after n)
  | 0, _, h => h
  | n + 1, r, _ => pendingRows_after n (pendingRows_read r)

/-- With its pending block having rows, a call returns an empty chunk exactly when no
block is pending and the decoder's next block has no rows, or there is none. -/
theorem rows_read_eq_zero_iff {r : ShuffleReader R} (h : PendingRows r) :
    r.read.1.rows = 0 ↔ r.pending_block = none ∧ ∀ b ∈ r.input_stream.head?, b.rows = 0 := by
  obtain ⟨input, maxRows, maxBytes, pending⟩ := r
  simp only [read, gather, rows_finalBlock]
  cases pending with
  | some p =>
    rcases hres : readLoop maxRows maxBytes [p] (totalRows [p]) (totalBytes [p]) input with
      ⟨out, pend, rest⟩
    obtain ⟨-, ⟨t, rfl⟩, -, -⟩ := readLoop_allRows_of_eq maxRows maxBytes hres
    have hp := h p rfl
    simp only [Option.toList_some]
    rw [hres]
    simp only [totalRows_append, totalRows_cons, totalRows_nil]
    exact iff_of_false (by omega) (by simp)
  | none =>
    simp only [Option.toList_none, totalRows_nil, totalBytes_nil, true_and]
    cases input with
    | nil => simp [readLoop_nil (keepReading_eq_true.2 (Or.inl rfl))]
    | cons b rest =>
      rw [readLoop_nil_cons]
      split_ifs with hb
      · simp [hb]
      · rcases hres : readLoop maxRows maxBytes [b] b.rows b.bytes rest with ⟨out, pend, rest'⟩
        obtain ⟨-, ⟨t, rfl⟩, -, -⟩ := readLoop_allRows_of_eq maxRows maxBytes hres
        simp only [hres, totalRows_append, totalRows_cons, totalRows_nil, List.head?_cons,
          Option.mem_def, Option.some.injEq, forall_eq']
        omega

end ShuffleReader

/-- An empty chunk, in every state a created reader reaches, comes exactly when no block
is pending and the decoder's next block has no rows, or there is none: a consumer that
takes the empty chunk for the end of the stream stops at the first block without rows. -/
theorem read_rows_eq_zero_iff (input : List (Block R)) (maxRows maxBytes : Int) (n : Nat) :
    let r := (ShuffleReader.create input maxRows maxBytes).after n
    r.read.1.rows = 0 ↔ r.pending_block = none ∧ ∀ b ∈ r.input_stream.head?, b.rows = 0 :=
  ShuffleReader.rows_read_eq_zero_iff (ShuffleReader.pendingRows_after n fun _ h => nomatch h)

/-- With at most two rows a chunk, the first call stops after the first block; the second
meets the block without rows and returns the empty chunk; the third returns the last row. -/
example : ((ShuffleReader.create ShuffleReader.stallingStream 2 (-1)).chunks 3).map Block.rows = [2, 0, 1] :=
  rfl

end GlutenBridge.Shuffle
