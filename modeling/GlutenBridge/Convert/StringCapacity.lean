import GlutenBridge.Convert.Readers

/-!
# The capacity `readColumnWithStringData` reserves

`readColumnWithStringData` reserves the chars in a first loop, `chars_t_size`
(`charsTSize`): for each non-empty chunk the end of its last row's value,
`value_offset(length - 1) + value_length(length - 1)`, and one zero byte per row. Its
second loop then appends, row by row, the `value_length(i)` bytes of every non-null row
and a zero byte (`appendedChars`) with `insert_assume_reserved`, which does not grow the
buffer.

The two loops count differently: the first takes each chunk's absolute end offset, the
second the lengths of its rows, skipping the null ones. When the value offsets of each
chunk's rows are sorted, as in every valid Arrow array, the lengths of a chunk's rows sum
to the end offset minus the first offset (`sum_appendedChars_le`), so every prefix of the
appends fits in the reservation (`readColumnWithStringData_within_reserved`), whatever
the slicing and wherever the nulls.
-/

set_option autoImplicit false

namespace GlutenBridge

open Arrow DB

theorem Arrow.Array.value_length_eq (a : Arrow.Array) (i : Nat) :
    a.value_length i = a.value_offset (i + 1) - a.value_offset i := by
  cases a <;> rfl

/-! ## One chunk -/

theorem appendedChars_le (chunk : Arrow.Array) (i : Nat) :
    appendedChars chunk i ≤ chunk.value_length i + 1 := by
  unfold appendedChars
  split <;> omega

/-- The model's row bytes are at most what the C++ appends: it takes the value's bytes
from the value data, which a valid array covers. -/
theorem length_stringRow_le (chunk : Arrow.Array) (i : Nat) :
    (stringRow chunk i).length ≤ appendedChars chunk i := by
  unfold stringRow appendedChars
  split <;> simp

/-- Over rows with sorted value offsets, the appends of the first `n` rows telescope to
at most the distance between the offsets of rows `0` and `n`, plus a byte per row. -/
theorem sum_appendedChars_le (chunk : Arrow.Array) : ∀ n,
    (∀ i < n, chunk.value_offset i ≤ chunk.value_offset (i + 1)) →
    ((List.range n).map (appendedChars chunk)).sum + chunk.value_offset 0 ≤
      chunk.value_offset n + n
  | 0, _ => by simp
  | n + 1, hsorted => by
    have ih := sum_appendedChars_le chunk n fun i hi => hsorted i (by omega)
    have hrow := appendedChars_le chunk n
    have hn := hsorted n (by omega)
    rw [Arrow.Array.value_length_eq] at hrow
    rw [List.sum_range_succ]
    omega

theorem sum_appendedChars_le_reservedChars (chunk : Arrow.Array)
    (hsorted : ∀ i < chunk.length, chunk.value_offset i ≤ chunk.value_offset (i + 1)) :
    ((List.range chunk.length).map (appendedChars chunk)).sum ≤ reservedChars chunk := by
  have hsum := sum_appendedChars_le chunk chunk.length hsorted
  unfold reservedChars
  split_ifs with hlen
  · have hlast := hsorted (chunk.length - 1) (by omega)
    rw [Arrow.Array.value_length_eq, Nat.sub_add_cancel hlen] at *
    omega
  · simp [Nat.eq_zero_of_not_pos hlen]

/-! ## The chunks -/

theorem sum_appendedChars_le_charsTSize (arrow_column : ChunkedArray)
    (hsorted : ∀ chunk ∈ arrow_column, ∀ i < chunk.length,
      chunk.value_offset i ≤ chunk.value_offset (i + 1)) :
    (arrow_column.flatMap fun chunk =>
      (List.range chunk.length).map (appendedChars chunk)).sum ≤ charsTSize arrow_column := by
  rw [List.flatMap, List.sum_flatten, List.map_map, charsTSize]
  exact List.sum_le_sum fun chunk hchunk =>
    sum_appendedChars_le_reservedChars chunk (hsorted chunk hchunk)

theorem fst_foldl_appendStringRow (rows : List (List UInt8)) (acc : List UInt8 × List Nat) :
    (rows.foldl appendStringRow acc).1 = acc.1 ++ rows.flatten := by
  induction rows generalizing acc with
  | nil => simp
  | cons row rows ih => simp [ih, appendStringRow]

theorem length_stringRows_le (arrow_column : ChunkedArray) :
    (arrow_column.flatMap fun chunk =>
      (List.range chunk.length).map (stringRow chunk)).flatten.length ≤
    (arrow_column.flatMap fun chunk =>
      (List.range chunk.length).map (appendedChars chunk)).sum := by
  induction arrow_column with
  | nil => simp
  | cons chunk chunks ih =>
    simp only [List.flatMap_cons, List.flatten_append, List.length_append, List.sum_append]
    refine Nat.add_le_add ?_ ih
    rw [List.length_flatten, List.map_map]
    exact List.sum_le_sum fun i _ => length_stringRow_le chunk i

/-- On chunks whose rows have sorted value offsets, every prefix of the bytes the second
loop of `readColumnWithStringData` appends (a non-null row's value and a zero byte per
row, over all the chunks) fits in the `chars_t_size` its first loop reserved, and so do
the chars it returns. -/
theorem readColumnWithStringData_within_reserved (arrow_column : ChunkedArray)
    (column_name : String)
    (hsorted : ∀ chunk ∈ arrow_column, ∀ i < chunk.length,
      chunk.value_offset i ≤ chunk.value_offset (i + 1)) :
    (∀ k, ((arrow_column.flatMap fun chunk =>
      (List.range chunk.length).map (appendedChars chunk)).take k).sum ≤
        charsTSize arrow_column) ∧
    ∀ chars offsets, (readColumnWithStringData arrow_column column_name).column =
      .string chars offsets → chars.length ≤ charsTSize arrow_column := by
  have htotal := sum_appendedChars_le_charsTSize arrow_column hsorted
  refine ⟨fun k => le_trans ((List.take_sublist k _).sum_le_sum fun _ _ => Nat.zero_le _)
    htotal, fun chars offsets h => ?_⟩
  rcases hfold : (arrow_column.flatMap fun chunk =>
    (List.range chunk.length).map (stringRow chunk)).foldl appendStringRow ([], []) with ⟨c, o⟩
  simp only [readColumnWithStringData, hfold, Column.string.injEq] at h
  obtain ⟨rfl, -⟩ := h
  have hc : c = (arrow_column.flatMap fun chunk =>
      (List.range chunk.length).map (stringRow chunk)).flatten := by
    simpa [hfold] using fst_foldl_appendStringRow (arrow_column.flatMap fun chunk =>
      (List.range chunk.length).map (stringRow chunk)) ([], [])
  rw [hc]
  exact le_trans (length_stringRows_le arrow_column) htotal

/-- Two string chunks: the first sliced to its second and third rows, a null row over
the three bytes `"cde"` and `"f"`; the second one row `"x"`. -/
def sampleStringColumn : ChunkedArray :=
  [.binary 2 1 (some [true, false, true]) [0, 2, 5, 6] [97, 98, 99, 100, 101, 102],
    .binary 1 0 none [0, 1] [120]]

theorem readColumnWithStringData_within_reserved_sample :
    (∀ chunk ∈ sampleStringColumn, ∀ i < chunk.length,
      chunk.value_offset i ≤ chunk.value_offset (i + 1)) ∧
    (∀ k, ((sampleStringColumn.flatMap fun chunk =>
      (List.range chunk.length).map (appendedChars chunk)).take k).sum ≤
        charsTSize sampleStringColumn) ∧
    ∀ chars offsets, (readColumnWithStringData sampleStringColumn "s").column =
      .string chars offsets → chars.length ≤ charsTSize sampleStringColumn :=
  ⟨by decide, readColumnWithStringData_within_reserved sampleStringColumn "s" (by decide)⟩

/-- The sample reserves 10 bytes (`6 + 2` and `1 + 1`) for the 5 it fills. -/
example : charsTSize sampleStringColumn = 10 ∧
    (readColumnWithStringData sampleStringColumn "s").column =
      .string [0, 102, 0, 120, 0] [1, 3, 5] :=
  ⟨by decide, rfl⟩

end GlutenBridge
