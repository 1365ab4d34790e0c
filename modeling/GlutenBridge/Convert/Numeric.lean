import GlutenBridge.Convert.Column

/-!
# What the raw-buffer readers copy

`readColumnWithNumericData` copies each chunk's `buffers[1]` from its first byte. Row
`i` of a chunk is therefore the buffer's element `i`, while the chunk's own row `i` is
the element `offset + i` (`Array::Value`). The two agree on every chunk that was not
sliced; on a sliced chunk the converter returns the rows before the slice.

The `HALF_FLOAT` entry of the dispatch reads the 2-byte buffer as 4-byte `Float32`
elements, so its rows are pairs of half-float bit patterns.

`readColumnWithDate32Data` copies its buffer the same way, and its range check scans the
copied elements: a `DATE32` conversion fails exactly when one of the first `length`
elements of some chunk's buffer exceeds `DATE_LUT_MAX_EXTEND_DAY_NUM`
(`readColumnFromArrowColumn_date32_error_iff`). That is the spec's condition on chunks
that were not sliced and have no null rows; a null slot can hold any value, and a
sliced chunk's rows are not the elements checked.
-/

set_option autoImplicit false

namespace GlutenBridge

open Arrow DB

/-- The column `readColumnWithNumericData` builds: row `i` of a chunk is element `i` of
its buffer. -/
theorem readColumnWithNumericData_column (width : Nat) (type : DB.DataType)
    (arrow_column : ChunkedArray) (column_name : String) :
    (readColumnWithNumericData width type arrow_column column_name).column =
      .vector width (arrow_column.flatMap fun chunk =>
        (List.range chunk.length).map (readElement chunk.valuesBuffer width)) := by
  simp only [readColumnWithNumericData, Column.vector.injEq, true_and]
  congr 1
  funext chunk
  split <;> simp_all

/-- On chunks that were not sliced, the numeric reader returns each row's value. -/
theorem readColumnWithNumericData_of_offset_zero (width : Nat) (type : DB.DataType)
    (arrow_column : ChunkedArray) (column_name : String)
    (hoff : ∀ chunk ∈ arrow_column, chunk.offset = 0) :
    (readColumnWithNumericData width type arrow_column column_name).column =
      .vector width (arrow_column.flatMap fun chunk =>
        (List.range chunk.length).map (chunk.Value width)) := by
  rw [readColumnWithNumericData_column]
  congr 1
  refine List.flatMap_congr fun chunk hchunk => ?_
  simp [Arrow.Array.Value, hoff chunk hchunk]

/-- The `Float32` bit pattern of the value of a half-precision bit pattern, the
widening the spec asks for ("half-float is promoted to 32-bit float"): the exponent is
rebiased from 15 to 127 and the mantissa shifted by 13 bits; a subnormal half is
normalised; infinities and NaNs keep their class. -/
def halfToFloat32 (h : Nat) : Nat :=
  let signBit := h / 2 ^ 15 % 2 * 2 ^ 31
  let exp := h / 2 ^ 10 % 2 ^ 5
  let mant := h % 2 ^ 10
  if exp = 0 then
    if mant = 0 then signBit
    else signBit + (Nat.log2 mant + 103) * 2 ^ 23 + (mant - 2 ^ Nat.log2 mant) * 2 ^ (23 - Nat.log2 mant)
  else if exp = 31 then signBit + 255 * 2 ^ 23 + mant * 2 ^ 13
  else signBit + (exp + 112) * 2 ^ 23 + mant * 2 ^ 13

/-- A non-nullable `INT32` column of one chunk, sliced to its second value: the buffer
holds 1 and 2, the chunk's only row is 2. -/
def slicedInt32Column : ChunkedArray := [.primitive 1 1 none [1, 0, 0, 0, 2, 0, 0, 0]]

/-- A non-nullable `HALF_FLOAT` column of one row, 1.0 (`0x3C00`), in a buffer of two. -/
def halfFloatColumn : ChunkedArray := [.primitive 1 0 none [0x00, 0x3C, 0x00, 0x3C]]

/-- On the sliced chunk the converter returns 1, the value before the slice, for a row
whose value is 2; on the half-float chunk it returns the two half-floats' bits
`0x3C003C00` for a row whose widened value is `0x3F800000`, the `Float32` 1.0. -/
theorem readColumnFromArrowColumn_sliced_int32 :
    (slicedInt32Column.head?.map fun chunk => chunk.Value 4 0) = some 2 ∧
      (((readColumnFromArrowColumn sampleDateBounds (.mk "i" .int32 false) slicedInt32Column
        "Parquet" true).run.run fun _ => none).1.map fun column => column.column.get 0) =
        .ok (.number 1) ∧
      (halfFloatColumn.head?.map fun chunk => halfToFloat32 (chunk.Value 2 0)) =
        some 0x3F800000 ∧
      (((readColumnFromArrowColumn sampleDateBounds (.mk "h" .halfFloat false) halfFloatColumn
        "Parquet" true).run.run fun _ => none).1.map fun column => column.column.get 0) =
        .ok (.number 0x3C003C00) :=
  ⟨rfl, rfl, by decide, rfl⟩

/-! ## The `Date32` range check -/

/-- `readColumnWithDate32Data` fails, always with `VALUE_IS_OUT_OF_RANGE_OF_DATA_TYPE`,
exactly when one of the first `length` 4-byte elements of a chunk's buffer exceeds
`DATE_LUT_MAX_EXTEND_DAY_NUM`. -/
theorem readColumnWithDate32Data_error_iff (bounds : DateBounds) (arrow_column : ChunkedArray)
    (column_name : String) :
    (∃ e, readColumnWithDate32Data bounds arrow_column column_name = .error e ∧
        e.code = .VALUE_IS_OUT_OF_RANGE_OF_DATA_TYPE) ↔
      ∃ chunk ∈ arrow_column, ∃ i < chunk.length,
        bounds.max_extend_day_num < toSigned 32 (readElement chunk.valuesBuffer 4 i) := by
  unfold readColumnWithDate32Data
  dsimp only
  split
  · rename_i p hp
    have hmem := List.mem_of_find?_eq_some hp
    have hgt := List.find?_some hp
    simp only [List.mem_flatMap, List.mem_map, List.mem_range] at hmem
    obtain ⟨chunk, hchunk, i, hi, rfl⟩ := hmem
    exact ⟨fun _ => ⟨chunk, hchunk, i, hi, by simpa using hgt⟩, fun _ => ⟨_, rfl, rfl⟩⟩
  · rename_i hnone
    simp only [List.find?_eq_none, List.mem_flatMap, List.mem_map, List.mem_range] at hnone
    refine ⟨fun ⟨_, h, _⟩ => (nomatch h), fun ⟨chunk, hchunk, i, hi, hgt⟩ => ?_⟩
    exact absurd (by simpa using hgt) (hnone _ ⟨chunk, hchunk, i, hi, rfl⟩)

/-- A `DATE32` field, nullable or not, over chunks of fixed-width arrays converts to
what `readColumnWithDate32Data` returns, leaving the cache as it was. -/
theorem readColumnFromArrowColumn_date32 (bounds : DateBounds) (column_name : String)
    (is_nullable : Bool) (arrow_column : ChunkedArray) (format_name : String)
    (read_ints_as_dates : Bool) (dictionary_values : DictionaryValues)
    (hchunks : ∀ chunk ∈ arrow_column, chunk.isPrimitive) :
    ((readColumnFromArrowColumn bounds (.mk column_name .date32 is_nullable) arrow_column
        format_name read_ints_as_dates).run.run dictionary_values).1 =
      (readColumnWithDate32Data bounds arrow_column column_name).map fun column =>
        if is_nullable then
          ⟨.nullable column.column (readByteMapFromArrowColumn arrow_column),
            .nullable column.type, column_name⟩
        else column := by
  have hnn : readNonNullable bounds column_name .date32 arrow_column format_name
      read_ints_as_dates = ConvM.ofExcept (readColumnWithDate32Data bounds arrow_column
        column_name) := by
    rw [readNonNullable]
    split
    · have := hchunks _ (List.mem_of_mem_head? ‹_›)
      simp [Arrow.Array.isPrimitive] at this
    · rfl
  rw [readColumnFromArrowColumn]
  cases is_nullable
  · rw [if_neg Bool.false_ne_true, hnn, ConvM.ofExcept_run]
    cases readColumnWithDate32Data bounds arrow_column column_name <;> rfl
  · rw [if_pos rfl, readNullable_run, hnn, ConvM.ofExcept_run]
    cases h : readColumnWithDate32Data bounds arrow_column column_name with
    | error e => rfl
    | ok column => rw [readColumnWithDate32Data_eq_ok h]; rfl

/-- A `DATE32` conversion fails with `VALUE_IS_OUT_OF_RANGE_OF_DATA_TYPE` exactly when one
of the first `length` elements of some chunk's buffer, null slots and the slots before
a slice included, exceeds `DATE_LUT_MAX_EXTEND_DAY_NUM`. -/
theorem readColumnFromArrowColumn_date32_error_iff (bounds : DateBounds) (column_name : String)
    (is_nullable : Bool) (arrow_column : ChunkedArray) (format_name : String)
    (read_ints_as_dates : Bool) (dictionary_values : DictionaryValues)
    (hchunks : ∀ chunk ∈ arrow_column, chunk.isPrimitive) :
    (∃ e, ((readColumnFromArrowColumn bounds (.mk column_name .date32 is_nullable) arrow_column
        format_name read_ints_as_dates).run.run dictionary_values).1 = .error e ∧
        e.code = .VALUE_IS_OUT_OF_RANGE_OF_DATA_TYPE) ↔
      ∃ chunk ∈ arrow_column, ∃ i < chunk.length,
        bounds.max_extend_day_num < toSigned 32 (readElement chunk.valuesBuffer 4 i) := by
  rw [readColumnFromArrowColumn_date32 bounds column_name is_nullable arrow_column format_name
    read_ints_as_dates dictionary_values hchunks, ← readColumnWithDate32Data_error_iff bounds
    arrow_column column_name]
  cases readColumnWithDate32Data bounds arrow_column column_name <;> simp [Except.map]

/-- A nullable `DATE32` column of one null row whose slot holds 200000. -/
def nullSlotDateColumn : ChunkedArray := [.primitive 1 0 (some [false]) [0x40, 0x0D, 0x03, 0x00]]

/-- A `DATE32` column of one chunk sliced to its second element, 200000, after a 0. -/
def slicedDateColumn : ChunkedArray :=
  [.primitive 1 1 none [0, 0, 0, 0, 0x40, 0x0D, 0x03, 0x00]]

/-- The range check fails on a column whose only row is null, and passes a column whose
only row is 200000, beyond `DATE_LUT_MAX_EXTEND_DAY_NUM` = 120529, returning 0 for it. -/
theorem readColumnFromArrowColumn_date32_range_check_misses_rows :
    (nullSlotDateColumn.head?.map fun chunk => chunk.IsNull 0) = some true ∧
      ((readColumnFromArrowColumn sampleDateBounds (.mk "d" .date32 true) nullSlotDateColumn
        "Parquet" true).run.run fun _ => none).1 =
        .error ⟨.VALUE_IS_OUT_OF_RANGE_OF_DATA_TYPE,
          "Input value 200000 of a column \"d\" is greater than max allowed Date value, " ++
            "which is 65535"⟩ ∧
      (slicedDateColumn.head?.map fun chunk => toSigned 32 (chunk.Value 4 0)) = some 200000 ∧
      (((readColumnFromArrowColumn sampleDateBounds (.mk "d" .date32 false) slicedDateColumn
        "Parquet" true).run.run fun _ => none).1.map fun column => column.column.get 0) =
        .ok (.number 0) :=
  ⟨rfl, rfl, by decide, rfl⟩

end GlutenBridge
