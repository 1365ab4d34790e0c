import GlutenBridge.Arrow.Array

/-!
# The per-type readers of `OptimizedArrowColumnToCHColumn.cpp`

Each `readColumnWith…Data` turns a chunked array of one Arrow type into a ClickHouse
column, chunk after chunk. The numeric and `Date32` readers copy `buffers[1]` from its
first byte, `length` elements of the ClickHouse type's width; the other readers go
through `Value(i)`, `IsNull(i)` and `value_offset(i)`, which add the array's offset.

`DATE_LUT_MAX_EXTEND_DAY_NUM` and `DATE_LUT_MAX_DAY_NUM` come from `DateLUTImpl.h`,
outside this file: they are the fields of `DateBounds`, a parameter of the converter.
`createDecimal` is ClickHouse's type factory of `DataTypesDecimal.h`.
-/

set_option autoImplicit false

namespace GlutenBridge

open Arrow DB

/-- The two `DateLUT` constants `readColumnWithDate32Data` uses. -/
structure DateBounds where
  /-- `DATE_LUT_MAX_EXTEND_DAY_NUM`, the largest day number a `Date32` holds. -/
  max_extend_day_num : Int
  /-- `DATE_LUT_MAX_DAY_NUM`, the bound the error message reports. -/
  max_day_num : Int

/-- Bounds for concrete runs of the converter: ClickHouse's `DATE_LUT_MAX_EXTEND_DAY_NUM`
(2299-12-31) and `DATE_LUT_MAX_DAY_NUM`. -/
def sampleDateBounds : DateBounds := ⟨120529, 65535⟩

/-- `readColumnWithNumericData<T>`: each non-empty chunk contributes the first
`length` elements of `width` bytes of its `buffers[1]`. -/
def readColumnWithNumericData (width : Nat) (type : DB.DataType) (arrow_column : ChunkedArray)
    (column_name : String) : ColumnWithTypeAndName :=
  ⟨.vector width (arrow_column.flatMap fun chunk =>
      if chunk.length = 0 then []
      else (List.range chunk.length).map (readElement chunk.valuesBuffer width)),
    type, column_name⟩

/-- The bytes one row of a binary chunk contributes to the chars: the value (nothing
for a null row) and the terminating zero byte. -/
def stringRow (chunk : Arrow.Array) (i : Nat) : List UInt8 :=
  (if !chunk.IsNull i then
    (chunk.value_data.drop (chunk.value_offset i)).take (chunk.value_length i)
  else []) ++ [0]

/-- One iteration of the row loop of `readColumnWithStringData`: append the row's
bytes, then record the new end of the chars as the row's offset. -/
def appendStringRow (acc : List UInt8 × List Nat) (row : List UInt8) : List UInt8 × List Nat :=
  (acc.1 ++ row, acc.2 ++ [(acc.1 ++ row).length])

/-- `readColumnWithStringData`: every row's bytes followed by a zero byte, and the
running end of the chars as each row's offset. -/
def readColumnWithStringData (arrow_column : ChunkedArray) (column_name : String) :
    ColumnWithTypeAndName :=
  let rows := arrow_column.flatMap fun chunk => (List.range chunk.length).map (stringRow chunk)
  let (chars, offsets) := rows.foldl appendStringRow ([], [])
  ⟨.string chars offsets, .string, column_name⟩

/-- What the first loop of `readColumnWithStringData` adds to `chars_t_size` for a chunk:
the end of its last row's value, `value_offset(length - 1) + value_length(length - 1)`,
and one zero byte per row; nothing for an empty chunk. -/
def reservedChars (chunk : Arrow.Array) : Nat :=
  if chunk.length > 0 then
    chunk.value_offset (chunk.length - 1) + chunk.value_length (chunk.length - 1) + chunk.length
  else 0

/-- `chars_t_size`, the capacity the first loop of `readColumnWithStringData` reserves
for the chars. -/
def charsTSize (arrow_column : ChunkedArray) : Nat :=
  (arrow_column.map reservedChars).sum

/-- The bytes the second loop of `readColumnWithStringData` appends for row `i`: the
`value_length(i)` bytes at `value_offset(i)` of a non-null row, then the zero byte. -/
def appendedChars (chunk : Arrow.Array) (i : Nat) : Nat :=
  (if !chunk.IsNull i then chunk.value_length i else 0) + 1

/-- `readColumnWithBooleanData`: one byte, 0 or 1, per row. -/
def readColumnWithBooleanData (arrow_column : ChunkedArray) (column_name : String) :
    ColumnWithTypeAndName :=
  ⟨.vector 1 (arrow_column.flatMap fun chunk =>
      if chunk.length = 0 then []
      else (List.range chunk.length).map fun i => if chunk.boolValue i then 1 else 0),
    .uint8, column_name⟩

/-- `readColumnWithDate32Data`: the first `length` 4-byte elements of each chunk's
`buffers[1]`; the first of them, in chunk order, whose signed value exceeds
`DATE_LUT_MAX_EXTEND_DAY_NUM` makes the call throw. -/
def readColumnWithDate32Data (bounds : DateBounds) (arrow_column : ChunkedArray)
    (column_name : String) : Except Exception ColumnWithTypeAndName :=
  let column_data := arrow_column.flatMap fun chunk =>
    (List.range chunk.length).map (readElement chunk.valuesBuffer 4)
  match column_data.find? (fun p => decide (toSigned 32 p > bounds.max_extend_day_num)) with
  | some p => .error ⟨.VALUE_IS_OUT_OF_RANGE_OF_DATA_TYPE,
      "Input value " ++ toString (toSigned 32 p) ++ " of a column \"" ++ column_name ++
        "\" is greater than max allowed Date value, which is " ++ toString bounds.max_day_num⟩
  | none => .ok ⟨.vector 4 column_data, .date32, column_name⟩

/-- `static_cast<UInt32>(v / 1000)` of a signed 64-bit millisecond value: division
rounds toward zero, the cast keeps the low 32 bits. -/
def millisToDateTime (bits : Nat) : Nat :=
  ((toSigned 64 bits).tdiv 1000 % 2 ^ 32).toNat

/-- `readColumnWithDate64Data`: each row's `Value(i) / 1000`, cast to `UInt32`. -/
def readColumnWithDate64Data (arrow_column : ChunkedArray) (column_name : String) :
    ColumnWithTypeAndName :=
  ⟨.vector 4 (arrow_column.flatMap fun chunk =>
      (List.range chunk.length).map fun i => millisToDateTime (chunk.Value 8 i)),
    .dateTime, column_name⟩

/-- `readColumnWithTimestampData`: each row's tick count, in a `DateTime64` of scale
`unit * 3` and the source's timezone. -/
def readColumnWithTimestampData (unit : TimeUnit) (timezone : String)
    (arrow_column : ChunkedArray) (column_name : String) : ColumnWithTypeAndName :=
  ⟨.vector 8 (arrow_column.flatMap fun chunk => (List.range chunk.length).map (chunk.Value 8)),
    .dateTime64 (unit.toNat * 3) timezone, column_name⟩

/-- The low `width` bytes of element `i` of a fixed-width array of `sourceWidth`-byte
elements: `*reinterpret_cast<const DecimalType *>(chunk.Value(i))`. -/
def Arrow.Array.lowBytes (a : Arrow.Array) (sourceWidth width i : Nat) : Nat :=
  decodeLE (((a.valuesBuffer.drop ((a.offset + i) * sourceWidth)).take sourceWidth).take width)

/-- `readColumnWithDecimalDataImpl<DecimalType>`: each row's low `width` bytes, and 0
for a null row. -/
def readColumnWithDecimalDataImpl (width sourceWidth : Nat) (arrow_column : ChunkedArray)
    (column_name : String) (internal_type : DB.DataType) : ColumnWithTypeAndName :=
  ⟨.vector width (arrow_column.flatMap fun chunk =>
      (List.range chunk.length).map fun i =>
        if chunk.IsNull i then 0 else chunk.lowBytes sourceWidth width i),
    internal_type, column_name⟩

/-- `DecimalUtils::max_precision` of `Decimal32`, `Decimal64`, `Decimal128`, `Decimal256`. -/
def maxPrecision32 : Nat := 9
def maxPrecision64 : Nat := 18
def maxPrecision128 : Nat := 38
def maxPrecision256 : Nat := 76

/-- ClickHouse's `createDecimal<DataTypeDecimal>(precision, scale)`. Its arguments are
`UInt64`, so a negative Arrow scale arrives as a huge value and fails the scale test. -/
def createDecimal (precision : Nat) (scale : Int) : Except Exception DB.DataType :=
  if precision < 1 ∨ maxPrecision256 < precision then
    .error ⟨.ARGUMENT_OUT_OF_BOUND, "Wrong precision: it must be between 1 and 76, got " ++
      toString precision⟩
  else if scale < 0 ∨ (precision : Int) < scale then
    .error ⟨.ARGUMENT_OUT_OF_BOUND,
      "Negative scales and scales larger than precision are not supported"⟩
  else .ok (.decimal precision scale.toNat)

/-- The backing width, in bytes, `readColumnWithDecimalData` picks: the narrowest of
`Decimal32`, `Decimal64`, `Decimal128` whose maximum precision covers `precision`,
and `Decimal256` otherwise. -/
def decimalWidth (precision : Nat) : Nat :=
  if precision ≤ maxPrecision32 then 4
  else if precision ≤ maxPrecision64 then 8
  else if precision ≤ maxPrecision128 then 16
  else 32

theorem decimalWidth_le_16 {precision : Nat} (h : precision ≤ maxPrecision128) :
    decimalWidth precision ≤ 16 := by
  unfold decimalWidth
  split_ifs <;> omega

theorem decimalWidth_le_32 (precision : Nat) : decimalWidth precision ≤ 32 := by
  unfold decimalWidth
  split_ifs <;> omega

/-- `readColumnWithDecimalData<DecimalArray>` over source values of `sourceWidth`
bytes (16 for `Decimal128Array`, 32 for `Decimal256Array`). -/
def readColumnWithDecimalData (sourceWidth precision : Nat) (scale : Int)
    (arrow_column : ChunkedArray) (column_name : String) : Except Exception ColumnWithTypeAndName :=
  (createDecimal precision scale).map fun internal_type =>
    readColumnWithDecimalDataImpl (decimalWidth precision) sourceWidth arrow_column column_name
      internal_type

/-- What `readColumnWithDate32Data` returns when it returns. -/
theorem readColumnWithDate32Data_eq_ok {bounds : DateBounds} {arrow_column : ChunkedArray}
    {column_name : String} {column : ColumnWithTypeAndName}
    (h : readColumnWithDate32Data bounds arrow_column column_name = .ok column) :
    column = ⟨.vector 4 (arrow_column.flatMap fun chunk =>
      (List.range chunk.length).map (readElement chunk.valuesBuffer 4)), .date32, column_name⟩ := by
  unfold readColumnWithDate32Data at h
  dsimp only at h
  split at h
  · cases h
  · exact (Except.ok.inj h).symm

/-- What `readColumnWithDecimalData` returns when it returns: the decimal of the
field's precision. -/
theorem readColumnWithDecimalData_eq_ok {sourceWidth precision : Nat} {scale : Int}
    {arrow_column : ChunkedArray} {column_name : String} {column : ColumnWithTypeAndName}
    (h : readColumnWithDecimalData sourceWidth precision scale arrow_column column_name =
      .ok column) :
    ∃ scale', column = readColumnWithDecimalDataImpl (decimalWidth precision) sourceWidth
      arrow_column column_name (.decimal precision scale') := by
  unfold readColumnWithDecimalData createDecimal at h
  split_ifs at h
  · cases h
  · cases h
  · exact ⟨_, (Except.ok.inj h).symm⟩

/-- `readByteMapFromArrowColumn`: the null flag of every row. -/
def readByteMapFromArrowColumn (arrow_column : ChunkedArray) : List Bool :=
  arrow_column.flatMap fun chunk => (List.range chunk.length).map chunk.IsNull

/-- One chunk of `readOffsetsFromArrowListColumn`: each of the chunk's Arrow offsets
after the first, added to the last offset so far (`offsets_data.back()`, zero on an
empty column thanks to the array's left padding). -/
def appendListOffsets (offsets_data : List Nat) (chunk : Arrow.Array) : List Nat :=
  offsets_data ++ (chunk.offsets.drop 1).map (offsets_data.getLastD 0 + ·)

/-- `readOffsetsFromArrowListColumn`. -/
def readOffsetsFromArrowListColumn (arrow_column : ChunkedArray) : List Nat :=
  arrow_column.foldl appendListOffsets []

/-- `getNestedArrowColumn`: the values children of the chunks, in order. -/
def getNestedArrowColumn (arrow_column : ChunkedArray) : ChunkedArray :=
  arrow_column.map Arrow.Array.values

/-- The width of the `UInt` a LowCardinality index type is read as
(`FOR_ARROW_INDEXES_TYPES`): signed indexes are read as the unsigned type of their width. -/
def indexWidth : Arrow.DataType → Option Nat
  | .uint8 | .int8 => some 1
  | .uint16 | .int16 => some 2
  | .uint32 | .int32 => some 4
  | .uint64 | .int64 => some 8
  | _ => none

/-- `readColumnWithIndexesData`. -/
def readColumnWithIndexesData (index_type : Arrow.DataType) (arrow_column : ChunkedArray) :
    Except Exception Column :=
  match indexWidth index_type with
  | some width => .ok (readColumnWithNumericData width .uint64 arrow_column "").column
  | none => .error ⟨.BAD_ARGUMENTS,
      "Unsupported type for indexes in LowCardinality: " ++ index_type.name ++ "."⟩

end GlutenBridge
