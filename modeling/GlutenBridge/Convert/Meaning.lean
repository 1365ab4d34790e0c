import GlutenBridge.Convert.WellFormed
import GlutenBridge.Convert.Decimal

/-!
# The converter keeps the value of every row

What a row of an Arrow chunk means, as a ClickHouse value (`fieldValue`): `NULL` at a
null row of a nullable field; otherwise the row's value under the type's mapping, read
through Arrow's accessors, which add the array's offset (`Value(i)`, `value_offset(i)`,
the list offsets from the array's offset on); a list row is the slice of its values
child between its two offsets, a struct row the tuple of its members' rows. What a
ClickHouse column holds is `Column.rows`.

`readColumnFromArrowColumn_rows_eq_columnValues` proves that a conversion returns the
rows the chunks mean, for every supported field and every chunked array the converter
reads as Arrow means it (`fieldChunkFaithful`): fixed-width numeric and `Date32` chunks
that were not sliced, list and map chunks whose offsets start at 0 and end at the size
of their values child, no `HALF_FLOAT`, no dictionary, and no null row under a
non-nullable field. These are the conditions the converter needs: the numeric readers
copy `buffers[1]` from its first byte, `readOffsetsFromArrowListColumn` drops each
chunk's first offset, `HALF_FLOAT` is read as `Float32`, and the indexes of a
`LowCardinality` column are the raw Arrow indices. Strings, booleans, dates,
timestamps and decimals are read right on sliced chunks too.

The proof follows the converter's recursion with the rules of `Keeps`. A non-nullable
conversion over chunks with null rows (the nested call of the nullable branch) agrees
with the rows wherever they are not null (`AgreesOffNulls`): the string reader writes
nothing for a null row and the decimal reader 0, and the byte map hides both.
-/

set_option autoImplicit false

namespace GlutenBridge

open Arrow DB

/-! ## What an Arrow row means -/

/-- The `w`-byte two's-complement pattern of `v`: how a ClickHouse decimal of `w` bytes
stores the unscaled value `v`. -/
def signedBits (w : Nat) (v : Int) : Nat :=
  (v % (2 ^ (8 * w) : Nat)).toNat

mutual
/-- The value of row `i` of a chunk of the field: `NULL` at a null row of a nullable
field, the type's value otherwise. -/
def fieldValue : Field → Arrow.Array → Nat → Value
  | .mk _ type nullable, a, i => if nullable && a.IsNull i then .null else typeValue type a i

/-- The value of row `i` of a chunk of the type, null or not: the element `Value(i)` in
the width of the ClickHouse type, `Float32` widened from a half float, whole seconds of
a `Date64` cast to `UInt32`, the bytes of a string, the decimal's unscaled value in the
width `createDecimal` picks, the slice of the values child between the row's offsets,
the tuple of the members' rows, the dictionary's row at the row's index. -/
def typeValue : Arrow.DataType → Arrow.Array → Nat → Value
  | .bool, a, i => .number (if a.boolValue i then 1 else 0)
  | .uint8, a, i | .int8, a, i => .number (a.Value 1 i)
  | .uint16, a, i | .int16, a, i => .number (a.Value 2 i)
  | .uint32, a, i | .int32, a, i | .float, a, i | .date32, a, i => .number (a.Value 4 i)
  | .uint64, a, i | .int64, a, i | .double, a, i | .timestamp _ _, a, i => .number (a.Value 8 i)
  | .halfFloat, a, i => .number (halfToFloat32 (a.Value 2 i))
  | .date64, a, i => .number (millisToDateTime (a.Value 8 i))
  | .string, a, i | .binary, a, i =>
    .string ((a.value_data.drop (a.value_offset i)).take (a.value_length i))
  | .decimal128 precision _, a, i =>
    .number (signedBits (decimalWidth precision) (toSigned 128 (a.Value 16 i)))
  | .decimal256 precision _, a, i =>
    .number (signedBits (decimalWidth precision) (toSigned 256 (a.Value 32 i)))
  | .list value_field, a, i | .map value_field, a, i =>
    .array ((List.range (a.offsets.getD (i + 1) 0 - a.offsets.getD i 0)).map fun k =>
      fieldValue value_field a.values (a.offsets.getD i 0 + k))
  | .struct fields, a, i => .tuple (membersValue fields 0 a i)
  | .dictionary index_type value_type, a, i =>
    let index := (indexWidth index_type).elim 0 fun width => a.indices.Value width i
    if a.dictionary.IsNull index then .null else typeValue value_type a.dictionary index
  | .other _, _, _ => .null

/-- Row `i` of the members `j`, `j + 1`, … of a struct chunk. -/
def membersValue : List Field → Nat → Arrow.Array → Nat → List Value
  | [], _, _, _ => []
  | field :: fields, j, a, i => fieldValue field (a.field j) i :: membersValue fields (j + 1) a i
end

/-- The values of the rows of a chunked array of the field, chunk after chunk. -/
def columnValues (field : Field) (arrow_column : ChunkedArray) : List Value :=
  arrow_column.flatMap fun chunk => (List.range chunk.length).map (fieldValue field chunk)

/-- The values of the rows of a chunked array of the type, null or not. -/
def typeValues (type : Arrow.DataType) (arrow_column : ChunkedArray) : List Value :=
  arrow_column.flatMap fun chunk => (List.range chunk.length).map (typeValue type chunk)

/-- `NULL` at the null rows of the chunks, the value elsewhere: what the nullable branch
makes of a nested column. -/
def maskNulls (arrow_column : ChunkedArray) (values : List Value) : List Value :=
  List.zipWith (fun isNull v => if isNull then .null else v)
    (readByteMapFromArrowColumn arrow_column) values

/-! ## Chunks the converter reads as Arrow means them -/

/-- A chunk without null rows. -/
def Arrow.Array.noNulls (a : Arrow.Array) : Bool :=
  (List.range a.length).all fun i => !a.IsNull i

/-- A list or map chunk whose offsets are sorted, start at 0 and end at the size of its
values child. -/
def listChunkUnsliced (a : Arrow.Array) : Bool :=
  a.isList && decide (a.offsets.Sorted (· ≤ ·)) && lastArrowOffset a == a.values.length &&
    a.offsets.head? == some 0

theorem listChunkUnsliced_spec {a : Arrow.Array} (h : listChunkUnsliced a) :
    listChunkValid a ∧ lastArrowOffset a = a.values.length := by
  simp only [listChunkUnsliced, Bool.and_eq_true, beq_iff_eq] at h
  simp only [listChunkValid, Bool.and_eq_true, h, decide_eq_true_eq, le_refl, and_self]

mutual
/-- A chunk the converter reads as Arrow means it: no null row under a non-nullable
field, and a chunk of the type's layout that the type's reader reads right. -/
def fieldChunkFaithful : Field → Arrow.Array → Bool
  | .mk _ type nullable, a => (nullable || a.noNulls) && chunkFaithful type a

def chunkFaithful : Arrow.DataType → Arrow.Array → Bool
  | .uint8, a | .int8, a | .uint16, a | .int16, a | .uint32, a | .int32, a | .uint64, a
  | .int64, a | .float, a | .double, a | .date32, a => !a.isCHString && a.offset == 0
  | .bool, a | .string, a | .binary, a | .date64, a | .timestamp _ _, a
  | .decimal256 _ _, a => !a.isCHString
  | .decimal128 precision _, a => !a.isCHString && decide (precision ≤ maxPrecision128)
  | .list value_field, a | .map value_field, a =>
    listChunkUnsliced a && fieldChunkFaithful value_field a.values
  | .struct fields, a => a.isStruct && membersFaithful fields 0 a
  | .halfFloat, _ | .dictionary _ _, _ | .other _, _ => false

/-- The members `j`, `j + 1`, … of a struct chunk have the struct's rows and are read
faithfully. -/
def membersFaithful : List Field → Nat → Arrow.Array → Bool
  | [], _, _ => true
  | field :: fields, j, a =>
    (a.field j).length == a.length && fieldChunkFaithful field (a.field j) &&
      membersFaithful fields (j + 1) a
end

/-! ## Null rows -/

theorem length_typeValues (type : Arrow.DataType) (arrow_column : ChunkedArray) :
    (typeValues type arrow_column).length = arrow_column.length :=
  length_flatMap_range _ _

theorem maskNulls_flatMap (arrow_column : ChunkedArray) (g : Arrow.Array → Nat → Value) :
    maskNulls arrow_column (arrow_column.flatMap fun chunk =>
        (List.range chunk.length).map (g chunk)) =
      arrow_column.flatMap fun chunk => (List.range chunk.length).map fun i =>
        if chunk.IsNull i then .null else g chunk i := by
  induction arrow_column with
  | nil => rfl
  | cons chunk chunks ih =>
    rw [maskNulls, readByteMapFromArrowColumn, List.flatMap_cons, List.flatMap_cons,
      List.zipWith_append _ _ _ _ _ (by simp), List.zipWith_map, List.zipWith_same,
      List.flatMap_cons, ← ih]
    rfl

/-- Two lists of rows agree off the null rows when their rows agree at every non-null
row. -/
theorem maskNulls_flatMap_congr {arrow_column : ChunkedArray} {g h : Arrow.Array → Nat → Value}
    (hgh : ∀ chunk ∈ arrow_column, ∀ i < chunk.length, chunk.IsNull i = false → g chunk i = h chunk i) :
    maskNulls arrow_column (arrow_column.flatMap fun chunk =>
        (List.range chunk.length).map (g chunk)) =
      maskNulls arrow_column (arrow_column.flatMap fun chunk =>
        (List.range chunk.length).map (h chunk)) := by
  rw [maskNulls_flatMap, maskNulls_flatMap]
  refine List.flatMap_congr fun chunk hchunk => List.map_congr_left fun i hi => ?_
  cases hnull : chunk.IsNull i
  · simp [hgh chunk hchunk i (List.mem_range.1 hi) hnull]
  · rfl

theorem columnValues_nullable (column_name : String) (type : Arrow.DataType)
    (arrow_column : ChunkedArray) :
    columnValues (.mk column_name type true) arrow_column =
      maskNulls arrow_column (typeValues type arrow_column) := by
  rw [typeValues, maskNulls_flatMap]
  rfl

theorem columnValues_nonNullable (column_name : String) (type : Arrow.DataType)
    (arrow_column : ChunkedArray) :
    columnValues (.mk column_name type false) arrow_column = typeValues type arrow_column :=
  rfl

/-- Over chunks without null rows the mask changes nothing. -/
theorem maskNulls_of_noNulls {arrow_column : ChunkedArray} {values : List Value}
    (hno : ∀ a ∈ arrow_column, a.noNulls) (hlen : values.length = arrow_column.length) :
    maskNulls arrow_column values = values := by
  have hfalse : ∀ b ∈ readByteMapFromArrowColumn arrow_column, b = false := by
    simp only [readByteMapFromArrowColumn, List.mem_flatMap, List.mem_map, List.mem_range]
    rintro _ ⟨a, ha, i, hi, rfl⟩
    have := hno a ha
    simp only [Arrow.Array.noNulls, List.all_eq_true, List.mem_range, Bool.not_eq_true'] at this
    exact this i hi
  have hmap : (readByteMapFromArrowColumn arrow_column).length = values.length := by
    rw [length_readByteMapFromArrowColumn, hlen]
  refine List.ext_getElem (by simp [maskNulls, hmap]) fun r h₁ h₂ => ?_
  simp [maskNulls, hfalse _ (List.getElem_mem _)]

/-! ## The readers -/

theorem rows_readColumnWithNumericData {width : Nat} {type : DB.DataType}
    {arrow_column : ChunkedArray} {column_name : String}
    (hoff : ∀ chunk ∈ arrow_column, chunk.offset = 0) :
    (readColumnWithNumericData width type arrow_column column_name).column.rows =
      arrow_column.flatMap fun chunk =>
        (List.range chunk.length).map fun i => .number (chunk.Value width i) := by
  rw [readColumnWithNumericData_of_offset_zero _ _ _ _ hoff, Column.rows_vector, List.map_flatMap]
  simp only [List.map_map]
  rfl

theorem rows_readColumnWithBooleanData (arrow_column : ChunkedArray) (column_name : String) :
    (readColumnWithBooleanData arrow_column column_name).column.rows = typeValues .bool arrow_column := by
  rw [readColumnWithBooleanData, Column.rows_vector, List.map_flatMap]
  refine List.flatMap_congr fun chunk _ => ?_
  split <;> simp_all [typeValue]

theorem rows_readColumnWithDate64Data (arrow_column : ChunkedArray) (column_name : String) :
    (readColumnWithDate64Data arrow_column column_name).column.rows = typeValues .date64 arrow_column := by
  simp only [readColumnWithDate64Data, Column.rows_vector, List.map_flatMap, List.map_map]
  rfl

theorem rows_readColumnWithTimestampData (unit : TimeUnit) (timezone : String)
    (arrow_column : ChunkedArray) (column_name : String) :
    (readColumnWithTimestampData unit timezone arrow_column column_name).column.rows =
      typeValues (.timestamp unit timezone) arrow_column := by
  simp only [readColumnWithTimestampData, Column.rows_vector, List.map_flatMap, List.map_map]
  rfl

theorem rows_of_readColumnWithDate32Data {bounds : DateBounds} {arrow_column : ChunkedArray}
    {column_name : String} {column : ColumnWithTypeAndName}
    (h : readColumnWithDate32Data bounds arrow_column column_name = .ok column)
    (hoff : ∀ chunk ∈ arrow_column, chunk.offset = 0) :
    column.column.rows = typeValues .date32 arrow_column := by
  obtain rfl := readColumnWithDate32Data_eq_ok h
  simp only [Column.rows_vector, List.map_flatMap, List.map_map]
  refine List.flatMap_congr fun chunk hchunk => List.map_congr_left fun i _ => ?_
  simp [typeValue, Arrow.Array.Value, hoff chunk hchunk]

/-- The `w`-byte pattern of an `N`-bit two's-complement value, `8 w ≤ N`, is the
pattern's low `w` bytes. -/
theorem signedBits_toSigned {w N n : Nat} (hw : 8 * w ≤ N) :
    signedBits w (toSigned N n) = n % 2 ^ (8 * w) := by
  obtain ⟨q, hq⟩ : 2 ^ (8 * w) ∣ 2 ^ N := pow_dvd_pow 2 hw
  unfold signedBits toSigned
  split
  · rfl
  · rw [hq, Nat.cast_mul, sub_eq_add_neg, ← mul_neg, Int.add_mul_emod_self_left]
    rfl

theorem rows_of_readColumnWithDecimalData {sourceWidth precision : Nat} {scale : Int}
    {arrow_column : ChunkedArray} {column_name : String} {column : ColumnWithTypeAndName}
    (h : readColumnWithDecimalData sourceWidth precision scale arrow_column column_name =
      .ok column) :
    column.column.rows = arrow_column.flatMap fun chunk => (List.range chunk.length).map fun i =>
      .number (if chunk.IsNull i then 0 else chunk.lowBytes sourceWidth (decimalWidth precision) i) := by
  obtain ⟨_, rfl⟩ := readColumnWithDecimalData_eq_ok h
  simp only [readColumnWithDecimalDataImpl, Column.rows_vector, List.map_flatMap, List.map_map]
  rfl

/-- A decimal row stored by the reader is the source's unscaled value in the width
`createDecimal` picks, when that width is at most the source's. -/
theorem lowBytes_eq_signedBits {sourceWidth precision : Nat} (a : Arrow.Array) (i : Nat)
    (hw : decimalWidth precision ≤ sourceWidth) :
    a.lowBytes sourceWidth (decimalWidth precision) i =
      signedBits (decimalWidth precision) (toSigned (8 * sourceWidth) (a.Value sourceWidth i)) := by
  rw [signedBits_toSigned (by omega), lowBytes_eq]

/-! ## The chars and offsets of a string column -/

/-- The loop of `readColumnWithStringData` over rows each followed by its zero byte:
there is an offset per row, every offset is within the chars, the last one is their
end, and each row reads back as its bytes. -/
theorem foldl_appendStringRow_reads (rows : List (List UInt8)) :
    let acc := (rows.map (· ++ [0])).foldl appendStringRow ([], [])
    acc.2.length = rows.length ∧ (∀ o ∈ acc.2, o ≤ acc.1.length) ∧
      Column.rowStart acc.2 rows.length = acc.1.length ∧
      ∀ r < rows.length, (Column.string acc.1 acc.2).get r = .string (rows.getD r []) := by
  induction rows using List.reverseRecOn with
  | nil => exact ⟨rfl, by simp, rfl, by simp⟩
  | append_singleton rows row ih =>
    obtain ⟨hlen, hle, hstart, hget⟩ := ih
    simp only [List.map_append, List.map_cons, List.map_nil, List.foldl_append, List.foldl_cons,
      List.foldl_nil, appendStringRow, List.length_append, List.length_singleton]
    generalize (rows.map (· ++ [0])).foldl appendStringRow ([], []) = acc at *
    obtain ⟨chars, offsets⟩ := acc
    dsimp only at *
    have hstart' : ∀ e, ∀ r ≤ rows.length,
        Column.rowStart (offsets ++ [e]) r = Column.rowStart offsets r := by
      intro e r hr
      unfold Column.rowStart
      split
      · rfl
      · rw [List.getD_append _ _ _ _ (by omega)]
    refine ⟨hlen ▸ rfl, ?_, ?_, fun r hr => ?_⟩
    · simp only [List.mem_append, List.mem_singleton]
      rintro o (ho | rfl)
      · exact le_trans (hle o ho) (by simp)
      · exact le_refl _
    · unfold Column.rowStart
      rw [if_neg (Nat.succ_ne_zero _), Nat.add_sub_cancel, List.getD_append_right _ _ _ _ hlen.le,
        hlen, Nat.sub_self, List.getD_cons_zero]
    · rcases Nat.lt_succ_iff_lt_or_eq.1 hr with hr | rfl
      · have hoff : offsets.getD r 0 ≤ chars.length := by
          rw [List.getD_eq_getElem?_getD, List.getElem?_eq_getElem (hlen ▸ hr)]
          exact hle _ (List.getElem_mem _)
        rw [List.getD_append _ _ _ _ hr, ← hget r hr]
        simp only [Column.get, hstart' _ r hr.le, List.getD_append _ _ _ _ (hlen ▸ hr),
          List.take_append_of_le_length (by omega : offsets.getD r 0 - 1 ≤ chars.length)]
      · rw [List.getD_append_right _ _ _ _ le_rfl, Nat.sub_self, List.getD_cons_zero]
        simp only [Column.get, hstart' _ _ le_rfl, hstart]
        rw [List.getD_append_right _ _ _ _ hlen.le, hlen, Nat.sub_self, List.getD_cons_zero,
          ← Nat.add_assoc, Nat.add_sub_cancel, List.take_append, List.drop_left, List.take_left]

theorem rows_readColumnWithStringData (arrow_column : ChunkedArray) (column_name : String) :
    (readColumnWithStringData arrow_column column_name).column.rows =
      arrow_column.flatMap fun chunk => (List.range chunk.length).map fun i =>
        .string (if !chunk.IsNull i then
          (chunk.value_data.drop (chunk.value_offset i)).take (chunk.value_length i) else []) := by
  set rows := arrow_column.flatMap fun chunk => (List.range chunk.length).map fun i =>
    if !chunk.IsNull i then
      (chunk.value_data.drop (chunk.value_offset i)).take (chunk.value_length i) else []
  have hrows : (arrow_column.flatMap fun chunk =>
      (List.range chunk.length).map (stringRow chunk)) = rows.map (· ++ [0]) := by
    simp only [rows, List.map_flatMap, List.map_map]
    rfl
  obtain ⟨hlen, -, -, hget⟩ := foldl_appendStringRow_reads rows
  have hvalues : (arrow_column.flatMap fun chunk => (List.range chunk.length).map fun i =>
      Value.string (if !chunk.IsNull i then
        (chunk.value_data.drop (chunk.value_offset i)).take (chunk.value_length i) else [])) =
      rows.map .string := by
    simp only [rows, List.map_flatMap, List.map_map]
    rfl
  rw [hvalues]
  show Column.rows (match (arrow_column.flatMap fun chunk =>
      (List.range chunk.length).map (stringRow chunk)).foldl appendStringRow ([], []) with
    | (chars, offsets) => Column.string chars offsets) = _
  rw [hrows]
  refine List.ext_getElem (by simp [Column.size, hlen]) fun r h₁ h₂ => ?_
  simp only [Column.length_rows, Column.size, hlen] at h₁
  simp only [Column.rows, List.getElem_map, List.getElem_range, hget r h₁,
    List.getD_eq_getElem _ _ h₁]

/-! ## The rows of list and map columns -/

/-- The rows of an `Array` column over the element rows `values` whose first row starts
at `s` and whose rows end at `ends`. -/
def arrayRowsFrom (values : List Value) : Nat → List Nat → List Value
  | _, [] => []
  | s, e :: ends => .array (Column.sliceValues values s e) :: arrayRowsFrom values e ends

theorem map_range_eq_arrayRowsFrom (values : List Value) : ∀ (s : Nat) (ends : List Nat),
    (List.range ends.length).map (fun r => Value.array (Column.sliceValues values
      (if r = 0 then s else ends.getD (r - 1) 0) (ends.getD r 0))) = arrayRowsFrom values s ends
  | _, [] => rfl
  | s, e :: ends => by
    rw [List.length_cons, List.range_succ_eq_map, List.map_cons, List.map_map, arrayRowsFrom,
      ← map_range_eq_arrayRowsFrom values e ends]
    congr 1
    refine List.map_congr_left fun r _ => ?_
    cases r <;> rfl

theorem arrayRowsFrom_append (values : List Value) (ends₁ ends₂ : List Nat) : ∀ s,
    arrayRowsFrom values s (ends₁ ++ ends₂) =
      arrayRowsFrom values s ends₁ ++ arrayRowsFrom values (ends₁.getLastD s) ends₂ := by
  induction ends₁ with
  | nil => intro s; rfl
  | cons e ends₁ ih => intro s; rw [List.cons_append, arrayRowsFrom, arrayRowsFrom, ih,
      List.getLastD_cons, List.cons_append]

/-- The rows of one chunk's offsets `x :: ends`, shifted by `s`. -/
theorem arrayRowsFrom_map_add (values : List Value) (s : Nat) : ∀ (x : Nat) (ends : List Nat),
    arrayRowsFrom values (s + x) (ends.map (s + ·)) = (List.range ends.length).map fun i =>
      .array (Column.sliceValues values (s + (x :: ends).getD i 0) (s + ends.getD i 0))
  | _, [] => rfl
  | x, e :: ends => by
    rw [List.map_cons, arrayRowsFrom, arrayRowsFrom_map_add values s e ends, List.length_cons,
      List.range_succ_eq_map, List.map_cons, List.map_map]
    rfl

/-- A slice of the element rows that lies within one chunk's values. -/
theorem sliceValues_append {before values after : List Value} {x y : Nat}
    (hy : y ≤ values.length) :
    Column.sliceValues (before ++ values ++ after) (before.length + x) (before.length + y) =
      Column.sliceValues values x y := by
  unfold Column.sliceValues
  rw [Nat.add_sub_add_left]
  refine List.map_congr_left fun k hk => ?_
  have hk := List.mem_range.1 hk
  rw [List.append_assoc, Nat.add_assoc, List.getD_append_right _ _ _ _ (Nat.le_add_right _ _),
    Nat.add_sub_cancel_left, List.getD_append _ _ _ _ (by omega)]

theorem getLastD_map_add (ends : List Nat) (s : Nat) :
    (ends.map (s + ·)).getLastD s = s + ends.getLastD 0 := by
  rcases List.eq_nil_or_concat ends with rfl | ⟨l, a, rfl⟩
  · rfl
  · simp [List.getLastD_concat]

/-- The values of a chunk's values child, as the element column of the list holds them. -/
def childValues (value_field : Field) (a : Arrow.Array) : List Value :=
  (List.range a.values.length).map (fieldValue value_field a.values)

theorem Arrow.Array.length_offsets {a : Arrow.Array} (h : a.isList) :
    a.offsets.length = a.length + 1 := by
  cases a with
  | list => simp [Arrow.Array.offsets, Arrow.Array.length]
  | _ => cases h

/-- A list chunk whose offsets start at 0 reads, within the element rows, as its rows. -/
theorem arrayRowsFrom_chunk {value_field : Field} {a : Arrow.Array} (before after : List Value)
    (ha : listChunkUnsliced a) :
    arrayRowsFrom (before ++ childValues value_field a ++ after) before.length
        ((a.offsets.drop 1).map (before.length + ·)) =
      (List.range a.length).map (typeValue (.list value_field) a) := by
  simp only [listChunkUnsliced, Bool.and_eq_true, decide_eq_true_eq, beq_iff_eq,
    lastArrowOffset] at ha
  obtain ⟨⟨⟨hlist, hsorted⟩, hlast⟩, hhead⟩ := ha
  have hlen := Arrow.Array.length_offsets hlist
  obtain ⟨offsets, hoffsets⟩ : ∃ offsets, a.offsets = 0 :: offsets := by
    cases h : a.offsets with
    | nil => simp [h] at hhead
    | cons x offsets => simp only [h, List.head?_cons, Option.some.injEq] at hhead; exact ⟨offsets, by rw [hhead]⟩
  rw [hoffsets, List.length_cons, Nat.add_right_cancel_iff] at hlen
  rw [hoffsets] at hsorted hlast
  have hbound : ∀ i < offsets.length, offsets.getD i 0 ≤ (childValues value_field a).length := by
    intro i hi
    rw [childValues, List.length_map, List.length_range, ← hlast, List.getD_eq_getElem _ _ hi]
    exact le_getLastD_of_sorted hsorted.of_cons (List.getElem_mem _)
  have hrows := arrayRowsFrom_map_add (before ++ childValues value_field a ++ after) before.length 0
    offsets
  simp only [Nat.add_zero] at hrows
  rw [hoffsets, List.drop_one, List.tail_cons, hrows, ← hlen]
  refine List.map_congr_left fun i hi => ?_
  have hi := List.mem_range.1 hi
  rw [sliceValues_append (hbound i hi)]
  simp only [typeValue, hoffsets, List.getD_cons_succ, Value.array.injEq, Column.sliceValues]
  refine List.map_congr_left fun k hk => ?_
  have hk : (0 :: offsets).getD i 0 + k < (childValues value_field a).length := by
    have := List.mem_range.1 hk
    have := hbound i hi
    omega
  rw [List.getD_eq_getElem _ _ hk]
  simp [childValues]

theorem length_childValues (value_field : Field) (a : Arrow.Array) :
    (childValues value_field a).length = a.values.length := by
  simp [childValues]

/-- The list chunks from `before`'s end on read, within the element rows, as their rows. -/
theorem arrayRowsFrom_listOffsetsFrom (value_field : Field) :
    ∀ (before : List Value) (chunks : ChunkedArray), (∀ a ∈ chunks, listChunkUnsliced a) →
      arrayRowsFrom (before ++ chunks.flatMap (childValues value_field)) before.length
          (listOffsetsFrom (fun chunk => chunk.values.length) before.length chunks) =
        typeValues (.list value_field) chunks
  | _, [], _ => rfl
  | before, a :: chunks, hvalid => by
    have ha := hvalid a (List.mem_cons_self _ _)
    have hlast : ((a.offsets.drop 1).map (before.length + ·)).getLastD before.length =
        (before ++ childValues value_field a).length := by
      rw [getLastD_map_add, List.length_append, length_childValues,
        ← (listChunkUnsliced_spec ha).2, lastArrowOffset]
    rw [listOffsetsFrom, arrayRowsFrom_append, List.flatMap_cons, ← List.append_assoc,
      arrayRowsFrom_chunk _ _ ha, hlast, ← length_childValues value_field a, ← List.length_append,
      arrayRowsFrom_listOffsetsFrom value_field _ chunks fun c hc =>
        hvalid c (List.mem_cons_of_mem _ hc)]
    rfl

/-- An `Array` column of the converted values children, with the offsets
`readOffsetsFromArrowListColumn` computes, reads as the list rows of chunks whose offsets
start at 0 and end at their values' size. -/
theorem rows_listColumn {value_field : Field} {arrow_column : ChunkedArray} {data : Column}
    (hvalid : ∀ a ∈ arrow_column, listChunkUnsliced a)
    (hdata : data.rows = columnValues value_field (getNestedArrowColumn arrow_column)) :
    (Column.array data (readOffsetsFromArrowListColumn arrow_column)).rows =
      typeValues (.list value_field) arrow_column := by
  have hsize : data.size = ChunkedArray.length (getNestedArrowColumn arrow_column) := by
    rw [← Column.length_rows, hdata, columnValues]
    exact length_flatMap_range _ _
  obtain ⟨-, hsorted, hlast⟩ :=
    offsets_converted (fun a ha => (listChunkUnsliced_spec (hvalid a ha)).1) hsize
  have hoffsets := readOffsetsFromArrowListColumn_of_unsliced arrow_column fun a ha =>
    (listChunkUnsliced_spec (hvalid a ha)).2
  have hvalues : data.rows = arrow_column.flatMap (childValues value_field) := by
    rw [hdata, columnValues, getNestedArrowColumn, List.flatMap_map]
    rfl
  rw [Column.rows_array fun x hx => (le_getLastD_of_sorted hsorted hx).trans hlast]
  simp only [Column.rowStart]
  rw [map_range_eq_arrayRowsFrom, hvalues, hoffsets]
  exact arrayRowsFrom_listOffsetsFrom value_field [] arrow_column hvalid

/-! ## The rows of struct columns -/

/-- The values of the members `j`, `j + 1`, … of a struct's chunks, one list per
member: what the converted members hold. -/
def membersColumnValues : List Field → Nat → ChunkedArray → List (List Value)
  | [], _, _ => []
  | field :: fields, j, arrow_column =>
    columnValues field (arrow_column.map (·.field j)) ::
      membersColumnValues fields (j + 1) arrow_column

theorem membersFaithful_cons {field : Field} {fields : List Field} {j : Nat} {a : Arrow.Array}
    (h : membersFaithful (field :: fields) j a) :
    (a.field j).length = a.length ∧ fieldChunkFaithful field (a.field j) ∧
      membersFaithful fields (j + 1) a := by
  simpa only [membersFaithful, Bool.and_eq_true, beq_iff_eq, and_assoc] using h

theorem length_membersColumnValues (fields : List Field) (j : Nat) (arrow_column : ChunkedArray) :
    (membersColumnValues fields j arrow_column).length = fields.length := by
  induction fields generalizing j with
  | nil => rfl
  | cons _ _ ih => simp [membersColumnValues, ih]

/-- Every member holds a value per row of the struct's chunks. -/
theorem length_of_mem_membersColumnValues {fields : List Field} {j : Nat}
    {arrow_column : ChunkedArray} (h : ∀ a ∈ arrow_column, membersFaithful fields j a) :
    ∀ values ∈ membersColumnValues fields j arrow_column, values.length = arrow_column.length := by
  induction fields generalizing j with
  | nil => simp [membersColumnValues]
  | cons field fields ih =>
    simp only [membersColumnValues, List.mem_cons, forall_eq_or_imp]
    refine ⟨?_, ih fun a ha => (membersFaithful_cons (h a ha)).2.2⟩
    rw [columnValues, length_flatMap_range]
    exact ChunkedArray.length_map_of_length fun a ha => (membersFaithful_cons (h a ha)).1

/-- Row `r` of the members, within the first chunk, is the chunk's row `r`. -/
theorem getD_membersColumnValues_cons {fields : List Field} {j : Nat} {a : Arrow.Array}
    (chunks : ChunkedArray) (h : membersFaithful fields j a) {r : Nat} (hr : r < a.length) :
    (membersColumnValues fields j (a :: chunks)).map (·.getD r .null) = membersValue fields j a r := by
  induction fields generalizing j with
  | nil => rfl
  | cons field fields ih =>
    obtain ⟨hlen, -, hrest⟩ := membersFaithful_cons h
    have hr' : r < ((List.range (a.field j).length).map (fieldValue field (a.field j))).length := by
      simpa [hlen] using hr
    rw [membersColumnValues, List.map_cons, membersValue, ih hrest, columnValues, List.map_cons,
      List.flatMap_cons, List.getD_append _ _ _ _ hr', List.getD_eq_getElem _ _ hr']
    simp

/-- Row `a.length + r` of the members, past the first chunk, is row `r` of the rest. -/
theorem getD_membersColumnValues_cons_add {fields : List Field} {j : Nat} {a : Arrow.Array}
    (chunks : ChunkedArray) (h : membersFaithful fields j a) (r : Nat) :
    (membersColumnValues fields j (a :: chunks)).map (·.getD (a.length + r) .null) =
      (membersColumnValues fields j chunks).map (·.getD r .null) := by
  induction fields generalizing j with
  | nil => rfl
  | cons field fields ih =>
    obtain ⟨hlen, -, hrest⟩ := membersFaithful_cons h
    have hle : ((List.range (a.field j).length).map (fieldValue field (a.field j))).length ≤
        a.length + r := by
      simp [hlen]
    rw [membersColumnValues, membersColumnValues, List.map_cons, List.map_cons, ih hrest,
      columnValues, List.map_cons, List.flatMap_cons, List.getD_append_right _ _ _ _ hle]
    simp [hlen, columnValues]

/-- The tuples of the members' rows, row by row over all chunks, are the struct rows of
each chunk in turn. -/
theorem map_range_tuple_membersColumnValues (fields : List Field) (j : Nat) :
    ∀ arrow_column : ChunkedArray, (∀ a ∈ arrow_column, membersFaithful fields j a) →
      (List.range arrow_column.length).map (fun r =>
          Value.tuple ((membersColumnValues fields j arrow_column).map (·.getD r .null))) =
        arrow_column.flatMap fun a =>
          (List.range a.length).map fun i => .tuple (membersValue fields j a i)
  | [], _ => rfl
  | a :: chunks, h => by
    have ha := h a (List.mem_cons_self _ _)
    rw [ChunkedArray.length_cons, List.range_add, List.map_append, List.map_map, List.flatMap_cons,
      ← map_range_tuple_membersColumnValues fields j chunks fun c hc =>
        h c (List.mem_cons_of_mem _ hc)]
    congr 1
    · exact List.map_congr_left fun r hr =>
        congrArg Value.tuple (getD_membersColumnValues_cons chunks ha (List.mem_range.1 hr))
    · exact List.map_congr_left fun r _ =>
        congrArg Value.tuple (getD_membersColumnValues_cons_add chunks ha r)

/-- A `Tuple` column of members holding the members' values reads as the struct rows. -/
theorem rows_structColumn {fields : List Field} {arrow_column : ChunkedArray}
    {elements : List ColumnWithTypeAndName} (hne : fields ≠ [])
    (hfaithful : ∀ a ∈ arrow_column, membersFaithful fields 0 a)
    (helements : elements.map (·.column.rows) = membersColumnValues fields 0 arrow_column) :
    (Column.tuple (elements.map (·.column))).rows = typeValues (.struct fields) arrow_column := by
  have hlen : elements.length = fields.length := by
    rw [← List.length_map elements (·.column.rows), helements, length_membersColumnValues]
  have hsize : ∀ e ∈ elements.map (·.column), e.size = arrow_column.length := by
    simp only [List.mem_map]
    rintro _ ⟨x, hx, rfl⟩
    rw [← Column.length_rows]
    exact length_of_mem_membersColumnValues hfaithful _ (helements ▸ List.mem_map_of_mem _ hx)
  have hne' : elements.map (·.column) ≠ [] := by
    rw [Ne, List.map_eq_nil_iff, ← List.length_eq_zero, hlen, List.length_eq_zero]
    exact hne
  have hrow : ∀ r, (elements.map (·.column)).map (fun e => e.rows.getD r .null) =
      (membersColumnValues fields 0 arrow_column).map (·.getD r .null) := fun r => by
    rw [← helements, List.map_map, List.map_map]
    rfl
  rw [Column.rows_tuple hne' hsize]
  simp only [hrow]
  exact map_range_tuple_membersColumnValues fields 0 arrow_column hfaithful

/-! ## Agreement off the null rows -/

/-- A column with a row per row of the chunks, holding the type's value at every row
that is not null: what a non-nullable reader returns over chunks of a nullable field. -/
def AgreesOffNulls (type : Arrow.DataType) (arrow_column : ChunkedArray) (column : Column) :
    Prop :=
  column.size = arrow_column.length ∧
    maskNulls arrow_column column.rows = maskNulls arrow_column (typeValues type arrow_column)

section AgreesOffNulls

variable {type : Arrow.DataType} {arrow_column : ChunkedArray} {column : Column}

theorem AgreesOffNulls.of_rows (h : column.rows = typeValues type arrow_column) :
    AgreesOffNulls type arrow_column column :=
  ⟨by rw [← Column.length_rows, h, length_typeValues], by rw [h]⟩

theorem agreesOffNulls_nil (h : column.size = 0) : AgreesOffNulls type [] column :=
  ⟨h, rfl⟩

/-- Over chunks without null rows, agreement off the nulls is agreement. -/
theorem AgreesOffNulls.rows_eq (h : AgreesOffNulls type arrow_column column)
    (hno : ∀ a ∈ arrow_column, a.noNulls) : column.rows = typeValues type arrow_column :=
  calc column.rows
    _ = maskNulls arrow_column column.rows :=
      (maskNulls_of_noNulls hno (by rw [Column.length_rows]; exact h.1)).symm
    _ = maskNulls arrow_column (typeValues type arrow_column) := h.2
    _ = typeValues type arrow_column := maskNulls_of_noNulls hno (length_typeValues _ _)

/-- The nullable wrapper turns agreement off the nulls into the nullable field's rows. -/
theorem AgreesOffNulls.rows_nullable (h : AgreesOffNulls type arrow_column column) :
    (Column.nullable column (readByteMapFromArrowColumn arrow_column)).rows =
      maskNulls arrow_column (typeValues type arrow_column) := by
  rw [Column.rows_nullable (h.1.trans (length_readByteMapFromArrowColumn arrow_column).symm)]
  exact h.2

end AgreesOffNulls

/-- The string reader writes no bytes at a null row, and the byte map hides it. -/
theorem agreesOffNulls_readColumnWithStringData {type : Arrow.DataType}
    (arrow_column : ChunkedArray) (column_name : String)
    (htype : ∀ a i, typeValue type a i =
      .string ((a.value_data.drop (a.value_offset i)).take (a.value_length i))) :
    AgreesOffNulls type arrow_column (readColumnWithStringData arrow_column column_name).column := by
  refine ⟨?_, ?_⟩
  · rw [← Column.length_rows, rows_readColumnWithStringData, length_flatMap_range]
  · rw [rows_readColumnWithStringData, typeValues]
    exact maskNulls_flatMap_congr fun a _ i _ hnull => by simp [hnull, htype]

/-- The decimal reader writes 0 at a null row and the source's value in the narrower
width elsewhere. -/
theorem agreesOffNulls_of_readColumnWithDecimalData {type : Arrow.DataType}
    {sourceWidth precision : Nat} {scale : Int} {arrow_column : ChunkedArray}
    {column_name : String} {column : ColumnWithTypeAndName}
    (h : readColumnWithDecimalData sourceWidth precision scale arrow_column column_name =
      .ok column)
    (hw : ∀ a ∈ arrow_column, decimalWidth precision ≤ sourceWidth)
    (htype : ∀ a i, typeValue type a i = .number (signedBits (decimalWidth precision)
      (toSigned (8 * sourceWidth) (a.Value sourceWidth i)))) :
    AgreesOffNulls type arrow_column column.column := by
  refine ⟨?_, ?_⟩
  · rw [← Column.length_rows, rows_of_readColumnWithDecimalData h, length_flatMap_range]
  · rw [rows_of_readColumnWithDecimalData h, typeValues]
    exact maskNulls_flatMap_congr fun a ha i _ hnull => by
      simp [hnull, htype, lowBytes_eq_signedBits a i (hw a ha)]

/-! ## The converter keeps every row's value -/

theorem chunkFaithful_chString (type : Arrow.DataType) (column : ColumnWithTypeAndName)
    (length offset : Nat) (validity : Bitmap) :
    chunkFaithful type (.chString column length offset validity) = false := by
  cases type <;> rfl

theorem fieldChunkFaithful_mk {column_name : String} {type : Arrow.DataType} {nullable : Bool}
    {a : Arrow.Array} (h : fieldChunkFaithful (.mk column_name type nullable) a) :
    (nullable = false → a.noNulls) ∧ chunkFaithful type a := by
  simp only [fieldChunkFaithful, Bool.and_eq_true, Bool.or_eq_true] at h
  exact ⟨fun hn => by simpa [hn] using h.1, h.2⟩

/-- The `CHStringArray` fast path is never taken on chunks read faithfully. -/
theorem fastPath_faithful {S : Prop} {type : Arrow.DataType} {R : ColumnWithTypeAndName → Prop}
    {column_name : String} {arrow_column : ChunkedArray} {body : ConvM ColumnWithTypeAndName}
    (hbody : Keeps (fun _ => True)
      (fun column => S ∧ (∀ a ∈ arrow_column, chunkFaithful type a) → R column) body) :
    Keeps (fun _ => True) (fun column => S ∧ (∀ a ∈ arrow_column, chunkFaithful type a) → R column)
      (match arrow_column.head? with
        | some (.chString column _ _ _) => Pure.pure { column with name := column_name }
        | _ => body) :=
  Keeps.fastPath (fun _ _ _ _ h ⟨_, hfaithful⟩ =>
    absurd (hfaithful _ (List.mem_of_mem_head? h)) (by simp [chunkFaithful_chString])) hbody

/-- A fixed-width chunk read faithfully starts at offset 0. -/
theorem offset_eq_zero_of_faithful {a : Arrow.Array}
    (h : (!a.isCHString && a.offset == 0) = true) : a.offset = 0 := by
  simp only [Bool.and_eq_true, beq_iff_eq] at h
  exact h.2

/-- A type no chunk is read faithfully as has only the empty chunked array. -/
theorem eq_nil_of_chunkFaithful {type : Arrow.DataType} {arrow_column : ChunkedArray}
    (h : ∀ a ∈ arrow_column, chunkFaithful type a) (htype : ∀ a, chunkFaithful type a = false) :
    arrow_column = [] :=
  List.eq_nil_iff_forall_not_mem.2 fun a ha => by simpa [htype] using h a ha

/-- The `LowCardinality` column of the dictionary case, whose chunks are never read
faithfully: over no chunk it has no row. -/
theorem lowCardinality_faithful (column_name : String) (index_type value_type : Arrow.DataType)
    (arrow_column : ChunkedArray) (dict_values : ColumnWithTypeAndName) :
    Keeps (fun _ => True) (fun column =>
        typeSupported (.dictionary index_type value_type) ∧
            (∀ a ∈ arrow_column, chunkFaithful (.dictionary index_type value_type) a) →
          AgreesOffNulls (.dictionary index_type value_type) arrow_column column.column ∧
            TupleShape (.dictionary index_type value_type) column.column)
      (do
        let indexes_column ← ConvM.ofExcept
          (readColumnWithIndexesData index_type (arrow_column.map Arrow.Array.indices))
        let lc_type ← ConvM.ofExcept (DataTypeLowCardinality.create dict_values.type)
        pure (⟨.lowCardinality dict_values.column indexes_column.vectorData, lc_type,
          column_name⟩ : ColumnWithTypeAndName)) :=
  (Keeps.ofExcept fun _ h => length_of_readColumnWithIndexesData h).bind fun _ hindexes =>
    (Keeps.triv _).bind fun _ _ => Keeps.pure fun ⟨_, hfaithful⟩ => by
      obtain rfl := eq_nil_of_chunkFaithful hfaithful fun _ => rfl
      exact ⟨agreesOffNulls_nil hindexes, trivial⟩

section Converter

variable (bounds : DateBounds)

mutual
/-- A conversion of a supported field over chunks it reads faithfully returns, when it
returns, the chunks' rows. -/
theorem readColumnFromArrowColumn_faithful : ∀ (field : Field) (arrow_column : ChunkedArray)
    (format_name : String) (read_ints_as_dates : Bool),
    Keeps (fun _ => True) (fun column =>
        fieldSupported field ∧ (∀ a ∈ arrow_column, fieldChunkFaithful field a) →
          column.column.rows = columnValues field arrow_column ∧
            (field.nullable = false → TupleShape field.type column.column))
      (readColumnFromArrowColumn bounds field arrow_column format_name read_ints_as_dates)
  | .mk column_name type is_nullable, arrow_column, format_name, read_ints_as_dates => by
    have h := readNonNullable_faithful column_name type arrow_column format_name
      read_ints_as_dates
    rw [readColumnFromArrowColumn]
    cases is_nullable
    · exact h.mono fun _ hc ⟨hsupp, hfaithful⟩ =>
        have hc := hc ⟨hsupp, fun a ha => (fieldChunkFaithful_mk (hfaithful a ha)).2⟩
        ⟨hc.1.rows_eq fun a ha => (fieldChunkFaithful_mk (hfaithful a ha)).1 rfl, fun _ => hc.2⟩
    · refine Keeps.readNullable h fun _ hc ⟨hsupp, hfaithful⟩ => ⟨?_, fun h => nomatch h⟩
      rw [columnValues_nullable]
      exact (hc ⟨hsupp, fun a ha => (fieldChunkFaithful_mk (hfaithful a ha)).2⟩).1.rows_nullable

/-- A non-nullable conversion of a supported type over chunks it reads faithfully
returns, when it returns, the type's rows off the null rows. -/
theorem readNonNullable_faithful (column_name : String) : ∀ (type : Arrow.DataType)
    (arrow_column : ChunkedArray) (format_name : String) (read_ints_as_dates : Bool),
    Keeps (fun _ => True) (fun column =>
        typeSupported type ∧ (∀ a ∈ arrow_column, chunkFaithful type a) →
          AgreesOffNulls type arrow_column column.column ∧ TupleShape type column.column)
      (readNonNullable bounds column_name type arrow_column format_name read_ints_as_dates)
  | .list value_field, arrow_column, format_name, read_ints_as_dates => by
    rw [readNonNullable]
    refine fastPath_faithful ((readColumnFromArrowColumn_faithful value_field _ format_name
      read_ints_as_dates).bind fun nested hnested =>
        (Keeps.ofExcept fun _ h => (ColumnArray.create_eq_ok h).1).bind fun _ harray =>
          Keeps.pure fun ⟨hsupp, hfaithful⟩ => ⟨.of_rows ?_, trivial⟩)
    simp only [chunkFaithful, Bool.and_eq_true] at hfaithful
    rw [harray]
    refine rows_listColumn (fun a ha => (hfaithful a ha).1) (hnested ⟨hsupp, ?_⟩).1
    simp only [getNestedArrowColumn, List.mem_map]
    rintro _ ⟨a, ha, rfl⟩
    exact (hfaithful a ha).2
  | .map entries, arrow_column, format_name, read_ints_as_dates => by
    rw [readNonNullable]
    refine fastPath_faithful ((readColumnFromArrowColumn_faithful entries _ format_name
      read_ints_as_dates).bind fun nested hnested =>
        (Keeps.ofExcept fun _ h => (ColumnMap.create_eq_ok h).1).bind fun _ hmap =>
          (Keeps.triv _).bind fun _ _ => Keeps.pure fun ⟨hsupp, hfaithful⟩ => ⟨.of_rows ?_, trivial⟩)
    simp only [typeSupported, Bool.and_eq_true] at hsupp
    simp only [chunkFaithful, Bool.and_eq_true] at hfaithful
    obtain ⟨name, key, value, rfl⟩ := isEntriesField_eq hsupp.1
    have hentries : ∀ a ∈ getNestedArrowColumn arrow_column,
        fieldChunkFaithful (.mk name (.struct [key, value]) false) a := by
      simp only [getNestedArrowColumn, List.mem_map]
      rintro _ ⟨a, ha, rfl⟩
      exact (hfaithful a ha).2
    obtain ⟨hrows, hshape⟩ := hnested ⟨hsupp.2, hentries⟩
    obtain ⟨elements, htuple, hlen⟩ := hshape rfl
    obtain ⟨k, v, rfl⟩ : ∃ k v, elements = [k, v] := by
      match elements, hlen with
      | [k, v], _ => exact ⟨k, v, rfl⟩
    rw [htuple] at hrows hmap
    rw [hmap]
    exact rows_listColumn (fun a ha => (hfaithful a ha).1) hrows
  | .struct fields, arrow_column, format_name, read_ints_as_dates => by
    rw [readNonNullable]
    refine fastPath_faithful ((readStructFields_faithful fields 0 arrow_column format_name
      read_ints_as_dates).bind fun elements helements => (Keeps.triv _).bind fun _ _ =>
        Keeps.pure fun ⟨hsupp, hfaithful⟩ => ?_)
    simp only [typeSupported, Bool.and_eq_true, Bool.not_eq_true', List.isEmpty_eq_false] at hsupp
    simp only [chunkFaithful, Bool.and_eq_true] at hfaithful
    have hrows := helements ⟨hsupp.2, fun a ha => (hfaithful a ha).2⟩
    refine ⟨.of_rows (rows_structColumn hsupp.1 (fun a ha => (hfaithful a ha).2) hrows), _, rfl, ?_⟩
    rw [List.length_map, ← List.length_map elements (·.column.rows), hrows,
      length_membersColumnValues]
  | .dictionary index_type value_type, arrow_column, format_name, read_ints_as_dates => by
    rw [readNonNullable]
    refine fastPath_faithful (Keeps.get_bind fun _ _ => ?_)
    have hlow := lowCardinality_faithful column_name index_type value_type arrow_column
    dsimp only
    split
    · exact (Keeps.triv _).bind fun dict_values _ => hlow dict_values
    · exact (Keeps.triv _).bind fun _ _ => (Keeps.triv _).bind fun _ _ =>
        (Keeps.triv _).bind fun _ _ => (Keeps.triv _).bind fun dict_values _ => hlow dict_values
  | .string, arrow_column, _, _ | .binary, arrow_column, _, _ => by
    rw [readNonNullable]
    exact fastPath_faithful (Keeps.pure fun _ =>
      ⟨agreesOffNulls_readColumnWithStringData arrow_column column_name fun _ _ => rfl, trivial⟩)
  | .bool, arrow_column, _, _ => by
    rw [readNonNullable]
    exact fastPath_faithful (Keeps.pure fun _ =>
      ⟨.of_rows (rows_readColumnWithBooleanData arrow_column column_name), trivial⟩)
  | .date64, arrow_column, _, _ => by
    rw [readNonNullable]
    exact fastPath_faithful (Keeps.pure fun _ =>
      ⟨.of_rows (rows_readColumnWithDate64Data arrow_column column_name), trivial⟩)
  | .timestamp unit timezone, arrow_column, _, _ => by
    rw [readNonNullable]
    exact fastPath_faithful (Keeps.pure fun _ =>
      ⟨.of_rows (rows_readColumnWithTimestampData unit timezone arrow_column column_name), trivial⟩)
  | .date32, arrow_column, _, _ => by
    rw [readNonNullable]
    exact fastPath_faithful (Keeps.ofExcept fun _ h ⟨_, hfaithful⟩ =>
      ⟨.of_rows (rows_of_readColumnWithDate32Data h fun a ha =>
        offset_eq_zero_of_faithful (hfaithful a ha)), trivial⟩)
  | .uint16, arrow_column, _, read_ints_as_dates | .uint32, arrow_column, _, read_ints_as_dates => by
    rw [readNonNullable]
    refine fastPath_faithful (Keeps.pure fun ⟨_, hfaithful⟩ => ⟨.of_rows ?_, trivial⟩)
    cases read_ints_as_dates <;>
      exact rows_readColumnWithNumericData fun a ha => offset_eq_zero_of_faithful (hfaithful a ha)
  | .uint8, arrow_column, _, _ | .int8, arrow_column, _, _ | .int16, arrow_column, _, _
  | .int32, arrow_column, _, _ | .uint64, arrow_column, _, _ | .int64, arrow_column, _, _
  | .float, arrow_column, _, _ | .double, arrow_column, _, _ => by
    rw [readNonNullable]
    exact fastPath_faithful (Keeps.pure fun ⟨_, hfaithful⟩ =>
      ⟨.of_rows (rows_readColumnWithNumericData fun a ha =>
        offset_eq_zero_of_faithful (hfaithful a ha)), trivial⟩)
  | .halfFloat, arrow_column, _, _ => by
    rw [readNonNullable]
    refine fastPath_faithful (Keeps.pure fun ⟨_, hfaithful⟩ => ?_)
    obtain rfl := eq_nil_of_chunkFaithful hfaithful fun _ => rfl
    exact ⟨agreesOffNulls_nil rfl, trivial⟩
  | .decimal128 precision _, _, _, _ => by
    rw [readNonNullable]
    refine fastPath_faithful (Keeps.ofExcept fun _ h ⟨_, hfaithful⟩ =>
      ⟨agreesOffNulls_of_readColumnWithDecimalData h (fun a ha => decimalWidth_le_16 ?_)
        fun _ _ => rfl, trivial⟩)
    have := hfaithful a ha
    simp only [chunkFaithful, Bool.and_eq_true, decide_eq_true_eq] at this
    exact this.2
  | .decimal256 precision _, _, _, _ => by
    rw [readNonNullable]
    exact fastPath_faithful (Keeps.ofExcept fun _ h _ =>
      ⟨agreesOffNulls_of_readColumnWithDecimalData h (fun _ _ => decimalWidth_le_32 precision)
        fun _ _ => rfl, trivial⟩)
  | .other _, _, _, _ => by
    rw [readNonNullable]
    exact fastPath_faithful (Keeps.throw _)

/-- The members of a supported struct over chunks read faithfully hold the members'
values. -/
theorem readStructFields_faithful : ∀ (fields : List Field) (i : Nat)
    (arrow_column : ChunkedArray) (format_name : String) (read_ints_as_dates : Bool),
    Keeps (fun _ => True) (fun elements : List ColumnWithTypeAndName =>
        fieldsSupported fields ∧ (∀ a ∈ arrow_column, membersFaithful fields i a) →
          elements.map (·.column.rows) = membersColumnValues fields i arrow_column)
      (readStructFields bounds fields i arrow_column format_name read_ints_as_dates)
  | [], _, _, _, _ => by
    rw [readStructFields]
    exact Keeps.pure fun _ => rfl
  | field :: fields, i, arrow_column, format_name, read_ints_as_dates => by
    rw [readStructFields]
    refine (readColumnFromArrowColumn_faithful field _ format_name read_ints_as_dates).bind
      fun element helement => (readStructFields_faithful fields (i + 1) arrow_column format_name
        read_ints_as_dates).bind fun elements helements => Keeps.pure fun ⟨hsupp, hfaithful⟩ => ?_
    simp only [fieldsSupported, Bool.and_eq_true] at hsupp
    have hmembers := fun a ha => membersFaithful_cons (hfaithful a ha)
    rw [List.map_cons, membersColumnValues,
      helements ⟨hsupp.2, fun a ha => (hmembers a ha).2.2⟩, (helement ⟨hsupp.1, ?_⟩).1]
    simp only [List.mem_map]
    rintro _ ⟨a, ha, rfl⟩
    exact (hmembers a ha).2.1
end

/-- The conversion keeps every row's value: from any cache, converting a supported field
over chunks it reads faithfully returns, when it returns, a column whose rows are the
values of the chunks' rows, chunk after chunk. -/
theorem readColumnFromArrowColumn_rows_eq_columnValues (field : Field)
    (arrow_column : ChunkedArray) (format_name : String) (read_ints_as_dates : Bool)
    (dictionary_values : DictionaryValues) (hfield : fieldSupported field)
    (hchunks : ∀ a ∈ arrow_column, fieldChunkFaithful field a) (column : ColumnWithTypeAndName)
    (hrun : ((readColumnFromArrowColumn bounds field arrow_column format_name
      read_ints_as_dates).run.run dictionary_values).1 = .ok column) :
    column.column.rows = columnValues field arrow_column :=
  ((readColumnFromArrowColumn_faithful bounds field arrow_column format_name read_ints_as_dates
    dictionary_values trivial).2 column hrun ⟨hfield, hchunks⟩).1

end Converter

/-- A struct of a nullable string and a list of `INT32`. -/
def sampleStructField : Field :=
  .mk "s" (.struct [.mk "name" .string true, .mk "tags" (.list (.mk "item" .int32 false)) false])
    false

/-- Two chunks of `sampleStructField`: `{NULL, [1, 2]}` and `{"xy", [3]}`, then
`{"bc", [7]}`, whose string child is a slice starting at its second string. -/
def sampleStructColumn : ChunkedArray :=
  [.struct 2 0 none
      [.binary 2 0 (some [false, true]) [0, 0, 2] [120, 121],
        .list 2 0 none [0, 2, 3] (.primitive 3 0 none [1, 0, 0, 0, 2, 0, 0, 0, 3, 0, 0, 0])],
    .struct 1 0 none
      [.binary 1 1 none [0, 1, 3] [97, 98, 99],
        .list 1 0 none [0, 1] (.primitive 1 0 none [7, 0, 0, 0])]]

example : columnValues sampleStructField sampleStructColumn =
    [.tuple [.null, .array [.number 1, .number 2]], .tuple [.string [120, 121], .array [.number 3]],
      .tuple [.string [98, 99], .array [.number 7]]] := rfl

theorem readColumnFromArrowColumn_rows_eq_columnValues_struct :
    fieldSupported sampleStructField ∧
      (∀ a ∈ sampleStructColumn, fieldChunkFaithful sampleStructField a) ∧
      ∃ column, ((readColumnFromArrowColumn sampleDateBounds sampleStructField sampleStructColumn
          "Parquet" false).run.run fun _ => none).1 = .ok column ∧
        column.column.rows = columnValues sampleStructField sampleStructColumn :=
  ⟨by decide, by decide, _, rfl, readColumnFromArrowColumn_rows_eq_columnValues sampleDateBounds
    sampleStructField sampleStructColumn "Parquet" false (fun _ => none) (by decide) (by decide) _
    rfl⟩

end GlutenBridge
