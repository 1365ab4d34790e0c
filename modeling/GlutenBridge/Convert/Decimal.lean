import GlutenBridge.Convert.Column
import Mathlib.Tactic.NormNum

/-!
# Decimal narrowing

`readColumnWithDecimalData` stores each Arrow decimal in the narrowest ClickHouse
decimal whose maximum precision covers the field's precision, by copying the low
`sizeof(DecimalType)` bytes of the source's 16- or 32-byte two's-complement value.

The copy keeps the value whenever it fits: truncating an `N`-bit two's-complement
pattern to `k` bits keeps every value in `[-2^(k-1), 2^(k-1))` (`toSigned_mod_pow`),
and a value of `p` digits fits the width `decimalWidth p` picks, because
`10^9 < 2^31`, `10^18 < 2^63`, `10^38 < 2^127` and `10^76 < 2^255`
(`ten_pow_le_decimalWidth`).

ClickHouse's `createDecimal` rejects a negative scale or a scale above the precision,
both of which Arrow allows: such a field is not converted at all.
-/

set_option autoImplicit false

namespace GlutenBridge

open Arrow DB

/-! ## Little-endian bytes -/

theorem decodeLE_lt (bs : List UInt8) : decodeLE bs < 2 ^ (8 * bs.length) := by
  induction bs with
  | nil => simp [decodeLE]
  | cons b bs ih =>
    have hb : b.toNat < 256 := b.toNat_lt_size
    rw [decodeLE, List.length_cons, Nat.mul_succ, Nat.pow_add, Nat.mul_comm]
    omega

/-- The first `w` bytes of a little-endian number are the number modulo `2^(8w)`. -/
theorem decodeLE_take (bs : List UInt8) (w : Nat) :
    decodeLE (bs.take w) = decodeLE bs % 2 ^ (8 * w) := by
  induction bs generalizing w with
  | nil => simp [decodeLE]
  | cons b bs ih =>
    cases w with
    | zero => simp [decodeLE, Nat.mod_one]
    | succ w =>
      have hb : b.toNat < 256 := b.toNat_lt_size
      rw [List.take_succ_cons, decodeLE, decodeLE, ih, Nat.mul_succ, Nat.pow_add,
        Nat.mul_comm (2 ^ (8 * w)), Nat.mod_mul]
      norm_num [Nat.add_mul_div_left _ _ (by norm_num : 0 < 256), Nat.div_eq_of_lt hb,
        Nat.mod_eq_of_lt hb]

/-- The bytes the decimal reader keeps are the source value modulo `2^(8 width)`. -/
theorem lowBytes_eq (a : Arrow.Array) (sourceWidth width i : Nat) :
    a.lowBytes sourceWidth width i = a.Value sourceWidth i % 2 ^ (8 * width) :=
  decodeLE_take _ width

theorem Value_lt (a : Arrow.Array) (width i : Nat) : a.Value width i < 2 ^ (8 * width) :=
  lt_of_lt_of_le (decodeLE_lt _)
    (Nat.pow_le_pow_right (by norm_num) (Nat.mul_le_mul_left 8 (List.length_take_le _ _)))

/-! ## Two's-complement truncation -/

/-- Truncating an `N`-bit two's-complement pattern to `k ≤ N` bits keeps its value when
the value is representable in `k` bits. -/
theorem toSigned_mod_pow {N k n : Nat} (hk : 0 < k) (hkN : k ≤ N) (hn : n < 2 ^ N)
    (hlo : -(2 ^ (k - 1) : Int) ≤ toSigned N n) (hhi : toSigned N n < 2 ^ (k - 1)) :
    toSigned k (n % 2 ^ k) = toSigned N n := by
  have hK : (2 : Nat) ^ k = 2 * 2 ^ (k - 1) := by rw [← pow_succ']; congr 1; omega
  have hM : (2 : Nat) ^ N = 2 * 2 ^ (N - 1) := by rw [← pow_succ']; congr 1; omega
  have hab : 2 ^ (k - 1) ≤ 2 ^ (N - 1) := Nat.pow_le_pow_right (by norm_num) (by omega)
  -- `2^N = 2^k * q`; `t` is the last multiple of `2^k` below `2^N`
  obtain ⟨q, hq⟩ : 2 ^ k ∣ 2 ^ N := pow_dvd_pow 2 hkN
  have hq1 : 1 ≤ q := Nat.pos_of_ne_zero (by rintro rfl; simp at hq)
  obtain ⟨t, ht⟩ : ∃ t, 2 ^ k * (q - 1) = t := ⟨_, rfl⟩
  have htq : t + 2 ^ k = 2 ^ N := by rw [hq, ← ht, ← Nat.mul_succ]; congr 1; omega
  unfold toSigned at hlo hhi ⊢
  have hcast : ∀ m, (2 : Int) ^ m = ((2 ^ m : Nat) : Int) := fun m => by push_cast; rfl
  simp only [hcast] at hlo hhi
  generalize 2 ^ (k - 1) = a at *
  generalize 2 ^ (N - 1) = b at *
  generalize 2 ^ k = K at *
  generalize 2 ^ N = M at *
  subst hK hM
  have hmod : n % (2 * a) = if n < b then n else n - t := by
    split_ifs with hnb
    · exact Nat.mod_eq_of_lt (by omega)
    · rw [show n = t + (n - t) by omega, ← ht, Nat.mul_add_mod, Nat.mod_eq_of_lt (by omega)]
      omega
  rw [hmod]
  split_ifs at hlo hhi ⊢ <;> omega

/-! ## The width `readColumnWithDecimalData` picks -/

/-- The maximum precision of the ClickHouse decimal of `width` bytes. -/
def maxPrecisionOfWidth (width : Nat) : Nat :=
  if width = 4 then maxPrecision32
  else if width = 8 then maxPrecision64
  else if width = 16 then maxPrecision128
  else maxPrecision256

/-- `decimalWidth p` is the narrowest of the four widths whose maximum precision
covers `p`. -/
theorem decimalWidth_narrowest {p : Nat} (hp : p ≤ maxPrecision256) :
    p ≤ maxPrecisionOfWidth (decimalWidth p) ∧
      ∀ w ∈ [4, 8, 16, 32], p ≤ maxPrecisionOfWidth w → decimalWidth p ≤ w := by
  -- a check of each of the 77 precisions
  revert p
  decide

/-- Every value of `p` digits is representable in the width `decimalWidth p` picks. -/
theorem ten_pow_le_decimalWidth {p : Nat} (hp : p ≤ maxPrecision256) :
    10 ^ p ≤ 2 ^ (8 * decimalWidth p - 1) := by
  unfold decimalWidth maxPrecision32 maxPrecision64 maxPrecision128
  unfold maxPrecision256 at hp
  split_ifs with h9 h18 h38
  · exact (Nat.pow_le_pow_right (by norm_num) h9).trans (by norm_num)
  · exact (Nat.pow_le_pow_right (by norm_num) h18).trans (by norm_num)
  · exact (Nat.pow_le_pow_right (by norm_num) h38).trans (by norm_num)
  · exact (Nat.pow_le_pow_right (by norm_num) hp).trans (by norm_num)

theorem decimalWidth_pos (p : Nat) : 0 < decimalWidth p := by
  unfold decimalWidth; split_ifs <;> omega

/-! ## The converter on a decimal field -/

theorem createDecimal_of_le {p : Nat} {s : Int} (hp : 0 < p) (hp76 : p ≤ maxPrecision256)
    (hs : 0 ≤ s) (hsp : s ≤ p) : createDecimal p s = .ok (.decimal p s.toNat) := by
  unfold createDecimal
  rw [if_neg (by omega), if_neg (by omega)]

/-- Row `i` of a decimal chunk as the converter stores it, read back as a signed value
of the backing width, is the source's value. -/
theorem toSigned_lowBytes {sourceWidth p : Nat} (a : Arrow.Array) (i : Nat)
    (hw : decimalWidth p ≤ sourceWidth) (hp : p ≤ maxPrecision256)
    (hlo : -(10 ^ p : Int) < toSigned (8 * sourceWidth) (a.Value sourceWidth i))
    (hhi : toSigned (8 * sourceWidth) (a.Value sourceWidth i) < 10 ^ p) :
    toSigned (8 * decimalWidth p) (a.lowBytes sourceWidth (decimalWidth p) i) =
      toSigned (8 * sourceWidth) (a.Value sourceWidth i) := by
  have hb : (10 ^ p : Int) ≤ 2 ^ (8 * decimalWidth p - 1) := by
    exact_mod_cast ten_pow_le_decimalWidth hp
  rw [lowBytes_eq]
  exact toSigned_mod_pow (by have := decimalWidth_pos p; omega) (by omega) (Value_lt a _ _)
    (by omega) (by omega)

/-- The non-nullable conversion of a decimal field of a valid precision and scale: a
`ColumnDecimal` of the width `decimalWidth` picks, holding each row's low bytes. -/
theorem readNonNullable_decimal (bounds : DateBounds) (column_name format_name : String)
    (read_ints_as_dates : Bool) (dictionary_values : DictionaryValues)
    {type : Arrow.DataType} {sourceWidth p : Nat} {s : Int} (arrow_column : ChunkedArray)
    (htype : type = .decimal128 p s ∧ sourceWidth = 16 ∨
      type = .decimal256 p s ∧ sourceWidth = 32)
    (hp : 0 < p) (hp76 : p ≤ maxPrecision256) (hs : 0 ≤ s) (hsp : s ≤ p)
    (hchunks : ∀ chunk ∈ arrow_column, chunk.isPrimitive) :
    (readNonNullable bounds column_name type arrow_column format_name read_ints_as_dates).run.run
      dictionary_values =
      (.ok (readColumnWithDecimalDataImpl (decimalWidth p) sourceWidth arrow_column column_name
        (.decimal p s.toNat)), dictionary_values) := by
  have hhead : ∀ c l o v, arrow_column.head? ≠ some (.chString c l o v) := by
    intro c l o v h
    have := hchunks _ (List.mem_of_mem_head? h)
    simp [Arrow.Array.isPrimitive] at this
  rcases htype with ⟨rfl, rfl⟩ | ⟨rfl, rfl⟩ <;>
  · rw [readNonNullable]
    split
    · exact absurd ‹_› (hhead _ _ _ _)
    · simp [readColumnWithDecimalData, createDecimal_of_le hp hp76 hs hsp, ConvM.ofExcept]
      rfl

/-- The values a decimal chunked array holds, row after row: the source's
two's-complement value, and 0 for a null row. -/
def decimalValues (sourceWidth : Nat) (arrow_column : ChunkedArray) : List Int :=
  arrow_column.flatMap fun chunk => (List.range chunk.length).map fun i =>
    if chunk.IsNull i then 0 else toSigned (8 * sourceWidth) (chunk.Value sourceWidth i)

/-- The converted decimal column, wrapped in `Nullable` for a nullable field. -/
def decimalColumn (column_name : String) (is_nullable : Bool) (arrow_column : ChunkedArray)
    (width : Nat) (data : List Nat) (type : DB.DataType) : ColumnWithTypeAndName :=
  if is_nullable then
    ⟨.nullable (.vector width data) (readByteMapFromArrowColumn arrow_column), .nullable type,
      column_name⟩
  else ⟨.vector width data, type, column_name⟩

/-- Decimal narrowing keeps every value: a `DECIMAL128` or `DECIMAL256` field of
precision `p` and scale `0 ≤ s ≤ p` whose non-null values have at most `p` digits is
converted, without touching the dictionary cache, to a decimal column of the narrowest
width covering `p`, whose rows read back as the source values, 0 at null rows. -/
theorem readColumnFromArrowColumn_decimal_within_precision (bounds : DateBounds)
    (column_name format_name : String) (is_nullable read_ints_as_dates : Bool)
    (dictionary_values : DictionaryValues) (type : Arrow.DataType) (sourceWidth p : Nat)
    (s : Int) (arrow_column : ChunkedArray)
    (htype : type = .decimal128 p s ∧ sourceWidth = 16 ∧ p ≤ maxPrecision128 ∨
      type = .decimal256 p s ∧ sourceWidth = 32 ∧ p ≤ maxPrecision256)
    (hp : 0 < p) (hs : 0 ≤ s) (hsp : s ≤ p)
    (hchunks : ∀ chunk ∈ arrow_column, chunk.isPrimitive)
    (hvalues : ∀ chunk ∈ arrow_column, ∀ i < chunk.length, chunk.IsNull i = false →
      -(10 ^ p : Int) < toSigned (8 * sourceWidth) (chunk.Value sourceWidth i) ∧
        toSigned (8 * sourceWidth) (chunk.Value sourceWidth i) < 10 ^ p) :
    (p ≤ maxPrecisionOfWidth (decimalWidth p) ∧
      ∀ w ∈ [4, 8, 16, 32], p ≤ maxPrecisionOfWidth w → decimalWidth p ≤ w) ∧
    ∃ data : List Nat,
      (readColumnFromArrowColumn bounds ⟨column_name, type, is_nullable⟩ arrow_column
          format_name read_ints_as_dates).run.run dictionary_values =
        (.ok (decimalColumn column_name is_nullable arrow_column (decimalWidth p) data
          (.decimal p s.toNat)), dictionary_values) ∧
      data.map (toSigned (8 * decimalWidth p)) = decimalValues sourceWidth arrow_column := by
  have hp76 : p ≤ maxPrecision256 := by
    rcases htype with ⟨-, -, h⟩ | ⟨-, -, h⟩ <;> simp only [maxPrecision128, maxPrecision256] at * <;> omega
  have hw : decimalWidth p ≤ sourceWidth := by
    rcases htype with ⟨-, rfl, h⟩ | ⟨-, rfl, -⟩
    · exact decimalWidth_le_16 h
    · exact decimalWidth_le_32 p
  have hnn := readNonNullable_decimal bounds column_name format_name read_ints_as_dates
    dictionary_values arrow_column (htype.imp (fun h => ⟨h.1, h.2.1⟩) (fun h => ⟨h.1, h.2.1⟩))
    hp hp76 hs hsp hchunks
  refine ⟨decimalWidth_narrowest hp76, arrow_column.flatMap fun chunk =>
    (List.range chunk.length).map fun i =>
      if chunk.IsNull i then 0 else chunk.lowBytes sourceWidth (decimalWidth p) i, ?_, ?_⟩
  · rw [readColumnFromArrowColumn]
    cases is_nullable
    · exact hnn
    · rw [if_pos rfl, readNullable_run, hnn]
      rfl
  · rw [List.map_flatMap, decimalValues]
    refine List.flatMap_congr fun chunk hchunk => ?_
    rw [List.map_map]
    refine List.map_congr_left fun i hi => ?_
    simp only [Function.comp_apply]
    split_ifs with hnull
    · simp [toSigned]
    · have := hvalues chunk hchunk i (List.mem_range.mp hi) (by simpa using hnull)
      exact toSigned_lowBytes chunk i hw hp76 this.1 this.2

/-- A nullable `DECIMAL128(5, 2)` column of two rows: `-123.45` and a null. -/
def sampleDecimalColumn : ChunkedArray :=
  [.primitive 2 0 (some [true, false]) (0xC7 :: 0xCF :: List.replicate 30 0xFF)]

theorem readColumnFromArrowColumn_decimal_within_precision_sample :
    (∀ chunk ∈ sampleDecimalColumn, ∀ i < chunk.length, chunk.IsNull i = false →
      -(10 ^ 5 : Int) < toSigned (8 * 16) (chunk.Value 16 i) ∧
        toSigned (8 * 16) (chunk.Value 16 i) < 10 ^ 5) ∧
    (5 ≤ maxPrecisionOfWidth (decimalWidth 5) ∧
      ∀ w ∈ [4, 8, 16, 32], 5 ≤ maxPrecisionOfWidth w → decimalWidth 5 ≤ w) ∧
    ∃ data : List Nat,
      (readColumnFromArrowColumn sampleDateBounds ⟨"price", .decimal128 5 2, true⟩
          sampleDecimalColumn "Parquet" false).run.run (fun _ => none) =
        (.ok (decimalColumn "price" true sampleDecimalColumn (decimalWidth 5) data
          (.decimal 5 (2 : Int).toNat)), fun _ => none) ∧
      data.map (toSigned (8 * decimalWidth 5)) = decimalValues 16 sampleDecimalColumn :=
  ⟨by decide, readColumnFromArrowColumn_decimal_within_precision sampleDateBounds "price"
    "Parquet" true false (fun _ => none) _ 16 5 2 sampleDecimalColumn (.inl ⟨rfl, rfl, by decide⟩)
    (by decide) (by decide) (by decide) (by decide) (by decide)⟩

/-- The stored value of the sample's first row is `-12345` in four bytes. -/
example : decimalValues 16 sampleDecimalColumn = [-12345, 0] := by decide

/-- A `DECIMAL128(5, -1)` field, which Arrow allows (the stored 12345 stands for
123450), is not converted: `createDecimal` throws. -/
theorem readColumnFromArrowColumn_decimal_negative_scale :
    ((readColumnFromArrowColumn sampleDateBounds ⟨"d", .decimal128 5 (-1), false⟩
        [.primitive 1 0 none (0x39 :: 0x30 :: List.replicate 14 0)] "Parquet" false).run.run
        fun _ => none).1 =
      .error ⟨.ARGUMENT_OUT_OF_BOUND,
        "Negative scales and scales larger than precision are not supported"⟩ :=
  rfl

end GlutenBridge
