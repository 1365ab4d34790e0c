import GlutenBridge.Convert.Keeps
import GlutenBridge.Convert.ListOffsets
import GlutenBridge.Convert.Numeric

/-!
# Row counts and well-formed columns

`readColumnFromArrowColumn` returns a column with one row per row of the chunked array
it converts, and a well-formed one (`Column.WellFormed`), for every field of a
supported type (`fieldSupported`: every struct has a member and every map an entries
field of a key and a value) and every chunked array whose chunks have the layout of
the type (`fieldChunkValid`): list and map chunks whose offsets are sorted and end
within their values child, struct children covering the struct's rows,
dictionary-encoded chunks, and no `CHStringArray`. A list chunk whose values child
extends past its last offset is converted to elements that the offsets do not reach,
and `ColumnArray::create` throws on it unless the column has no rows; so a returned
array's last offset is the size of its elements whenever it has a row.

The proof follows the converter's recursion on the field's type with the rules of
`Keeps`, for the cache invariant that every cached dictionary is well-formed
(`CacheWellFormed`). Since every conversion keeps that invariant, it holds of every
cache a session reaches (`CacheReachable`).

The well-formedness of a `LowCardinality` column says nothing of its indexes: they
are the raw Arrow indices, read against the rebuilt `ColumnUnique` or against a
dictionary cached under the same local name by an earlier column.
-/

set_option autoImplicit false

namespace GlutenBridge

open Arrow DB

/-! ## Supported types and valid chunks -/

/-- A map's entries field: a non-nullable struct of a key and a value. -/
def isEntriesField : Field → Bool
  | .mk _ (.struct [_, _]) false => true
  | _ => false

theorem isEntriesField_eq {entries : Field} (h : isEntriesField entries) :
    ∃ name key value, entries = .mk name (.struct [key, value]) false := by
  unfold isEntriesField at h
  split at h
  · exact ⟨_, _, _, rfl⟩
  · cases h

mutual
/-- The types the converter has a case for, with a member in every struct and an
entries field in every map. -/
def typeSupported : Arrow.DataType → Bool
  | .list value_field => fieldSupported value_field
  | .map entries => isEntriesField entries && fieldSupported entries
  | .struct fields => !fields.isEmpty && fieldsSupported fields
  | .other _ => false
  | _ => true

def fieldSupported : Field → Bool
  | .mk _ type _ => typeSupported type

def fieldsSupported : List Field → Bool
  | [] => true
  | field :: fields => fieldSupported field && fieldsSupported fields
end

/-- A list or map chunk whose Arrow offsets are sorted and end within its values
child. -/
def listChunkValid (a : Arrow.Array) : Bool :=
  a.isList && decide (a.offsets.Sorted (· ≤ ·)) && decide (lastArrowOffset a ≤ a.values.length)

mutual
/-- A chunk has the layout of the type. -/
def chunkValid : Arrow.DataType → Arrow.Array → Bool
  | .list value_field, a | .map value_field, a =>
    listChunkValid a && fieldChunkValid value_field a.values
  | .struct fields, a => a.isStruct && membersValid fields 0 a
  | .dictionary _ _, a => a.isDictEncoded
  | _, a => !a.isCHString

def fieldChunkValid : Field → Arrow.Array → Bool
  | .mk _ type _, a => chunkValid type a

/-- The members `i`, `i + 1`, … of a struct chunk have the struct's rows and the
layout of their fields. -/
def membersValid : List Field → Nat → Arrow.Array → Bool
  | [], _, _ => true
  | field :: fields, i, a =>
    (a.field i).length == a.length && fieldChunkValid field (a.field i) &&
      membersValid fields (i + 1) a
end

theorem chunkValid_chString (type : Arrow.DataType) (column : ColumnWithTypeAndName)
    (length offset : Nat) (validity : Bitmap) :
    chunkValid type (.chString column length offset validity) = false := by
  cases type <;> rfl

/-! ## Row counts -/

theorem length_flatMap_range {β : Type} (arrow_column : ChunkedArray)
    (f : Arrow.Array → Nat → β) :
    (arrow_column.flatMap fun chunk => (List.range chunk.length).map (f chunk)).length =
      arrow_column.length := by
  induction arrow_column with
  | nil => rfl
  | cons chunk chunks ih => simp [ih]

theorem ChunkedArray.length_map_of_length {f : Arrow.Array → Arrow.Array}
    {arrow_column : ChunkedArray} (h : ∀ a ∈ arrow_column, (f a).length = a.length) :
    ChunkedArray.length (arrow_column.map f) = arrow_column.length := by
  induction arrow_column with
  | nil => rfl
  | cons a c ih =>
    simp only [List.map_cons, ChunkedArray.length_cons, h a (List.mem_cons_self _ _),
      ih fun b hb => h b (List.mem_cons_of_mem _ hb)]

theorem Arrow.Array.length_indices {a : Arrow.Array} (h : a.isDictEncoded) :
    a.indices.length = a.length := by
  cases a <;> first | rfl | cases h

theorem length_readByteMapFromArrowColumn (arrow_column : ChunkedArray) :
    (readByteMapFromArrowColumn arrow_column).length = arrow_column.length :=
  length_flatMap_range _ _

theorem length_foldl_appendStringRow (rows : List (List UInt8)) (acc : List UInt8 × List Nat) :
    (rows.foldl appendStringRow acc).2.length = acc.2.length + rows.length := by
  induction rows generalizing acc with
  | nil => rfl
  | cons row rows ih => simp [ih, appendStringRow]; omega

@[simp] theorem size_readColumnWithNumericData (width : Nat) (type : DB.DataType)
    (arrow_column : ChunkedArray) (column_name : String) :
    (readColumnWithNumericData width type arrow_column column_name).column.size =
      arrow_column.length := by
  rw [readColumnWithNumericData_column]
  exact length_flatMap_range _ _

@[simp] theorem size_readColumnWithStringData (arrow_column : ChunkedArray)
    (column_name : String) :
    (readColumnWithStringData arrow_column column_name).column.size = arrow_column.length := by
  show (List.foldl appendStringRow ([], []) _).2.length = _
  rw [length_foldl_appendStringRow, length_flatMap_range]
  exact Nat.zero_add _

@[simp] theorem size_readColumnWithBooleanData (arrow_column : ChunkedArray)
    (column_name : String) :
    (readColumnWithBooleanData arrow_column column_name).column.size = arrow_column.length := by
  show List.length (List.flatMap _ _) = _
  rw [← length_flatMap_range arrow_column fun chunk i => if chunk.boolValue i then 1 else 0]
  congr 2
  funext chunk
  split <;> simp_all

@[simp] theorem size_readColumnWithDate64Data (arrow_column : ChunkedArray)
    (column_name : String) :
    (readColumnWithDate64Data arrow_column column_name).column.size = arrow_column.length :=
  length_flatMap_range _ _

@[simp] theorem size_readColumnWithTimestampData (unit : TimeUnit) (timezone : String)
    (arrow_column : ChunkedArray) (column_name : String) :
    (readColumnWithTimestampData unit timezone arrow_column column_name).column.size =
      arrow_column.length :=
  length_flatMap_range _ _

theorem size_of_readColumnWithDate32Data {bounds : DateBounds} {arrow_column : ChunkedArray}
    {column_name : String} {column : ColumnWithTypeAndName}
    (h : readColumnWithDate32Data bounds arrow_column column_name = .ok column) :
    column.column.size = arrow_column.length ∧ column.column.WellFormed := by
  obtain rfl := readColumnWithDate32Data_eq_ok h
  exact ⟨length_flatMap_range _ _, trivial⟩

theorem size_of_readColumnWithDecimalData {sourceWidth precision : Nat} {scale : Int}
    {arrow_column : ChunkedArray} {column_name : String} {column : ColumnWithTypeAndName}
    (h : readColumnWithDecimalData sourceWidth precision scale arrow_column column_name =
      .ok column) :
    column.column.size = arrow_column.length ∧ column.column.WellFormed := by
  obtain ⟨_, rfl⟩ := readColumnWithDecimalData_eq_ok h
  exact ⟨length_flatMap_range _ _, trivial⟩

theorem length_of_readColumnWithIndexesData {index_type : Arrow.DataType}
    {arrow_column : ChunkedArray} {column : Column}
    (h : readColumnWithIndexesData index_type arrow_column = .ok column) :
    column.vectorData.length = arrow_column.length := by
  unfold readColumnWithIndexesData at h
  split at h
  · cases h
    rw [readColumnWithNumericData_column]
    exact length_flatMap_range _ _
  · cases h

/-! ## What a converted column satisfies -/

/-- A column converted from `arrow_column`: one row per row of the chunks, and
well-formed. -/
def Converted (arrow_column : ChunkedArray) (column : Column) : Prop :=
  column.size = arrow_column.length ∧ column.WellFormed

/-- The column of a struct type is a tuple of one element per member. -/
def TupleShape : Arrow.DataType → Column → Prop
  | .struct fields, column => ∃ elements, column = .tuple elements ∧ elements.length = fields.length
  | _, _ => True

theorem converted_nullable {arrow_column : ChunkedArray} {nested : Column}
    (h : Converted arrow_column nested) :
    Converted arrow_column (.nullable nested (readByteMapFromArrowColumn arrow_column)) :=
  ⟨length_readByteMapFromArrowColumn _,
    h.1.trans (length_readByteMapFromArrowColumn _).symm, h.2⟩

/-- The offsets of valid list chunks over the element column converted from their
values children: the last one is at most its size. -/
theorem offsets_converted {arrow_column : ChunkedArray} {size : Nat}
    (hvalid : ∀ a ∈ arrow_column, listChunkValid a)
    (hsize : size = ChunkedArray.length (getNestedArrowColumn arrow_column)) :
    let offsets := readOffsetsFromArrowListColumn arrow_column
    offsets.length = arrow_column.length ∧ offsets.Sorted (· ≤ ·) ∧ offsets.getLastD 0 ≤ size := by
  simp only [listChunkValid, Bool.and_eq_true, decide_eq_true_eq] at hvalid
  refine ⟨length_readOffsetsFromArrowListColumn _ fun a ha => (hvalid a ha).1.1,
    sorted_readOffsetsFromArrowListColumn _ fun a ha => (hvalid a ha).1.2, ?_⟩
  rw [getLastD_readOffsetsFromArrowListColumn, hsize, getNestedArrowColumn, ChunkedArray.length,
    List.map_map]
  exact List.sum_le_sum fun a ha => (hvalid a ha).2

/-- What `ColumnArray::create`'s check leaves of offsets that end within the elements:
no row, or a last offset at the elements' size. -/
theorem lastOffset_of_checked {offsets : List Nat} {size : Nat} (hle : offsets.getLastD 0 ≤ size)
    (hcheck : offsets = [] ∨ size = 0 ∨ size = offsets.getLastD 0) :
    offsets = [] ∨ offsets.getLastD 0 = size := by
  rcases hcheck with h | h | h
  · exact .inl h
  · exact .inr (by omega)
  · exact .inr h.symm

theorem converted_array {arrow_column : ChunkedArray} {data : Column}
    (hvalid : ∀ a ∈ arrow_column, listChunkValid a)
    (hcheck : readOffsetsFromArrowListColumn arrow_column = [] ∨ data.size = 0 ∨
      data.size = (readOffsetsFromArrowListColumn arrow_column).getLastD 0)
    (h : Converted (getNestedArrowColumn arrow_column) data) :
    Converted arrow_column (.array data (readOffsetsFromArrowListColumn arrow_column)) :=
  have ⟨hlen, hsorted, hle⟩ := offsets_converted hvalid h.1
  ⟨hlen, hsorted, lastOffset_of_checked hle hcheck, h.2⟩

theorem converted_map {arrow_column : ChunkedArray} {keys values : Column}
    (hvalid : ∀ a ∈ arrow_column, listChunkValid a)
    (hcheck : readOffsetsFromArrowListColumn arrow_column = [] ∨ keys.size = 0 ∨
      keys.size = (readOffsetsFromArrowListColumn arrow_column).getLastD 0)
    (h : Converted (getNestedArrowColumn arrow_column) (.tuple [keys, values])) :
    Converted arrow_column (.map keys values (readOffsetsFromArrowListColumn arrow_column)) := by
  obtain ⟨-, hkeys, hvalues, hvalues_wf, -⟩ := h.2
  have ⟨hlen, hsorted, hle⟩ := offsets_converted hvalid h.1
  exact ⟨hlen, hsorted, lastOffset_of_checked hle hcheck, hvalues, hkeys, hvalues_wf⟩

theorem converted_tuple {arrow_column : ChunkedArray} {elements : List Column}
    (h : ∀ e ∈ elements, Converted arrow_column e)
    (hnil : elements = [] → arrow_column.length = 0) :
    Converted arrow_column (.tuple elements) := by
  have hfirst : Column.sizeOfFirst elements = arrow_column.length := by
    cases elements with
    | nil => exact (hnil rfl).symm
    | cons e es => exact (h e (List.mem_cons_self _ _)).1
  refine ⟨hfirst, ?_⟩
  show Column.ElementsWellFormed _ _
  rw [Column.elementsWellFormed_iff, hfirst]
  exact h

/-- A dictionary the converter builds is a `ColumnUnique`. -/
theorem buildDictionary_wellFormed (dict_column : ColumnWithTypeAndName) :
    (buildDictionary dict_column).column.WellFormed := by
  unfold buildDictionary ColumnUnique.create
  split <;> trivial

/-! ## Steps that keep the cache well-formed -/

/-- Every dictionary of the cache is well-formed. -/
def CacheWellFormed (dictionary_values : DictionaryValues) : Prop :=
  ∀ name dict_values, dictionary_values name = some dict_values → dict_values.column.WellFormed

theorem CacheWellFormed.update {cache : DictionaryValues} (hc : CacheWellFormed cache)
    (name : String) {dict_values : ColumnWithTypeAndName} (h : dict_values.column.WellFormed) :
    CacheWellFormed (Function.update cache name (some dict_values)) := by
  intro n d hd
  rcases eq_or_ne n name with rfl | hn
  · cases (Function.update_same _ _ cache).symm.trans hd
    exact h
  · exact hc n d ((Function.update_noteq hn _ cache).symm.trans hd)

/-- The `CHStringArray` fast path is never taken on chunks valid for the type. -/
theorem fastPath_valid {S : Prop} {type : Arrow.DataType} {R : ColumnWithTypeAndName → Prop}
    {column_name : String} {arrow_column : ChunkedArray} {body : ConvM ColumnWithTypeAndName}
    (hbody : Keeps CacheWellFormed
      (fun column => S ∧ (∀ a ∈ arrow_column, chunkValid type a) → R column) body) :
    Keeps CacheWellFormed (fun column => S ∧ (∀ a ∈ arrow_column, chunkValid type a) → R column)
      (match arrow_column.head? with
        | some (.chString column _ _ _) => Pure.pure { column with name := column_name }
        | _ => body) :=
  Keeps.fastPath (fun _ _ _ _ h ⟨_, hvalid⟩ =>
    absurd (hvalid _ (List.mem_of_mem_head? h)) (by simp [chunkValid_chString])) hbody

theorem readNullable_keeps {S : Prop} {R : ColumnWithTypeAndName → Prop} {column_name : String}
    {arrow_column : ChunkedArray} {nested : ConvM ColumnWithTypeAndName}
    (h : Keeps CacheWellFormed
      (fun column => S → Converted arrow_column column.column ∧ R column) nested) :
    Keeps CacheWellFormed (fun column => S → Converted arrow_column column.column)
      (readNullable column_name arrow_column nested) :=
  Keeps.readNullable h fun _ hcolumn hs => converted_nullable (hcolumn hs).1

/-- The `LowCardinality` column over a well-formed dictionary has a row per index. -/
theorem lowCardinality_keeps {S : Prop} (column_name : String)
    (index_type value_type : Arrow.DataType) (arrow_column : ChunkedArray)
    {dict_values : ColumnWithTypeAndName} (hdict : dict_values.column.WellFormed) :
    Keeps CacheWellFormed (fun column =>
        S ∧ (∀ a ∈ arrow_column, chunkValid (.dictionary index_type value_type) a) →
          Converted arrow_column column.column ∧
            TupleShape (.dictionary index_type value_type) column.column)
      (do
        let indexes_column ← ConvM.ofExcept
          (readColumnWithIndexesData index_type (arrow_column.map Arrow.Array.indices))
        let lc_type ← ConvM.ofExcept (DataTypeLowCardinality.create dict_values.type)
        pure (⟨.lowCardinality dict_values.column indexes_column.vectorData, lc_type,
          column_name⟩ : ColumnWithTypeAndName)) := by
  refine (Keeps.ofExcept fun indexes_column h => length_of_readColumnWithIndexesData h).bind
    fun indexes_column hindexes => (Keeps.ofExcept (P := fun _ => True) fun _ _ => trivial).bind
      fun _ _ => Keeps.pure fun ⟨_, hvalid⟩ => ⟨⟨?_, hdict⟩, trivial⟩
  exact hindexes.trans (ChunkedArray.length_map_of_length fun a ha =>
    Arrow.Array.length_indices (hvalid a ha))

/-! ## The converter -/

variable (bounds : DateBounds)

mutual
/-- Every conversion keeps the cache well-formed, and one of a supported field over
valid chunks returns a well-formed column of the chunks' row count. -/
theorem readColumnFromArrowColumn_keeps : ∀ (field : Field) (arrow_column : ChunkedArray)
    (format_name : String) (read_ints_as_dates : Bool),
    Keeps CacheWellFormed (fun column => fieldSupported field ∧ (∀ a ∈ arrow_column, fieldChunkValid field a) →
        Converted arrow_column column.column ∧
          (field.nullable = false → TupleShape field.type column.column))
      (readColumnFromArrowColumn bounds field arrow_column format_name read_ints_as_dates)
  | .mk column_name type is_nullable, arrow_column, format_name, read_ints_as_dates => by
    have h := readNonNullable_keeps column_name type arrow_column format_name read_ints_as_dates
    rw [readColumnFromArrowColumn]
    cases is_nullable
    · exact h.mono fun _ hc hs => ⟨(hc hs).1, fun _ => (hc hs).2⟩
    · exact (readNullable_keeps h).mono fun _ hc hs => ⟨hc hs, fun h => nomatch h⟩

theorem readNonNullable_keeps (column_name : String) : ∀ (type : Arrow.DataType)
    (arrow_column : ChunkedArray) (format_name : String) (read_ints_as_dates : Bool),
    Keeps CacheWellFormed (fun column => typeSupported type ∧ (∀ a ∈ arrow_column, chunkValid type a) →
        Converted arrow_column column.column ∧ TupleShape type column.column)
      (readNonNullable bounds column_name type arrow_column format_name read_ints_as_dates)
  | .list value_field, arrow_column, format_name, read_ints_as_dates => by
    rw [readNonNullable]
    refine fastPath_valid ((readColumnFromArrowColumn_keeps value_field _ format_name
      read_ints_as_dates).bind fun nested hnested =>
        (Keeps.ofExcept fun _ h => ColumnArray.create_eq_ok h).bind fun _ ⟨harray, hcheck⟩ =>
          Keeps.pure fun ⟨hsupp, hvalid⟩ => ?_)
    simp only [chunkValid, Bool.and_eq_true] at hvalid
    rw [harray]
    refine ⟨converted_array (fun a ha => (hvalid a ha).1) hcheck (hnested ⟨hsupp, ?_⟩).1,
      trivial⟩
    simp only [getNestedArrowColumn, List.mem_map]
    rintro _ ⟨a, ha, rfl⟩
    exact (hvalid a ha).2
  | .map entries, arrow_column, format_name, read_ints_as_dates => by
    rw [readNonNullable]
    refine fastPath_valid ((readColumnFromArrowColumn_keeps entries _ format_name
      read_ints_as_dates).bind fun nested hnested =>
        (Keeps.ofExcept fun _ h => ColumnMap.create_eq_ok h).bind fun _ ⟨hmap, hcheck⟩ =>
          (Keeps.ofExcept (P := fun _ => True) fun _ _ => trivial).bind fun _ _ =>
            Keeps.pure fun ⟨hsupp, hvalid⟩ => ?_)
    simp only [typeSupported, Bool.and_eq_true] at hsupp
    simp only [chunkValid, Bool.and_eq_true] at hvalid
    obtain ⟨name, key, value, rfl⟩ := isEntriesField_eq hsupp.1
    have hentries : ∀ a ∈ getNestedArrowColumn arrow_column,
        fieldChunkValid (.mk name (.struct [key, value]) false) a := by
      simp only [getNestedArrowColumn, List.mem_map]
      rintro _ ⟨a, ha, rfl⟩
      exact (hvalid a ha).2
    obtain ⟨hconv, hshape⟩ := hnested ⟨hsupp.2, hentries⟩
    obtain ⟨elements, htuple, hlen⟩ := hshape rfl
    obtain ⟨k, v, rfl⟩ : ∃ k v, elements = [k, v] := by
      match elements, hlen with
      | [k, v], _ => exact ⟨k, v, rfl⟩
    rw [htuple] at hconv hmap hcheck
    rw [hmap]
    exact ⟨converted_map (fun a ha => (hvalid a ha).1) hcheck hconv, trivial⟩
  | .struct fields, arrow_column, format_name, read_ints_as_dates => by
    rw [readNonNullable]
    refine fastPath_valid ((readStructFields_keeps fields 0 arrow_column format_name
      read_ints_as_dates).bind fun elements helements =>
        (Keeps.ofExcept (P := fun _ => True) fun _ _ => trivial).bind fun _ _ =>
          Keeps.pure fun ⟨hsupp, hvalid⟩ => ?_)
    simp only [typeSupported, Bool.and_eq_true, Bool.not_eq_true', List.isEmpty_eq_false] at hsupp
    simp only [chunkValid, Bool.and_eq_true] at hvalid
    obtain ⟨hlen, hconv⟩ := helements ⟨hsupp.2, fun a ha => (hvalid a ha).2⟩
    refine ⟨converted_tuple ?_ fun hnil => ?_, _, rfl, by simp [hlen]⟩
    · simpa using hconv
    · simp only [List.map_eq_nil_iff] at hnil
      exact absurd (List.length_eq_zero.mp (hnil ▸ hlen).symm) hsupp.1
  | .dictionary index_type value_type, arrow_column, format_name, read_ints_as_dates => by
    rw [readNonNullable]
    refine fastPath_valid (Keeps.get_bind fun cache hcache => ?_)
    dsimp only
    split
    · exact (Keeps.pure (P := fun d : ColumnWithTypeAndName => d.column.WellFormed)
        (hcache _ _ ‹_›)).bind fun _ hdict =>
        lowCardinality_keeps column_name index_type value_type arrow_column hdict
    · exact (readNullable_keeps (readNonNullable_keeps "dict" value_type _ format_name
        read_ints_as_dates)).bind fun dict_column _ =>
          (Keeps.ofExcept (P := fun _ => True) fun _ _ => trivial).bind fun _ _ =>
          (Keeps.modify fun _ hc => hc.update column_name (buildDictionary_wellFormed dict_column)).bind
            fun _ _ => (Keeps.pure (P := fun d : ColumnWithTypeAndName => d.column.WellFormed)
              (buildDictionary_wellFormed dict_column)).bind fun _ hdict =>
              lowCardinality_keeps column_name index_type value_type arrow_column hdict
  | .uint16, _, _, read_ints_as_dates | .uint32, _, _, read_ints_as_dates => by
    rw [readNonNullable]
    exact fastPath_valid (Keeps.pure fun _ => ⟨by cases read_ints_as_dates <;>
      exact ⟨by simp, trivial⟩, trivial⟩)
  | .bool, _, _, _ | .uint8, _, _, _ | .int8, _, _, _ | .int16, _, _, _ | .int32, _, _, _
  | .uint64, _, _, _ | .int64, _, _, _ | .halfFloat, _, _, _ | .float, _, _, _
  | .double, _, _, _ | .string, _, _, _ | .binary, _, _, _ | .date64, _, _, _
  | .timestamp _ _, _, _, _ => by
    rw [readNonNullable]
    exact fastPath_valid (Keeps.pure fun _ => ⟨⟨by simp, trivial⟩, trivial⟩)
  | .date32, _, _, _ => by
    rw [readNonNullable]
    exact fastPath_valid (Keeps.ofExcept fun _ h _ => ⟨size_of_readColumnWithDate32Data h, trivial⟩)
  | .decimal128 _ _, _, _, _ | .decimal256 _ _, _, _, _ => by
    rw [readNonNullable]
    exact fastPath_valid
      (Keeps.ofExcept fun _ h _ => ⟨size_of_readColumnWithDecimalData h, trivial⟩)
  | .other _, _, _, _ => by
    rw [readNonNullable]
    exact fastPath_valid (Keeps.throw _)

theorem readStructFields_keeps : ∀ (fields : List Field) (i : Nat) (arrow_column : ChunkedArray)
    (format_name : String) (read_ints_as_dates : Bool),
    Keeps CacheWellFormed (fun elements : List ColumnWithTypeAndName =>
        fieldsSupported fields ∧ (∀ a ∈ arrow_column, membersValid fields i a) →
          elements.length = fields.length ∧ ∀ e ∈ elements, Converted arrow_column e.column)
      (readStructFields bounds fields i arrow_column format_name read_ints_as_dates)
  | [], _, _, _, _ => by
    rw [readStructFields]
    exact Keeps.pure fun _ => ⟨rfl, by simp⟩
  | field :: fields, i, arrow_column, format_name, read_ints_as_dates => by
    rw [readStructFields]
    refine (readColumnFromArrowColumn_keeps field _ format_name read_ints_as_dates).bind
      fun element helement => (readStructFields_keeps fields (i + 1) arrow_column format_name
        read_ints_as_dates).bind fun elements helements => Keeps.pure fun ⟨hsupp, hvalid⟩ => ?_
    simp only [fieldsSupported, Bool.and_eq_true] at hsupp
    simp only [membersValid, Bool.and_eq_true, beq_iff_eq] at hvalid
    obtain ⟨hlen, hconv⟩ := helements ⟨hsupp.2, fun a ha => (hvalid a ha).2⟩
    have hmember : ∀ a ∈ arrow_column.map (·.field i), fieldChunkValid field a := by
      simp only [List.mem_map]
      rintro _ ⟨a, ha, rfl⟩
      exact (hvalid a ha).1.2
    obtain ⟨⟨hsize, hwf⟩, -⟩ := helement ⟨hsupp.1, hmember⟩
    refine ⟨by simp [hlen], ?_⟩
    simp only [List.mem_cons, forall_eq_or_imp]
    refine ⟨⟨hsize.trans (ChunkedArray.length_map_of_length fun a ha => (hvalid a ha).1.1), hwf⟩,
      hconv⟩
end

/-! ## The caches a session reaches -/

/-- The caches a session reaches: the empty one, and the one after any conversion from
a reachable one, earlier columns of the same call included. -/
inductive CacheReachable : DictionaryValues → Prop
  | empty : CacheReachable fun _ => none
  | convert {dictionary_values : DictionaryValues} (field : Field) (arrow_column : ChunkedArray)
      (format_name : String) (read_ints_as_dates : Bool) :
      CacheReachable dictionary_values →
      CacheReachable ((readColumnFromArrowColumn bounds field arrow_column format_name
        read_ints_as_dates).run.run dictionary_values).2

theorem CacheReachable.wellFormed {dictionary_values : DictionaryValues}
    (h : CacheReachable bounds dictionary_values) : CacheWellFormed dictionary_values := by
  induction h with
  | empty => exact fun _ _ h => nomatch h
  | convert field arrow_column format_name read_ints_as_dates _ ih =>
    exact (readColumnFromArrowColumn_keeps bounds field arrow_column format_name
      read_ints_as_dates _ ih).1

/-- Row counts are conserved and columns are well-formed: from any cache a session
reaches, converting a field of a supported type over chunks with its layout returns,
when it returns, a well-formed column of as many rows as the chunks. -/
theorem readColumnFromArrowColumn_rows_wellFormed (field : Field) (arrow_column : ChunkedArray)
    (format_name : String) (read_ints_as_dates : Bool) (dictionary_values : DictionaryValues)
    (hcache : CacheReachable bounds dictionary_values) (hfield : fieldSupported field)
    (hchunks : ∀ a ∈ arrow_column, fieldChunkValid field a) (column : ColumnWithTypeAndName)
    (hrun : ((readColumnFromArrowColumn bounds field arrow_column format_name
      read_ints_as_dates).run.run dictionary_values).1 = .ok column) :
    column.column.size = arrow_column.length ∧ column.column.WellFormed :=
  ((readColumnFromArrowColumn_keeps bounds field arrow_column format_name read_ints_as_dates
    dictionary_values hcache.wellFormed).2 column hrun ⟨hfield, hchunks⟩).1

/-- A `MAP<STRING, INT32>` column of two rows, `{"a": 1}` and `{}`. -/
def sampleMapField : Field :=
  .mk "m" (.map (.mk "entries" (.struct [.mk "key" .string false, .mk "value" .int32 true]) false))
    false

def sampleMapColumn : ChunkedArray :=
  [.list 2 0 none [0, 1, 1]
    (.struct 1 0 none [.binary 1 0 none [0, 1] [97], .primitive 1 0 none [1, 0, 0, 0]])]

theorem readColumnFromArrowColumn_rows_wellFormed_map :
    fieldSupported sampleMapField ∧ (∀ a ∈ sampleMapColumn, fieldChunkValid sampleMapField a) ∧
      ∃ column, ((readColumnFromArrowColumn sampleDateBounds sampleMapField sampleMapColumn
          "Parquet" false).run.run fun _ => none).1 = .ok column ∧
        column.column.size = ChunkedArray.length sampleMapColumn ∧ column.column.WellFormed :=
  ⟨by decide, by decide, _, rfl, readColumnFromArrowColumn_rows_wellFormed sampleDateBounds
    sampleMapField sampleMapColumn "Parquet" false _ .empty (by decide) (by decide) _ rfl⟩

/-- A one-chunk dictionary column of one row: `index` into the one-byte words
`letters`. -/
def letterDictionaryColumn (index : UInt8) (letters : List UInt8) : ChunkedArray :=
  [.dictEncoded (.primitive 1 0 none [index, 0, 0, 0])
    (.binary letters.length 0 none (List.range (letters.length + 1)) letters)]

/-- The cache after converting a dictionary column `x` whose dictionary is `["a"]`. -/
def cacheAfterLetterA : DictionaryValues :=
  ((readColumnFromArrowColumn sampleDateBounds (.mk "x" (.dictionary .int32 .string) false)
    (letterDictionaryColumn 0 [97]) "Parquet" true).run.run fun _ => none).2

/-- After a column `x` with dictionary `["a"]`, a column `x` with dictionary
`["p", "q", "r", "s"]` and index 3 is converted with the cached dictionary of three
rows, so its `LowCardinality` index 3 is out of the dictionary's range. -/
theorem readColumnFromArrowColumn_index_beyond_cached_dictionary :
    CacheReachable sampleDateBounds cacheAfterLetterA ∧
      ((readColumnFromArrowColumn sampleDateBounds (.mk "x" (.dictionary .int32 .string) false)
        (letterDictionaryColumn 3 [112, 113, 114, 115]) "Parquet" true).run.run
          cacheAfterLetterA).1.map (·.column) =
        .ok (.lowCardinality (.unique true [.string [], .string [], .string [97]]) [3]) :=
  ⟨.convert _ _ _ _ .empty, rfl⟩

end GlutenBridge
