import GlutenBridge.Convert.Readers

/-!
# `readColumnFromArrowColumn`

The recursive converter from an Arrow field and chunked array to a ClickHouse column.
It threads the session's dictionary cache `dictionary_values` and may throw; as in
the C++ code, where the cache is a map passed by reference, a throw leaves the cache
with the entries stored before it.

The recursion follows the field's type: a nullable field converts the same column
as non-nullable and wraps it (`readNullable`); a list, map, struct or dictionary
converts its element, entry, member or dictionary-value field. The dictionary case
converts its values with the field `arrow::field("dict", value_type)`, which is
nullable; `readColumnFromArrowColumn_mk` shows that its call is that of
`readColumnFromArrowColumn` on this field.
-/

set_option autoImplicit false

namespace GlutenBridge

open Arrow DB

/-- The session's `dictionary_values`: the dictionary built for a column name. -/
abbrev DictionaryValues := String → Option ColumnWithTypeAndName

/-- A step of the converter: it reads and updates the dictionary cache and may throw. -/
abbrev ConvM := ExceptT Exception (StateM DictionaryValues)

/-- A computation of `Except` run as a step of the converter. -/
def ConvM.ofExcept {α : Type} : Except Exception α → ConvM α
  | .ok a => pure a
  | .error e => throw e

/-- The nullable branch: the column converted as non-nullable, wrapped with the byte
map of the source's null flags in a `Nullable` type, which ClickHouse refuses for a nested
type that cannot be inside `Nullable`. -/
def readNullable (column_name : String) (arrow_column : ChunkedArray)
    (nested : ConvM ColumnWithTypeAndName) : ConvM ColumnWithTypeAndName := do
  let nested_column ← nested
  let nullmap_column := readByteMapFromArrowColumn arrow_column
  let nullable_type ← ConvM.ofExcept (DataTypeNullable.create nested_column.type)
  pure ⟨.nullable nested_column.column nullmap_column, nullable_type, column_name⟩

theorem ConvM.run_bind {α β : Type} (x : ConvM α) (f : α → ConvM β) (c : DictionaryValues) :
    (x >>= f).run.run c = match x.run.run c with
      | (.ok a, c') => (f a).run.run c'
      | (.error e, c') => (.error e, c') := by
  simp only [ExceptT.run_bind, StateT.run_bind]
  rcases x.run.run c with ⟨_ | _, _⟩ <;> rfl

/-- `readNullable` wraps the nested column, run from any cache, with the byte map, when
its type can be inside `Nullable`. -/
theorem readNullable_run (column_name : String) (arrow_column : ChunkedArray)
    (nested : ConvM ColumnWithTypeAndName) (c : DictionaryValues) :
    (readNullable column_name arrow_column nested).run.run c = match nested.run.run c with
      | (.ok col, c') => match DataTypeNullable.create col.type with
        | .ok nullable_type => (.ok ⟨.nullable col.column (readByteMapFromArrowColumn arrow_column),
            nullable_type, column_name⟩, c')
        | .error e => (.error e, c')
      | (.error e, c') => (.error e, c') := by
  rw [readNullable, ConvM.run_bind]
  rcases nested.run.run c with ⟨_ | col, _⟩
  · rfl
  · dsimp only
    rw [ConvM.run_bind]
    cases DataTypeNullable.create col.type <;> rfl

/-- Build the dictionary of a `LowCardinality` column from the converted dictionary
values: a `ColumnUnique` of their type with every value inserted. -/
def buildDictionary (dict_column : ColumnWithTypeAndName) : ColumnWithTypeAndName :=
  { dict_column with
    column := (ColumnUnique.uniqueInsertRangeFrom (ColumnUnique.create dict_column.type)
      dict_column.column).1 }

@[simp] theorem buildDictionary_type (dict_column : ColumnWithTypeAndName) :
    (buildDictionary dict_column).type = dict_column.type :=
  rfl

/-- The error for a type the converter has no case for. -/
def unsupportedType (format_name : String) (type : Arrow.DataType) (column_name : String) :
    Exception :=
  ⟨.UNKNOWN_TYPE, "Unsupported " ++ format_name ++ " type \x27" ++ type.name ++
    "\x27 of an input column \x27" ++ column_name ++ "\x27."⟩

variable (bounds : DateBounds)

mutual
/-- `readColumnFromArrowColumn(arrow_field, arrow_column, format_name,
dictionary_values, read_ints_as_dates)`. -/
def readColumnFromArrowColumn : Field → ChunkedArray → String → Bool →
    ConvM ColumnWithTypeAndName
  | .mk column_name type is_nullable, arrow_column, format_name, read_ints_as_dates =>
    if is_nullable then
      readNullable column_name arrow_column
        (readNonNullable column_name type arrow_column format_name read_ints_as_dates)
    else readNonNullable column_name type arrow_column format_name read_ints_as_dates

/-- The body of `readColumnFromArrowColumn` after the nullable branch: the
`CHStringArray` fast path, then the switch on the type. -/
def readNonNullable (column_name : String) : Arrow.DataType → ChunkedArray → String → Bool →
    ConvM ColumnWithTypeAndName
  | type, arrow_column, format_name, read_ints_as_dates =>
    match arrow_column.head? with
    | some (.chString column _ _ _) => pure { column with name := column_name }
    | _ =>
      match type with
      | .string | .binary => pure (readColumnWithStringData arrow_column column_name)
      | .bool => pure (readColumnWithBooleanData arrow_column column_name)
      | .date32 => ConvM.ofExcept (readColumnWithDate32Data bounds arrow_column column_name)
      | .date64 => pure (readColumnWithDate64Data arrow_column column_name)
      | .uint16 =>
        let column := readColumnWithNumericData 2 .uint16 arrow_column column_name
        pure (if read_ints_as_dates then { column with type := .date } else column)
      | .uint32 =>
        let column := readColumnWithNumericData 4 .uint32 arrow_column column_name
        pure (if read_ints_as_dates then { column with type := .dateTime } else column)
      | .timestamp unit timezone =>
        pure (readColumnWithTimestampData unit timezone arrow_column column_name)
      | .decimal128 precision scale =>
        ConvM.ofExcept (readColumnWithDecimalData 16 precision scale arrow_column column_name)
      | .decimal256 precision scale =>
        ConvM.ofExcept (readColumnWithDecimalData 32 precision scale arrow_column column_name)
      | .map entries => do
        let nested_column ← readColumnFromArrowColumn entries (getNestedArrowColumn arrow_column)
          format_name read_ints_as_dates
        let offsets_column := readOffsetsFromArrowListColumn arrow_column
        let map_column ← ConvM.ofExcept (ColumnMap.create (nested_column.column.tupleElement 0)
          (nested_column.column.tupleElement 1) offsets_column)
        let map_type ← ConvM.ofExcept (DataTypeMap.create (nested_column.type.tupleElement 0)
          (nested_column.type.tupleElement 1))
        pure ⟨map_column, map_type, column_name⟩
      | .list value_field => do
        let nested_column ← readColumnFromArrowColumn value_field
          (getNestedArrowColumn arrow_column) format_name read_ints_as_dates
        let offsets_column := readOffsetsFromArrowListColumn arrow_column
        let array_column ← ConvM.ofExcept (ColumnArray.create nested_column.column offsets_column)
        pure ⟨array_column, .array nested_column.type, column_name⟩
      | .struct fields => do
        let elements ← readStructFields fields 0 arrow_column format_name read_ints_as_dates
        let tuple_type ← ConvM.ofExcept
          (DataTypeTuple.create (elements.map (·.type)) (elements.map (·.name)))
        pure ⟨.tuple (elements.map (·.column)), tuple_type, column_name⟩
      | .dictionary index_type value_type => do
        let dictionary_values ← get
        let dict_values ← match dictionary_values column_name with
          | some dict_values => pure dict_values
          | none => do
            let arrow_dict_column := arrow_column.map Arrow.Array.dictionary
            let dict_column ← readNullable "dict" arrow_dict_column
              (readNonNullable "dict" value_type arrow_dict_column format_name read_ints_as_dates)
            let _ ← ConvM.ofExcept (DataTypeLowCardinality.create dict_column.type)
            let dict_values := buildDictionary dict_column
            modify fun cache => Function.update cache column_name (some dict_values)
            pure dict_values
        let indexes_column ← ConvM.ofExcept
          (readColumnWithIndexesData index_type (arrow_column.map Arrow.Array.indices))
        let lc_type ← ConvM.ofExcept (DataTypeLowCardinality.create dict_values.type)
        pure ⟨.lowCardinality dict_values.column indexes_column.vectorData, lc_type, column_name⟩
      | .uint8 => pure (readColumnWithNumericData 1 .uint8 arrow_column column_name)
      | .int8 => pure (readColumnWithNumericData 1 .int8 arrow_column column_name)
      | .int16 => pure (readColumnWithNumericData 2 .int16 arrow_column column_name)
      | .int32 => pure (readColumnWithNumericData 4 .int32 arrow_column column_name)
      | .uint64 => pure (readColumnWithNumericData 8 .uint64 arrow_column column_name)
      | .int64 => pure (readColumnWithNumericData 8 .int64 arrow_column column_name)
      | .halfFloat => pure (readColumnWithNumericData 4 .float32 arrow_column column_name)
      | .float => pure (readColumnWithNumericData 4 .float32 arrow_column column_name)
      | .double => pure (readColumnWithNumericData 8 .float64 arrow_column column_name)
      | .other name => throw (unsupportedType format_name (.other name) column_name)

/-- The members of a struct, from member `i` on: each converted from the member's
sub-arrays of the chunks (`StructArray::field(i)`). -/
def readStructFields : List Field → Nat → ChunkedArray → String → Bool →
    ConvM (List ColumnWithTypeAndName)
  | [], _, _, _, _ => pure []
  | field :: fields, i, arrow_column, format_name, read_ints_as_dates => do
    let element ← readColumnFromArrowColumn field (arrow_column.map (·.field i)) format_name
      read_ints_as_dates
    let elements ← readStructFields fields (i + 1) arrow_column format_name read_ints_as_dates
    pure (element :: elements)
end

theorem ConvM.ofExcept_run {α : Type} (x : Except Exception α) (c : DictionaryValues) :
    (ConvM.ofExcept x).run.run c = (x, c) := by
  cases x <;> rfl

/-- The dictionary case's call on its values is `readColumnFromArrowColumn` with the
nullable field `"dict"`. -/
theorem readColumnFromArrowColumn_mk (column_name : String) (type : Arrow.DataType)
    (arrow_column : ChunkedArray) (format_name : String) (read_ints_as_dates : Bool) :
    readColumnFromArrowColumn bounds (.mk column_name type true) arrow_column format_name
        read_ints_as_dates =
      readNullable column_name arrow_column
        (readNonNullable bounds column_name type arrow_column format_name read_ints_as_dates) := by
  simp [readColumnFromArrowColumn]

end GlutenBridge
