import GlutenBridge.Convert.Shape

/-!
# What a conversion throws

Every exception `readColumnFromArrowColumn` throws comes from one part of the field's
type, and says which (`readColumnFromArrowColumn_raises`): a type the converter has no
case for, with the name of the field that has it (`UNKNOWN_TYPE`); a `DATE32` value past
the date range, with the name of the column (`VALUE_IS_OUT_OF_RANGE_OF_DATA_TYPE`); a
decimal precision or scale that `createDecimal` rejects (`ARGUMENT_OUT_OF_BOUND`); an
index type of a dictionary that is not an integer type (`BAD_ARGUMENTS`); and the checks of
ClickHouse's constructors at the part that calls them: a type `Nullable` refuses at a
nullable field or a dictionary's values (`ILLEGAL_TYPE_OF_ARGUMENT`), a last list or map
offset other than the size of the elements (`LOGICAL_ERROR`), a map key type `DataTypeMap`
refuses (`BAD_ARGUMENTS`), an empty or repeated member name of a struct (`BAD_ARGUMENTS`,
`DUPLICATE_COLUMN`), a dictionary type `LowCardinality` refuses
(`ILLEGAL_TYPE_OF_ARGUMENT`). This holds from any cache and over any chunks, so a field
whose type has none of these parts is converted without an exception. The `Nullable` check
is no corner case: off the `CHStringArray` fast path, every nullable list, map, struct or
dictionary field throws (`readColumnFromArrowColumn_nullable_nested_throws`).

`Raises E x` says that a step `x` of the converter throws only exceptions satisfying `E`;
it has one rule per way the converter builds a step, as `Keeps` has for the values a step
returns.
-/

set_option autoImplicit false

namespace GlutenBridge

open Arrow DB

/-- A step throws, from any cache, only exceptions satisfying `E`. -/
def Raises {α : Type} (E : Exception → Prop) (x : ConvM α) : Prop :=
  ∀ dictionary_values e, (x.run.run dictionary_values).1 = .error e → E e

namespace Raises

variable {E : Exception → Prop} {α β : Type}

theorem pure (a : α) : Raises E (Pure.pure a : ConvM α) :=
  fun _ _ h => nomatch h

theorem throw {e : Exception} (he : E e) : Raises E (MonadExcept.throw e : ConvM α) :=
  fun _ _ h => by cases h; exact he

theorem ofExcept {x : Except Exception α} (h : ∀ e, x = .error e → E e) :
    Raises E (ConvM.ofExcept x) := by
  cases x with
  | error e => exact throw (h e rfl)
  | ok a => exact pure a

theorem mono {E' : Exception → Prop} {x : ConvM α} (hx : Raises E x) (h : ∀ e, E e → E' e) :
    Raises E' x :=
  fun c e he => h e (hx c e he)

theorem bind {x : ConvM α} {f : α → ConvM β} (hx : Raises E x) (hf : ∀ a, Raises E (f a)) :
    Raises E (x >>= f) := by
  intro c e he
  have hxc := hx c
  rw [ConvM.run_bind] at he
  revert he hxc
  rcases x.run.run c with ⟨_ | a, c'⟩ <;> intro he hxc
  · cases he
    exact hxc _ rfl
  · exact hf a c' e he

/-- A bind whose continuation throws only `E` on the values the first step can return. -/
theorem bind_of_keeps {x : ConvM α} {f : α → ConvM β} {P : α → Prop} (hx : Raises E x)
    (hP : Keeps (fun _ => True) P x) (hf : ∀ a, P a → Raises E (f a)) :
    Raises E (x >>= f) := by
  intro c e he
  have hxc := hx c
  have hPc := (hP c trivial).2
  rw [ConvM.run_bind] at he
  revert he hxc hPc
  rcases x.run.run c with ⟨_ | a, c'⟩ <;> intro he hxc hPc
  · cases he
    exact hxc _ rfl
  · exact hf a (hPc a rfl) c' e he

theorem get_bind {f : DictionaryValues → ConvM β} (hf : ∀ cache, Raises E (f cache)) :
    Raises E (get >>= f) :=
  fun c e he => hf c c e he

theorem modify (f : DictionaryValues → DictionaryValues) : Raises E (modify f : ConvM PUnit) :=
  fun _ _ he => nomatch he

/-- The `CHStringArray` fast path throws nothing; the body may. -/
theorem fastPath {column_name : String} {arrow_column : ChunkedArray}
    {body : ConvM ColumnWithTypeAndName} (hbody : Raises E body) :
    Raises E (match arrow_column.head? with
      | some (.chString column _ _ _) => Pure.pure { column with name := column_name }
      | _ => body) := by
  split
  · exact pure _
  · exact hbody

theorem readNullable {column_name : String} {arrow_column : ChunkedArray}
    {nested : ConvM ColumnWithTypeAndName} (h : Raises E nested)
    (hnullable : ∀ nested e, DataTypeNullable.create nested = .error e → E e) :
    Raises E (GlutenBridge.readNullable column_name arrow_column nested) :=
  h.bind fun _ => (ofExcept (hnullable _)).bind fun _ => pure _

end Raises

/-! ## The exceptions of each part of a type -/

section Readers

variable {bounds : DateBounds} {arrow_column : ChunkedArray} {column_name : String}
  {e : Exception}

theorem readColumnWithDate32Data_eq_error
    (h : readColumnWithDate32Data bounds arrow_column column_name = .error e) :
    ∃ value : Int, e = ⟨.VALUE_IS_OUT_OF_RANGE_OF_DATA_TYPE, "Input value " ++ toString value ++
      " of a column \"" ++ column_name ++ "\" is greater than max allowed Date value, which is " ++
      toString bounds.max_day_num⟩ := by
  unfold readColumnWithDate32Data at h
  dsimp only at h
  split at h
  · cases h
    exact ⟨_, rfl⟩
  · cases h

theorem readColumnWithDecimalData_eq_error {sourceWidth precision : Nat} {scale : Int}
    (h : readColumnWithDecimalData sourceWidth precision scale arrow_column column_name =
      .error e) :
    createDecimal precision scale = .error e := by
  unfold readColumnWithDecimalData at h
  cases hd : createDecimal precision scale <;> rw [hd] at h <;> cases h
  rfl

theorem readColumnWithIndexesData_eq_error {index_type : Arrow.DataType}
    (h : readColumnWithIndexesData index_type arrow_column = .error e) :
    indexWidth index_type = none ∧
      e = ⟨.BAD_ARGUMENTS, "Unsupported type for indexes in LowCardinality: " ++
        index_type.name ++ "."⟩ := by
  unfold readColumnWithIndexesData at h
  split at h
  · cases h
  · cases h
    exact ⟨‹_›, rfl⟩

end Readers

mutual
/-- The exceptions the conversion of a column `column_name` of type `type` may throw, each
from one part of the type. -/
def typeRaises (bounds : DateBounds) (format_name column_name : String) :
    Arrow.DataType → Exception → Prop
  | .other name, e => e = unsupportedType format_name (.other name) column_name
  | .date32, e => ∃ value : Int, e = ⟨.VALUE_IS_OUT_OF_RANGE_OF_DATA_TYPE, "Input value " ++
      toString value ++ " of a column \"" ++ column_name ++
      "\" is greater than max allowed Date value, which is " ++ toString bounds.max_day_num⟩
  | .decimal128 precision scale, e | .decimal256 precision scale, e =>
    createDecimal precision scale = .error e
  | .dictionary index_type value_type, e =>
    (indexWidth index_type = none ∧ e = ⟨.BAD_ARGUMENTS,
        "Unsupported type for indexes in LowCardinality: " ++ index_type.name ++ "."⟩) ∨
      typeRaises bounds format_name "dict" value_type e ∨
      (∃ nested, DataTypeNullable.create nested = .error e) ∨
      ∃ dictionary_type, DataTypeLowCardinality.create dictionary_type = .error e
  | .list value_field, e => fieldRaises bounds format_name value_field e ∨
      ∃ data offsets, ColumnArray.create data offsets = .error e
  | .map value_field, e => fieldRaises bounds format_name value_field e ∨
      (∃ keys values offsets, ColumnMap.create keys values offsets = .error e) ∨
      ∃ key_type value_type, DataTypeMap.create key_type value_type = .error e
  | .struct fields, e => fieldsRaises bounds format_name fields e ∨
      checkTupleNames [] (fields.map Field.name) = some e
  | _, _ => False

/-- The exceptions the conversion of a field may throw: those of its type and, for a
nullable field, a type `Nullable` refuses. -/
def fieldRaises (bounds : DateBounds) (format_name : String) : Field → Exception → Prop
  | .mk column_name type is_nullable, e => typeRaises bounds format_name column_name type e ∨
      is_nullable ∧ ∃ nested, DataTypeNullable.create nested = .error e

/-- The exceptions the conversion of the members of a struct may throw. -/
def fieldsRaises (bounds : DateBounds) (format_name : String) : List Field → Exception → Prop
  | [], _ => False
  | field :: fields, e => fieldRaises bounds format_name field e ∨
      fieldsRaises bounds format_name fields e
end

/-! ## The converter -/

variable (bounds : DateBounds)

/-- The `LowCardinality` column of the dictionary case throws only for its index type and
its dictionary type. -/
theorem lowCardinality_raises (column_name : String) (index_type : Arrow.DataType)
    (arrow_column : ChunkedArray) (dict_values : ColumnWithTypeAndName) {E : Exception → Prop}
    (hE : indexWidth index_type = none → E ⟨.BAD_ARGUMENTS,
      "Unsupported type for indexes in LowCardinality: " ++ index_type.name ++ "."⟩)
    (hlow : ∀ dictionary_type e, DataTypeLowCardinality.create dictionary_type = .error e → E e) :
    Raises E
      (do
        let indexes_column ← ConvM.ofExcept
          (readColumnWithIndexesData index_type (arrow_column.map Arrow.Array.indices))
        let lc_type ← ConvM.ofExcept (DataTypeLowCardinality.create dict_values.type)
        pure (⟨.lowCardinality dict_values.column indexes_column.vectorData, lc_type,
          column_name⟩ : ColumnWithTypeAndName)) :=
  (Raises.ofExcept fun _ h => by
    obtain ⟨hwidth, rfl⟩ := readColumnWithIndexesData_eq_error h
    exact hE hwidth).bind fun _ => (Raises.ofExcept (hlow _)).bind fun _ => Raises.pure _

mutual
theorem readColumnFromArrowColumn_raises_all : ∀ (field : Field) (arrow_column : ChunkedArray)
    (format_name : String) (read_ints_as_dates : Bool),
    Raises (fieldRaises bounds format_name field)
      (readColumnFromArrowColumn bounds field arrow_column format_name read_ints_as_dates)
  | .mk column_name type is_nullable, arrow_column, format_name, read_ints_as_dates => by
    have h := readNonNullable_raises column_name type arrow_column format_name read_ints_as_dates
    rw [readColumnFromArrowColumn]
    cases is_nullable
    · exact h.mono fun _ => Or.inl
    · exact Raises.readNullable (h.mono fun _ => Or.inl) fun _ _ he => Or.inr ⟨rfl, _, he⟩

theorem readNonNullable_raises (column_name : String) : ∀ (type : Arrow.DataType)
    (arrow_column : ChunkedArray) (format_name : String) (read_ints_as_dates : Bool),
    Raises (typeRaises bounds format_name column_name type)
      (readNonNullable bounds column_name type arrow_column format_name read_ints_as_dates)
  | .list value_field, arrow_column, format_name, read_ints_as_dates => by
    rw [readNonNullable]
    exact Raises.fastPath (((readColumnFromArrowColumn_raises_all value_field _ format_name
      read_ints_as_dates).mono fun _ => Or.inl).bind fun _ =>
        (Raises.ofExcept fun _ he => Or.inr ⟨_, _, he⟩).bind fun _ => Raises.pure _)
  | .map entries, arrow_column, format_name, read_ints_as_dates => by
    rw [readNonNullable]
    exact Raises.fastPath (((readColumnFromArrowColumn_raises_all entries _ format_name
      read_ints_as_dates).mono fun _ => Or.inl).bind fun _ =>
        (Raises.ofExcept fun _ he => Or.inr (Or.inl ⟨_, _, _, he⟩)).bind fun _ =>
          (Raises.ofExcept fun _ he => Or.inr (Or.inr ⟨_, _, he⟩)).bind fun _ => Raises.pure _)
  | .struct fields, arrow_column, format_name, read_ints_as_dates => by
    rw [readNonNullable]
    refine Raises.fastPath (((readStructFields_raises fields 0 arrow_column format_name
      read_ints_as_dates).mono fun _ => Or.inl).bind_of_keeps (readStructFields_shape bounds
        fields 0 arrow_column format_name read_ints_as_dates) fun _ ⟨hnames, _⟩ =>
          (Raises.ofExcept fun _ he => Or.inr ?_).bind fun _ => Raises.pure _)
    unfold DataTypeTuple.create at he
    rw [hnames] at he
    split at he <;> cases he
    assumption
  | .dictionary index_type value_type, arrow_column, format_name, read_ints_as_dates => by
    rw [readNonNullable]
    have hlow := fun dict_values => lowCardinality_raises column_name index_type arrow_column
      dict_values (E := typeRaises bounds format_name column_name (.dictionary index_type value_type))
      (fun hwidth => Or.inl ⟨hwidth, rfl⟩) fun _ _ he => Or.inr (Or.inr (Or.inr ⟨_, he⟩))
    refine Raises.fastPath (Raises.get_bind fun cache => ?_)
    dsimp only
    split
    · exact (Raises.pure _).bind fun _ => hlow _
    · exact (Raises.readNullable ((readNonNullable_raises "dict" value_type _ format_name
        read_ints_as_dates).mono fun _ => Or.inr ∘ Or.inl)
          fun _ _ he => Or.inr (Or.inr (Or.inl ⟨_, he⟩))).bind fun _ =>
        (Raises.ofExcept fun _ he => Or.inr (Or.inr (Or.inr ⟨_, he⟩))).bind fun _ =>
          (Raises.modify _).bind fun _ => (Raises.pure _).bind fun _ => hlow _
  | .date32, _, _, _ => by
    rw [readNonNullable]
    exact Raises.fastPath (Raises.ofExcept fun _ => readColumnWithDate32Data_eq_error)
  | .decimal128 _ _, _, _, _ | .decimal256 _ _, _, _, _ => by
    rw [readNonNullable]
    exact Raises.fastPath (Raises.ofExcept fun _ => readColumnWithDecimalData_eq_error)
  | .other _, _, _, _ => by
    rw [readNonNullable]
    exact Raises.fastPath (Raises.throw rfl)
  | .bool, _, _, _ | .uint8, _, _, _ | .int8, _, _, _ | .uint16, _, _, _ | .int16, _, _, _
  | .uint32, _, _, _ | .int32, _, _, _ | .uint64, _, _, _ | .int64, _, _, _
  | .halfFloat, _, _, _ | .float, _, _, _ | .double, _, _, _ | .string, _, _, _
  | .binary, _, _, _ | .date64, _, _, _ | .timestamp _ _, _, _, _ => by
    rw [readNonNullable]
    exact Raises.fastPath (Raises.pure _)

theorem readStructFields_raises : ∀ (fields : List Field) (i : Nat)
    (arrow_column : ChunkedArray) (format_name : String) (read_ints_as_dates : Bool),
    Raises (fieldsRaises bounds format_name fields)
      (readStructFields bounds fields i arrow_column format_name read_ints_as_dates)
  | [], _, _, _, _ => by
    rw [readStructFields]
    exact Raises.pure _
  | field :: fields, i, arrow_column, format_name, read_ints_as_dates => by
    rw [readStructFields]
    exact ((readColumnFromArrowColumn_raises_all field _ format_name read_ints_as_dates).mono
      fun _ => Or.inl).bind fun _ => ((readStructFields_raises fields (i + 1) arrow_column
        format_name read_ints_as_dates).mono fun _ => Or.inr).bind fun _ => Raises.pure _
end

/-- `Nullable` refuses what a list, a map, a struct or a dictionary converts to: off the
`CHStringArray` fast path, a nullable field of such a type never converts. From every
cache it throws what the conversion of its nested column throws or, when that column
converts, `ILLEGAL_TYPE_OF_ARGUMENT` naming the column's type. -/
theorem readColumnFromArrowColumn_nullable_nested_throws (column_name : String)
    (type : Arrow.DataType) (htype : type.isNested) (arrow_column : ChunkedArray)
    (hhead : ∀ c l o v, arrow_column.head? ≠ some (.chString c l o v)) (format_name : String)
    (read_ints_as_dates : Bool) (dictionary_values : DictionaryValues) :
    ∃ e, ((readColumnFromArrowColumn bounds (.mk column_name type true) arrow_column
        format_name read_ints_as_dates).run.run dictionary_values).1 = .error e ∧
      (((readNonNullable bounds column_name type arrow_column format_name
          read_ints_as_dates).run.run dictionary_values).1 = .error e ∨
        ∃ column, ((readNonNullable bounds column_name type arrow_column format_name
          read_ints_as_dates).run.run dictionary_values).1 = .ok column ∧
          e = ⟨.ILLEGAL_TYPE_OF_ARGUMENT,
            "Nested type " ++ column.type.getName ++ " cannot be inside Nullable type"⟩) := by
  have hrefused := (readNonNullable_refused bounds column_name type htype arrow_column hhead
    format_name read_ints_as_dates dictionary_values trivial).2
  rw [readColumnFromArrowColumn_mk, readNullable_run]
  revert hrefused
  rcases (readNonNullable bounds column_name type arrow_column format_name
    read_ints_as_dates).run.run dictionary_values with ⟨_ | column, c⟩ <;> intro hrefused
  · exact ⟨_, rfl, .inl rfl⟩
  · dsimp only
    rw [DataTypeNullable.create, if_neg (by simp [hrefused column rfl])]
    exact ⟨_, rfl, .inr ⟨column, rfl, rfl⟩⟩

/-- A nullable list of `Int32` values, of one row `[7]`. -/
def nullableListField : Field := .mk "l" (.list (.mk "item" .int32 false)) true

def nullableListColumn : ChunkedArray :=
  [.list 1 0 none [0, 1] (.primitive 1 0 none [7, 0, 0, 0])]

theorem readColumnFromArrowColumn_nullable_nested_throws_list :
    ((Arrow.DataType.list (.mk "item" .int32 false)).isNested ∧
        ∀ c l o v, nullableListColumn.head? ≠ some (.chString c l o v)) ∧
      ((readColumnFromArrowColumn sampleDateBounds nullableListField nullableListColumn "Parquet"
        true).run.run fun _ => none).1 = .error ⟨.ILLEGAL_TYPE_OF_ARGUMENT,
          "Nested type Array(Int32) cannot be inside Nullable type"⟩ ∧
      ∃ e, ((readColumnFromArrowColumn sampleDateBounds nullableListField nullableListColumn
          "Parquet" true).run.run fun _ => none).1 = .error e ∧
        (((readNonNullable sampleDateBounds "l" (.list (.mk "item" .int32 false))
            nullableListColumn "Parquet" true).run.run fun _ => none).1 = .error e ∨
          ∃ column, ((readNonNullable sampleDateBounds "l" (.list (.mk "item" .int32 false))
            nullableListColumn "Parquet" true).run.run fun _ => none).1 = .ok column ∧
            e = ⟨.ILLEGAL_TYPE_OF_ARGUMENT,
              "Nested type " ++ column.type.getName ++ " cannot be inside Nullable type"⟩) :=
  have hhead : ∀ c l o v, nullableListColumn.head? ≠ some (.chString c l o v) :=
    fun _ _ _ _ h => by cases h
  ⟨⟨rfl, hhead⟩, rfl, readColumnFromArrowColumn_nullable_nested_throws sampleDateBounds "l"
    (.list (.mk "item" .int32 false)) rfl nullableListColumn hhead "Parquet" true fun _ => none⟩

end GlutenBridge
