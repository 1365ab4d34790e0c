import GlutenBridge.Convert.Shape
import GlutenBridge.Convert.Dictionary

/-!
# The type of a converted column

`fieldCHType` is the converter's type table: the ClickHouse type of the column it returns
for an Arrow field, computed from the field and the date flag alone. Every conversion over
chunks without a `CHStringArray` returns a column of that type
(`readColumnFromArrowColumn_type`), provided the dictionary cache is typed: every
dictionary it holds under a name has the type the field's dictionary of that name converts
to (`CacheTyped`), and no name stands for two dictionary types (`Consistent`). The
conversion leaves the cache typed, so the condition, which an empty cache meets, holds
along any sequence of conversions.

A dictionary is looked up by name whatever its type, so neither condition can go: a
dictionary cached under a name by an earlier column, or by an earlier member of the same
struct, decodes every later dictionary column of that name, and the column then has the
type of that dictionary.

Whatever the types, every column the conversion returns over such chunks is laid out as
its declared type requires (`DB.Column.hasType`: a vector of the type's byte width, a
`ColumnString` for `String`, nested columns of the nested types, a `ColumnUnique` under a
`LowCardinality` type), provided every cached dictionary is a `ColumnUnique` for its type
(`CacheHoldsDictionaries`), which the conversion keeps (`readColumnFromArrowColumn_laidOut`).
-/

set_option autoImplicit false

namespace GlutenBridge

open Arrow DB

/-! ## The type table -/

mutual
/-- The type of the column the converter returns for a non-nullable field of type `type`,
over chunks without a `CHStringArray`. -/
def chType (read_ints_as_dates : Bool) : Arrow.DataType → DB.DataType
  | .bool | .uint8 => .uint8
  | .int8 => .int8
  | .uint16 => if read_ints_as_dates then .date else .uint16
  | .int16 => .int16
  | .uint32 => if read_ints_as_dates then .dateTime else .uint32
  | .int32 => .int32
  | .uint64 => .uint64
  | .int64 => .int64
  | .halfFloat | .float => .float32
  | .double => .float64
  | .string | .binary => .string
  | .date32 => .date32
  | .date64 => .dateTime
  | .timestamp unit timezone => .dateTime64 (unit.toNat * 3) timezone
  | .decimal128 precision scale | .decimal256 precision scale => .decimal precision scale.toNat
  | .list value_field => .array (fieldCHType read_ints_as_dates value_field)
  | .map entries => .map ((fieldCHType read_ints_as_dates entries).tupleElement 0)
      ((fieldCHType read_ints_as_dates entries).tupleElement 1)
  | .struct fields => .tuple (fieldsCHType read_ints_as_dates fields) (fields.map Field.name)
  | .dictionary _ value_type => .lowCardinality (.nullable (chType read_ints_as_dates value_type))
  -- never returned: the converter throws
  | .other _ => .tuple [] []

/-- The type of the column the converter returns for a field. For a nullable field of a
`LIST`, `MAP`, `STRUCT` or `DICTIONARY` type it is a type the converter never returns: `Nullable`
refuses the nested type, and the conversion throws. -/
def fieldCHType (read_ints_as_dates : Bool) : Field → DB.DataType
  | .mk _ type is_nullable =>
    if is_nullable then .nullable (chType read_ints_as_dates type)
    else chType read_ints_as_dates type

def fieldsCHType (read_ints_as_dates : Bool) : List Field → List DB.DataType
  | [] => []
  | field :: fields =>
    fieldCHType read_ints_as_dates field :: fieldsCHType read_ints_as_dates fields
end

mutual
/-- Whether a type has a `UINT16` or `UINT32` part: the only parts whose type the date flag
changes. -/
def typeHasDateInts : Arrow.DataType → Bool
  | .uint16 | .uint32 => true
  | .list value_field | .map value_field => fieldHasDateInts value_field
  | .struct fields => fieldsHaveDateInts fields
  | .dictionary _ value_type => typeHasDateInts value_type
  | _ => false

def fieldHasDateInts : Field → Bool
  | .mk _ type _ => typeHasDateInts type

def fieldsHaveDateInts : List Field → Bool
  | [] => false
  | field :: fields => fieldHasDateInts field || fieldsHaveDateInts fields
end

mutual
/-- Without `UINT16` or `UINT32` parts, the date flag does not change the type. -/
theorem chType_dates_eq : ∀ type : Arrow.DataType, typeHasDateInts type = false →
    chType true type = chType false type
  | .list value_field, h | .map value_field, h => by
    rw [chType, chType, fieldCHType_dates_eq value_field h]
  | .struct fields, h => by
    rw [chType, chType, fieldsCHType_dates_eq fields h]
  | .dictionary _ value_type, h => by
    rw [chType, chType, chType_dates_eq value_type h]
  | .bool, _ | .uint8, _ | .int8, _ | .int16, _ | .int32, _ | .uint64, _ | .int64, _
  | .halfFloat, _ | .float, _ | .double, _ | .string, _ | .binary, _ | .date32, _
  | .date64, _ | .timestamp _ _, _ | .decimal128 _ _, _ | .decimal256 _ _, _
  | .other _, _ => rfl

theorem fieldCHType_dates_eq : ∀ field : Field, fieldHasDateInts field = false →
    fieldCHType true field = fieldCHType false field
  | .mk _ type _, h => by
    rw [fieldCHType, fieldCHType, chType_dates_eq type h]

theorem fieldsCHType_dates_eq : ∀ fields : List Field, fieldsHaveDateInts fields = false →
    fieldsCHType true fields = fieldsCHType false fields
  | [], _ => rfl
  | field :: fields, h => by
    rw [fieldsHaveDateInts, Bool.or_eq_false_iff] at h
    rw [fieldsCHType, fieldsCHType, fieldCHType_dates_eq field h.1,
      fieldsCHType_dates_eq fields h.2]
end

/-! ## Typed caches -/

mutual
/-- The dictionaries converting a field stores: each dictionary name of the field with the
type of the dictionary column built under it. -/
def dictTypes (read_ints_as_dates : Bool) : Field → List (String × DB.DataType)
  | .mk name type _ => typeDictTypes read_ints_as_dates name type

def typeDictTypes (read_ints_as_dates : Bool) (name : String) :
    Arrow.DataType → List (String × DB.DataType)
  | .list value_field => dictTypes read_ints_as_dates value_field
  | .map entries => dictTypes read_ints_as_dates entries
  | .struct fields => fieldsDictTypes read_ints_as_dates fields
  | .dictionary _ value_type => (name, .nullable (chType read_ints_as_dates value_type)) ::
      typeDictTypes read_ints_as_dates "dict" value_type
  | _ => []

def fieldsDictTypes (read_ints_as_dates : Bool) : List Field → List (String × DB.DataType)
  | [] => []
  | field :: fields =>
    dictTypes read_ints_as_dates field ++ fieldsDictTypes read_ints_as_dates fields
end

mutual
theorem map_fst_dictTypes (read_ints_as_dates : Bool) :
    ∀ field : Field, (dictTypes read_ints_as_dates field).map Prod.fst = dictNames field
  | .mk name type _ => map_fst_typeDictTypes read_ints_as_dates name type

theorem map_fst_typeDictTypes (read_ints_as_dates : Bool) (name : String) :
    ∀ type : Arrow.DataType,
      (typeDictTypes read_ints_as_dates name type).map Prod.fst = typeDictNames name type
  | .list value_field => map_fst_dictTypes read_ints_as_dates value_field
  | .map entries => map_fst_dictTypes read_ints_as_dates entries
  | .struct fields => map_fst_fieldsDictTypes read_ints_as_dates fields
  | .dictionary _ value_type => by
    rw [typeDictTypes, typeDictNames, List.map_cons,
      map_fst_typeDictTypes read_ints_as_dates "dict" value_type]
  | .bool | .uint8 | .int8 | .uint16 | .int16 | .uint32 | .int32 | .uint64 | .int64
  | .halfFloat | .float | .double | .string | .binary | .date32 | .date64 | .timestamp _ _
  | .decimal128 _ _ | .decimal256 _ _ | .other _ => rfl

theorem map_fst_fieldsDictTypes (read_ints_as_dates : Bool) :
    ∀ fields : List Field,
      (fieldsDictTypes read_ints_as_dates fields).map Prod.fst = fieldsDictNames fields
  | [] => rfl
  | field :: fields => by
    rw [fieldsDictTypes, fieldsDictNames, List.map_append, map_fst_dictTypes,
      map_fst_fieldsDictTypes read_ints_as_dates fields]
end

/-- No name stands for two dictionary types. -/
def Consistent (L : List (String × DB.DataType)) : Prop :=
  ∀ p ∈ L, ∀ q ∈ L, p.1 = q.1 → p.2 = q.2

/-- Distinct names are consistent. -/
theorem consistent_of_nodup {L : List (String × DB.DataType)} (h : (L.map Prod.fst).Nodup) :
    Consistent L :=
  fun _ hp _ hq heq => congrArg Prod.snd (List.inj_on_of_nodup_map h hp hq heq)

/-- A field whose dictionary names are distinct has consistent dictionary types. -/
theorem consistent_dictTypes {field : Field} (read_ints_as_dates : Bool)
    (h : (dictNames field).Nodup) : Consistent (dictTypes read_ints_as_dates field) :=
  consistent_of_nodup (by rwa [map_fst_dictTypes])

/-- Every dictionary the cache holds has the type `L` gives its name. -/
def CacheTyped (L : List (String × DB.DataType)) (cache : DictionaryValues) : Prop :=
  ∀ name dict_values, cache name = some dict_values →
    ∀ type, (name, type) ∈ L → dict_values.type = type

theorem cacheTyped_empty (L : List (String × DB.DataType)) : CacheTyped L fun _ => none :=
  fun _ _ h => nomatch h

/-- Storing a dictionary of the type `L` gives its name keeps the cache typed. -/
theorem CacheTyped.update {L : List (String × DB.DataType)} {cache : DictionaryValues}
    (h : CacheTyped L cache) (hL : Consistent L) {name : String}
    {dict_values : ColumnWithTypeAndName} (hmem : (name, dict_values.type) ∈ L) :
    CacheTyped L (Function.update cache name (some dict_values)) := by
  intro n d hd type htype
  rcases eq_or_ne n name with rfl | hne
  · rw [Function.update_same] at hd
    cases hd
    exact hL _ hmem _ htype rfl
  · rw [Function.update_noteq hne] at hd
    exact h n d hd type htype

/-! ## Chunks without a `CHStringArray` -/

theorem Arrow.Array.noCHString_dictionary {a : Arrow.Array} (h : a.noCHString) :
    a.dictionary.noCHString := by
  cases a with
  | dictEncoded indices dictionary =>
    simp only [Arrow.Array.noCHString, Bool.and_eq_true] at h
    exact h.2
  | _ => rfl

theorem noCHString_map {arrow_column : ChunkedArray} (h : ∀ a ∈ arrow_column, a.noCHString)
    {f : Arrow.Array → Arrow.Array}
    (hf : ∀ a : Arrow.Array, a.noCHString → (f a).noCHString) :
    ∀ a ∈ arrow_column.map f, a.noCHString := by
  simp only [List.mem_map]
  rintro _ ⟨a, ha, rfl⟩
  exact hf a (h a ha)

/-- Chunks without a `CHStringArray` never take the fast path. -/
theorem fastPath_of_noCHString {I : DictionaryValues → Prop} {column_name : String}
    {arrow_column : ChunkedArray} {Q : ColumnWithTypeAndName → Prop}
    {body : ConvM ColumnWithTypeAndName} (hno : ∀ a ∈ arrow_column, a.noCHString)
    (hbody : Keeps I Q body) :
    Keeps I Q (match arrow_column.head? with
      | some (.chString column _ _ _) => Pure.pure { column with name := column_name }
      | _ => body) :=
  Keeps.fastPath (fun _ _ _ _ h =>
    absurd (hno _ (List.mem_of_mem_head? h)) (by simp [Arrow.Array.noCHString])) hbody

/-! ## The converter -/

/-- A step proved to keep `I` and one proved to return values satisfying `Q` return values
satisfying both. -/
theorem Keeps.and_triv {I : DictionaryValues → Prop} {α : Type} {P Q : α → Prop}
    {x : ConvM α}
    (hP : Keeps I P x) (hQ : Keeps (fun _ => True) Q x) : Keeps I (fun a => P a ∧ Q a) x :=
  fun c hc => ⟨(hP c hc).1, fun a ha => ⟨(hP c hc).2 a ha, (hQ c trivial).2 a ha⟩⟩

theorem readColumnWithDecimalData_type {sourceWidth precision : Nat} {scale : Int}
    {arrow_column : ChunkedArray} {column_name : String} {column : ColumnWithTypeAndName}
    (h : readColumnWithDecimalData sourceWidth precision scale arrow_column column_name =
      .ok column) :
    column.type = .decimal precision scale.toNat := by
  unfold readColumnWithDecimalData createDecimal at h
  split_ifs at h
  · cases h
  · cases h
  · cases h
    rfl

variable (bounds : DateBounds) {L : List (String × DB.DataType)}

/-- The `LowCardinality` column over a dictionary of the table's type. -/
theorem lowCardinality_typed (column_name : String) (index_type value_type : Arrow.DataType)
    (read_ints_as_dates : Bool) (arrow_column : ChunkedArray) (dict_values : ColumnWithTypeAndName)
    (hdict : dict_values.type = .nullable (chType read_ints_as_dates value_type)) :
    Keeps (CacheTyped L) (fun column : ColumnWithTypeAndName =>
        column.type = chType read_ints_as_dates (.dictionary index_type value_type))
      (pure dict_values >>= fun dict_values => do
        let indexes_column ← ConvM.ofExcept
          (readColumnWithIndexesData index_type (arrow_column.map Arrow.Array.indices))
        let lc_type ← ConvM.ofExcept (DataTypeLowCardinality.create dict_values.type)
        pure (⟨.lowCardinality dict_values.column indexes_column.vectorData, lc_type,
          column_name⟩ : ColumnWithTypeAndName)) :=
  (Keeps.pure (P := fun d : ColumnWithTypeAndName => d = dict_values) rfl).bind fun _ hd =>
    (Keeps.ofExcept (P := fun _ => True) fun _ _ => trivial).bind fun _ _ =>
      (Keeps.ofExcept fun _ h => DataTypeLowCardinality.create_eq_ok h).bind fun _ htype =>
        Keeps.pure (htype.trans (congrArg DB.DataType.lowCardinality (hd ▸ hdict)))

mutual
/-- Over chunks without a `CHStringArray`, from a cache typed by a consistent `L` that
includes the field's dictionary types, a conversion returns a column of the table's type
and keeps the cache typed. -/
theorem readColumnFromArrowColumn_typed (hL : Consistent L) : ∀ (field : Field)
    (arrow_column : ChunkedArray) (format_name : String) (read_ints_as_dates : Bool),
    (∀ p ∈ dictTypes read_ints_as_dates field, p ∈ L) →
      (∀ a ∈ arrow_column, a.noCHString) →
    Keeps (CacheTyped L) (fun column => column.type = fieldCHType read_ints_as_dates field)
      (readColumnFromArrowColumn bounds field arrow_column format_name read_ints_as_dates)
  | .mk column_name type is_nullable, arrow_column, format_name, read_ints_as_dates,
      hsub, hno => by
    have h := readNonNullable_typed hL column_name type arrow_column format_name
      read_ints_as_dates hsub hno
    rw [readColumnFromArrowColumn]
    cases is_nullable
    · exact h
    · exact Keeps.readNullable h fun _ hcolumn => congrArg DB.DataType.nullable hcolumn

theorem readNonNullable_typed (hL : Consistent L) (column_name : String) :
    ∀ (type : Arrow.DataType) (arrow_column : ChunkedArray) (format_name : String)
      (read_ints_as_dates : Bool),
    (∀ p ∈ typeDictTypes read_ints_as_dates column_name type, p ∈ L) →
      (∀ a ∈ arrow_column, a.noCHString) →
    Keeps (CacheTyped L) (fun column => column.type = chType read_ints_as_dates type)
      (readNonNullable bounds column_name type arrow_column format_name read_ints_as_dates)
  | .list value_field, arrow_column, format_name, read_ints_as_dates, hsub, hno => by
    rw [readNonNullable]
    exact fastPath_of_noCHString hno
      ((readColumnFromArrowColumn_typed hL value_field _ format_name read_ints_as_dates hsub
        (noCHString_map hno fun _ => Arrow.Array.noCHString_values)).bind fun _ hnested =>
          (Keeps.ofExcept (P := fun _ => True) fun _ _ => trivial).bind fun _ _ =>
            Keeps.pure (congrArg DB.DataType.array hnested))
  | .map entries, arrow_column, format_name, read_ints_as_dates, hsub, hno => by
    rw [readNonNullable]
    exact fastPath_of_noCHString hno
      ((readColumnFromArrowColumn_typed hL entries _ format_name read_ints_as_dates hsub
        (noCHString_map hno fun _ => Arrow.Array.noCHString_values)).bind fun _ hnested =>
          (Keeps.ofExcept (P := fun _ => True) fun _ _ => trivial).bind fun _ _ =>
            (Keeps.ofExcept fun _ h => DataTypeMap.create_eq_ok h).bind fun _ htype =>
              Keeps.pure (by rw [htype, hnested]; rfl))
  | .struct fields, arrow_column, format_name, read_ints_as_dates, hsub, hno => by
    rw [readNonNullable]
    exact fastPath_of_noCHString hno
      (((readStructFields_typed hL fields 0 arrow_column format_name read_ints_as_dates hsub
        hno).and_triv (readStructFields_shape bounds fields 0 arrow_column format_name
          read_ints_as_dates)).bind fun _ ⟨htypes, hnames, _⟩ =>
            (Keeps.ofExcept fun _ h => DataTypeTuple.create_eq_ok h).bind fun _ htype =>
              Keeps.pure (by rw [htype, htypes, hnames]; rfl))
  | .dictionary index_type value_type, arrow_column, format_name, read_ints_as_dates,
      hsub, hno => by
    rw [readNonNullable]
    have hmem := hsub _ (List.mem_cons_self _ _)
    have hlow := lowCardinality_typed (L := L) column_name index_type value_type
      read_ints_as_dates arrow_column
    refine fastPath_of_noCHString hno (Keeps.get_bind fun cache hcache => ?_)
    dsimp only
    split
    · exact hlow _ (hcache _ _ ‹_› _ hmem)
    · exact (Keeps.readNullable (readNonNullable_typed hL "dict" value_type _ format_name
        read_ints_as_dates (fun p hp => hsub p (List.mem_cons_of_mem _ hp))
        (noCHString_map hno fun _ => Arrow.Array.noCHString_dictionary))
          fun _ hcolumn => congrArg DB.DataType.nullable hcolumn).bind fun _ hdict =>
        (Keeps.ofExcept (P := fun _ => True) fun _ _ => trivial).bind fun _ _ =>
        (Keeps.modify fun _ hc => hc.update hL (hdict ▸ hmem)).bind fun _ _ => hlow _ hdict
  | .uint16, _, _, read_ints_as_dates, _, hno | .uint32, _, _, read_ints_as_dates, _, hno => by
    rw [readNonNullable]
    exact fastPath_of_noCHString hno (Keeps.pure (by cases read_ints_as_dates <;> rfl))
  | .bool, _, _, _, _, hno | .uint8, _, _, _, _, hno | .int8, _, _, _, _, hno
  | .int16, _, _, _, _, hno | .int32, _, _, _, _, hno | .uint64, _, _, _, _, hno
  | .int64, _, _, _, _, hno | .halfFloat, _, _, _, _, hno | .float, _, _, _, _, hno
  | .double, _, _, _, _, hno | .string, _, _, _, _, hno | .binary, _, _, _, _, hno
  | .date64, _, _, _, _, hno | .timestamp _ _, _, _, _, _, hno => by
    rw [readNonNullable]
    exact fastPath_of_noCHString hno (Keeps.pure rfl)
  | .date32, _, _, _, _, hno => by
    rw [readNonNullable]
    exact fastPath_of_noCHString hno (Keeps.ofExcept fun _ h => by
      rw [readColumnWithDate32Data_eq_ok h]
      rfl)
  | .decimal128 _ _, _, _, _, _, hno | .decimal256 _ _, _, _, _, _, hno => by
    rw [readNonNullable]
    exact fastPath_of_noCHString hno (Keeps.ofExcept fun _ h => readColumnWithDecimalData_type h)
  | .other _, _, _, _, _, hno => by
    rw [readNonNullable]
    exact fastPath_of_noCHString hno (Keeps.throw _)

theorem readStructFields_typed (hL : Consistent L) : ∀ (fields : List Field) (i : Nat)
    (arrow_column : ChunkedArray) (format_name : String) (read_ints_as_dates : Bool),
    (∀ p ∈ fieldsDictTypes read_ints_as_dates fields, p ∈ L) →
      (∀ a ∈ arrow_column, a.noCHString) →
    Keeps (CacheTyped L) (fun elements : List ColumnWithTypeAndName =>
        elements.map (·.type) = fieldsCHType read_ints_as_dates fields)
      (readStructFields bounds fields i arrow_column format_name read_ints_as_dates)
  | [], _, _, _, _, _, _ => by
    rw [readStructFields]
    exact Keeps.pure rfl
  | field :: fields, i, arrow_column, format_name, read_ints_as_dates, hsub, hno => by
    rw [readStructFields]
    exact (readColumnFromArrowColumn_typed hL field _ format_name read_ints_as_dates
      (fun p hp => hsub p (List.mem_append_left _ hp))
      (noCHString_map hno fun _ h => Arrow.Array.noCHString_field h i)).bind fun _ helement =>
        (readStructFields_typed hL fields (i + 1) arrow_column format_name read_ints_as_dates
          (fun p hp => hsub p (List.mem_append_right _ hp)) hno).bind fun _ helements =>
            Keeps.pure (by rw [List.map_cons, helement, helements]; rfl)
end

/-- Over chunks without a `CHStringArray`, a conversion from a cache whose every dictionary
has the type a consistent `L` gives its name, `L` holding the field's dictionary types,
returns a column of the type the table gives the field, and leaves the cache so typed. -/
theorem readColumnFromArrowColumn_type (field : Field) (arrow_column : ChunkedArray)
    (format_name : String) (read_ints_as_dates : Bool) (hL : Consistent L)
    (hsub : ∀ p ∈ dictTypes read_ints_as_dates field, p ∈ L)
    (hno : ∀ a ∈ arrow_column, a.noCHString) (dictionary_values : DictionaryValues)
    (htyped : CacheTyped L dictionary_values) :
    CacheTyped L ((readColumnFromArrowColumn bounds field arrow_column format_name
        read_ints_as_dates).run.run dictionary_values).2 ∧
      ∀ column, ((readColumnFromArrowColumn bounds field arrow_column format_name
        read_ints_as_dates).run.run dictionary_values).1 = .ok column →
        column.type = fieldCHType read_ints_as_dates field :=
  readColumnFromArrowColumn_typed bounds hL field arrow_column format_name read_ints_as_dates
    hsub hno dictionary_values htyped

/-- Column `a` leaves its dictionary under `item` with the type the table gives it, so
column `b`, whose element field is also `item`, converts to the table's type. -/
theorem readColumnFromArrowColumn_type_cacheAfterListA :
    Consistent (dictTypes true (listOfDictionaryField "a" "item")) ∧
      CacheTyped (dictTypes true (listOfDictionaryField "a" "item")) cacheAfterListA ∧
      ∀ column, ((readColumnFromArrowColumn sampleDateBounds (listOfDictionaryField "b" "item")
          (listOfDictionaryColumn 114 115 121) "Parquet" true).run.run cacheAfterListA).1 =
          .ok column → column.type = fieldCHType true (listOfDictionaryField "b" "item") :=
  have hL : Consistent (dictTypes true (listOfDictionaryField "a" "item")) :=
    consistent_of_nodup (by decide)
  have htyped := (readColumnFromArrowColumn_type sampleDateBounds
    (listOfDictionaryField "a" "item") (listOfDictionaryColumn 112 113 120) "Parquet" true hL
    (fun _ h => h) (by decide) _ (cacheTyped_empty _)).1
  ⟨hL, htyped, (readColumnFromArrowColumn_type sampleDateBounds
    (listOfDictionaryField "b" "item") (listOfDictionaryColumn 114 115 121) "Parquet" true hL
    (fun _ h => h) (by decide) _ htyped).2⟩

/-- Without consistency the type is lost: two members of a struct, lists whose element
fields `item` are dictionaries of strings and of integers, both decode with the strings'
dictionary, cached by the first. -/
example : ((readColumnFromArrowColumn sampleDateBounds (.mk "s" (.struct
        [.mk "a" (.list (.mk "item" (.dictionary .int32 .string) false)) false,
          .mk "b" (.list (.mk "item" (.dictionary .int32 .int32) false)) false])
        false) [] "Parquet" true).run.run fun _ => none).1.map (·.type) =
      .ok (.tuple [.array (.lowCardinality (.nullable .string)),
        .array (.lowCardinality (.nullable .string))] ["a", "b"]) ∧
    fieldCHType true (.mk "s" (.struct
        [.mk "a" (.list (.mk "item" (.dictionary .int32 .string) false)) false,
          .mk "b" (.list (.mk "item" (.dictionary .int32 .int32) false)) false]) false) =
      .tuple [.array (.lowCardinality (.nullable .string)),
        .array (.lowCardinality (.nullable .int32))] ["a", "b"] :=
  ⟨rfl, rfl⟩

/-! ## Columns laid out as their types -/

/-- The width, in bytes, of the values of a fixed-width type. -/
def DB.DataType.valueWidth : DB.DataType → Option Nat
  | .uint8 | .int8 => some 1
  | .uint16 | .int16 | .date => some 2
  | .uint32 | .int32 | .float32 | .date32 | .dateTime => some 4
  | .uint64 | .int64 | .float64 | .dateTime64 _ _ => some 8
  | .decimal precision _ => some (decimalWidth precision)
  | _ => none

/-- `IDataType::isNullable()`. -/
def DB.DataType.isNullable : DB.DataType → Bool
  | .nullable _ => true
  | _ => false

/-- A `ColumnUnique` nullable exactly when the type is: the dictionary a `LowCardinality`
column of that type needs. -/
def DB.Column.isDictionaryOf : Column → DB.DataType → Bool
  | .unique isNullable _, type => isNullable == type.isNullable
  | _, _ => false

mutual
/-- A column laid out as its type requires, as the `assert_cast`s of ClickHouse on a
column of that type expect: values of the type's width, strings for `String`, the parts of
a nested column of the types of the parts of its type, and a `LowCardinality` column over
a dictionary for its type. -/
def DB.Column.hasType : Column → DB.DataType → Bool
  | .vector width _, type => type.valueWidth == some width
  | .string _ _, .string => true
  | .nullable nested _, .nullable type => nested.hasType type
  | .array data _, .array type => data.hasType type
  | .map keys values _, .map key_type value_type =>
    keys.hasType key_type && values.hasType value_type
  | .tuple elements, .tuple types _ => DB.Column.allHaveTypes elements types
  | .lowCardinality dictionary _, .lowCardinality type => dictionary.isDictionaryOf type
  | _, _ => false

def DB.Column.allHaveTypes : List Column → List DB.DataType → Bool
  | [], [] => true
  | column :: columns, type :: types =>
    column.hasType type && DB.Column.allHaveTypes columns types
  | _, _ => false
end

theorem DB.Column.allHaveTypes_getD : ∀ {columns : List Column} {types : List DB.DataType},
    DB.Column.allHaveTypes columns types →
      ∀ i, (columns.getD i (.tuple [])).hasType (types.getD i (.tuple [] []))
  | [], [], _, _ => rfl
  | c :: _, t :: _, h, i => by
    obtain ⟨hc, hcs⟩ := (Bool.and_eq_true (c.hasType t) _).mp h
    cases i
    exacts [hc, allHaveTypes_getD hcs _]
  | [], _ :: _, h, _ | _ :: _, [], h, _ => nomatch h

/-- The elements of a tuple column have the types of the tuple's elements; any other
column and type both read as the empty tuple. -/
theorem DB.Column.hasType_tupleElement {column : Column} {type : DB.DataType}
    (h : column.hasType type) (i : Nat) : (column.tupleElement i).hasType (type.tupleElement i) := by
  cases column with
  | tuple elements =>
    cases type with
    | tuple types _ => exact DB.Column.allHaveTypes_getD h i
    | _ => cases h
  | _ =>
    cases type with
    | tuple types _ => cases h
    | _ => rfl

/-- Every dictionary the cache holds is a `ColumnUnique` for its type. -/
def CacheHoldsDictionaries (dictionary_values : DictionaryValues) : Prop :=
  ∀ name dict_values, dictionary_values name = some dict_values →
    dict_values.column.isDictionaryOf dict_values.type

theorem isDictionaryOf_buildDictionary (dict_column : ColumnWithTypeAndName) :
    (buildDictionary dict_column).column.isDictionaryOf dict_column.type := by
  rcases dict_column with ⟨column, type, name⟩
  cases type <;> rfl

theorem CacheHoldsDictionaries.update {cache : DictionaryValues}
    (h : CacheHoldsDictionaries cache) (name : String) (dict_column : ColumnWithTypeAndName) :
    CacheHoldsDictionaries (Function.update cache name (some (buildDictionary dict_column))) := by
  intro n d hd
  rcases eq_or_ne n name with rfl | hne
  · rw [Function.update_same] at hd
    cases hd
    exact isDictionaryOf_buildDictionary dict_column
  · rw [Function.update_noteq hne] at hd
    exact h n d hd

/-- A fixed-width column of the type's width. -/
theorem hasType_vector {type : DB.DataType} {width : Nat} (data : List Nat)
    (h : type.valueWidth = some width) : (Column.vector width data).hasType type :=
  show (type.valueWidth == some width) = true by rw [h]; exact beq_self_eq_true _

/-- What the fast path leaves of the postcondition: nothing, since chunks without a
`CHStringArray` never take it. -/
theorem fastPath_laidOut {I : DictionaryValues → Prop} {column_name : String}
    {arrow_column : ChunkedArray} {body : ConvM ColumnWithTypeAndName}
    (hbody : Keeps I (fun column => (∀ a ∈ arrow_column, a.noCHString) →
      column.column.hasType column.type) body) :
    Keeps I (fun column => (∀ a ∈ arrow_column, a.noCHString) →
        column.column.hasType column.type)
      (match arrow_column.head? with
        | some (.chString column _ _ _) => Pure.pure { column with name := column_name }
        | _ => body) :=
  Keeps.fastPath (fun _ _ _ _ h hno =>
    absurd (hno _ (List.mem_of_mem_head? h)) (by simp [Arrow.Array.noCHString])) hbody

/-- The `LowCardinality` column over a dictionary for its type. -/
theorem lowCardinality_laidOut (column_name : String) (index_type : Arrow.DataType)
    (arrow_column : ChunkedArray) (dict_values : ColumnWithTypeAndName)
    (hdict : dict_values.column.isDictionaryOf dict_values.type) :
    Keeps CacheHoldsDictionaries (fun column : ColumnWithTypeAndName =>
        (∀ a ∈ arrow_column, a.noCHString) → column.column.hasType column.type)
      (pure dict_values >>= fun dict_values => do
        let indexes_column ← ConvM.ofExcept
          (readColumnWithIndexesData index_type (arrow_column.map Arrow.Array.indices))
        let lc_type ← ConvM.ofExcept (DataTypeLowCardinality.create dict_values.type)
        pure (⟨.lowCardinality dict_values.column indexes_column.vectorData, lc_type,
          column_name⟩ : ColumnWithTypeAndName)) :=
  (Keeps.pure (P := fun d : ColumnWithTypeAndName => d = dict_values) rfl).bind fun _ hd =>
    (Keeps.ofExcept (P := fun _ => True) fun _ _ => trivial).bind fun _ _ =>
      (Keeps.ofExcept fun _ h => DataTypeLowCardinality.create_eq_ok h).bind fun _ htype =>
        Keeps.pure fun _ => by rw [htype]; exact hd ▸ hdict

mutual
/-- A conversion keeps every cached dictionary a `ColumnUnique` for its type and, over
chunks without a `CHStringArray`, returns a column laid out as its type requires. -/
theorem readColumnFromArrowColumn_laidOut : ∀ (field : Field) (arrow_column : ChunkedArray)
    (format_name : String) (read_ints_as_dates : Bool),
    Keeps CacheHoldsDictionaries (fun column => (∀ a ∈ arrow_column, a.noCHString) →
        column.column.hasType column.type)
      (readColumnFromArrowColumn bounds field arrow_column format_name read_ints_as_dates)
  | .mk column_name type is_nullable, arrow_column, format_name, read_ints_as_dates => by
    have h := readNonNullable_laidOut column_name type arrow_column format_name
      read_ints_as_dates
    rw [readColumnFromArrowColumn]
    cases is_nullable
    · exact h
    · exact Keeps.readNullable h fun _ hcolumn hno => hcolumn hno

theorem readNonNullable_laidOut (column_name : String) : ∀ (type : Arrow.DataType)
    (arrow_column : ChunkedArray) (format_name : String) (read_ints_as_dates : Bool),
    Keeps CacheHoldsDictionaries (fun column => (∀ a ∈ arrow_column, a.noCHString) →
        column.column.hasType column.type)
      (readNonNullable bounds column_name type arrow_column format_name read_ints_as_dates)
  | .list value_field, arrow_column, format_name, read_ints_as_dates => by
    rw [readNonNullable]
    exact fastPath_laidOut ((readColumnFromArrowColumn_laidOut value_field _ format_name
      read_ints_as_dates).bind fun _ hnested =>
        (Keeps.ofExcept fun _ h => (ColumnArray.create_eq_ok h).1).bind fun _ harray =>
          Keeps.pure fun hno => by
            rw [harray]
            exact hnested (noCHString_map hno fun _ => Arrow.Array.noCHString_values))
  | .map entries, arrow_column, format_name, read_ints_as_dates => by
    rw [readNonNullable]
    refine fastPath_laidOut ((readColumnFromArrowColumn_laidOut entries _ format_name
      read_ints_as_dates).bind fun _ hnested =>
        (Keeps.ofExcept fun _ h => (ColumnMap.create_eq_ok h).1).bind fun _ hmap =>
          (Keeps.ofExcept fun _ h => DataTypeMap.create_eq_ok h).bind fun _ htype =>
            Keeps.pure fun hno => ?_)
    have hentries := hnested (noCHString_map hno fun _ => Arrow.Array.noCHString_values)
    rw [hmap, htype]
    exact (Bool.and_eq_true _ _).mpr
      ⟨DB.Column.hasType_tupleElement hentries 0, DB.Column.hasType_tupleElement hentries 1⟩
  | .struct fields, arrow_column, format_name, read_ints_as_dates => by
    rw [readNonNullable]
    exact fastPath_laidOut ((readStructFields_laidOut fields 0 arrow_column format_name
      read_ints_as_dates).bind fun _ helements =>
        (Keeps.ofExcept fun _ h => DataTypeTuple.create_eq_ok h).bind fun _ htype =>
          Keeps.pure fun hno => by rw [htype]; exact helements hno)
  | .dictionary index_type value_type, arrow_column, format_name, read_ints_as_dates => by
    rw [readNonNullable]
    refine fastPath_laidOut (Keeps.get_bind fun cache hcache => ?_)
    dsimp only
    split
    · exact lowCardinality_laidOut column_name index_type arrow_column _ (hcache _ _ ‹_›)
    · exact (Keeps.readNullable (Q := fun _ => True) (readNonNullable_laidOut "dict" value_type
        _ format_name read_ints_as_dates) fun _ _ => trivial).bind fun dict_column _ =>
        (Keeps.ofExcept (P := fun _ => True) fun _ _ => trivial).bind fun _ _ =>
        (Keeps.modify fun _ hc => hc.update column_name dict_column).bind fun _ _ =>
          lowCardinality_laidOut column_name index_type arrow_column _
            (isDictionaryOf_buildDictionary dict_column)
  | .uint16, _, _, read_ints_as_dates | .uint32, _, _, read_ints_as_dates => by
    rw [readNonNullable]
    exact fastPath_laidOut (Keeps.pure fun _ => by cases read_ints_as_dates <;> rfl)
  | .bool, _, _, _ | .uint8, _, _, _ | .int8, _, _, _ | .int16, _, _, _ | .int32, _, _, _
  | .uint64, _, _, _ | .int64, _, _, _ | .halfFloat, _, _, _ | .float, _, _, _
  | .double, _, _, _ | .string, _, _, _ | .binary, _, _, _ | .date64, _, _, _
  | .timestamp _ _, _, _, _ => by
    rw [readNonNullable]
    exact fastPath_laidOut (Keeps.pure fun _ => rfl)
  | .date32, _, _, _ => by
    rw [readNonNullable]
    exact fastPath_laidOut (Keeps.ofExcept fun _ h _ => by
      rw [readColumnWithDate32Data_eq_ok h]
      rfl)
  | .decimal128 _ _, _, _, _ | .decimal256 _ _, _, _, _ => by
    rw [readNonNullable]
    exact fastPath_laidOut (Keeps.ofExcept fun _ h _ => by
      obtain ⟨_, rfl⟩ := readColumnWithDecimalData_eq_ok h
      exact hasType_vector _ rfl)
  | .other _, _, _, _ => by
    rw [readNonNullable]
    exact fastPath_laidOut (Keeps.throw _)

theorem readStructFields_laidOut : ∀ (fields : List Field) (i : Nat)
    (arrow_column : ChunkedArray) (format_name : String) (read_ints_as_dates : Bool),
    Keeps CacheHoldsDictionaries (fun elements : List ColumnWithTypeAndName =>
        (∀ a ∈ arrow_column, a.noCHString) →
          DB.Column.allHaveTypes (elements.map (·.column)) (elements.map (·.type)))
      (readStructFields bounds fields i arrow_column format_name read_ints_as_dates)
  | [], _, _, _, _ => by
    rw [readStructFields]
    exact Keeps.pure fun _ => rfl
  | field :: fields, i, arrow_column, format_name, read_ints_as_dates => by
    rw [readStructFields]
    refine (readColumnFromArrowColumn_laidOut field _ format_name read_ints_as_dates).bind
      fun _ helement => (readStructFields_laidOut fields (i + 1) arrow_column format_name
        read_ints_as_dates).bind fun _ helements => Keeps.pure fun hno => ?_
    exact (Bool.and_eq_true _ _).mpr
      ⟨helement (noCHString_map hno fun _ h => Arrow.Array.noCHString_field h i), helements hno⟩
end

end GlutenBridge
