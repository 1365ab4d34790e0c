import GlutenBridge.Convert.Dictionary
import GlutenBridge.Session.MissingColumns

/-!
# The dictionary cache only grows

A session keeps the dictionaries of its dictionary columns in `dictionary_values` from
one call to the next. A dictionary column stores its dictionary only under a name the
cache lacks when the column's conversion starts, so a dictionary the cache holds is never
replaced or removed: it stays, unchanged, through every later conversion of the session,
failed ones included (`arrowColumnsToCHChunk_keeps_cached_dictionaries`). A dictionary
once cached under a name is thus the one every later column of that name converts with
(`readNonNullable_decodes_with_cached_dictionary`). The dictionary is stored before the
column's indexes are read and before the column is wrapped in `Nullable`, so a nullable
dictionary field, whose `LowCardinality` type `Nullable` refuses, throws and still leaves its
dictionary cached (`readColumnFromArrowColumn_keeps_dictionary_of_nullable`).

`Extends c₀`, the cache holds every dictionary of `c₀`, is kept by every conversion
(`readColumnFromArrowColumn_extends`); the session's loop does to the cache only what its
conversions do (`Session.ConversionsKeep`), so it keeps `Extends c₀` as well.
-/

set_option autoImplicit false

namespace GlutenBridge

open Arrow DB

variable (bounds : DateBounds)

/-! ## The session -/

namespace Session

variable (session : Session) (fns : ClickHouseFunctions)
  (name_to_column_ptr : List (String × ChunkedArray)) (schema : List Field)
  {I : DictionaryValues → Prop}

/-- What a call does to the cache, it does by converting columns of the table, each with
the schema's field of its name: a cache invariant every such conversion keeps, the call
keeps. -/
def ConversionsKeep (I : DictionaryValues → Prop) : Prop :=
  ∀ name arrow_column, lookupColumn name_to_column_ptr name = some arrow_column →
    Keeps I (fun _ => True)
      (readColumnFromArrowColumn bounds (fieldByName schema name) arrow_column
        session.format_name true)

variable {session name_to_column_ptr schema}

theorem readFromNested_keeps (hconv : ConversionsKeep bounds session name_to_column_ptr schema I)
    (name : String) (nested_tables : List (String × ColumnWithTypeAndName)) :
    Keeps I (fun _ => True)
      (session.readFromNested bounds name_to_column_ptr schema name nested_tables) := by
  rw [Session.readFromNested]
  split_ifs
  · dsimp only
    split
    · split
      · exact (keeps_pure_true _).bind fun _ _ => Keeps.pure trivial
      · exact (hconv _ _ ‹_›).bind fun _ _ =>
          (keeps_pure_true _).bind fun _ _ => Keeps.pure trivial
    · exact Keeps.pure trivial
  · exact Keeps.pure trivial

theorem resolveColumn_keeps (hconv : ConversionsKeep bounds session name_to_column_ptr schema I)
    (num_rows : Nat) (header_column : ColumnWithTypeAndName)
    (nested_tables : List (String × ColumnWithTypeAndName)) :
    Keeps I (fun _ => True)
      (session.resolveColumn bounds fns name_to_column_ptr schema num_rows header_column
        nested_tables) := by
  rw [Session.resolveColumn]
  split
  · exact (hconv _ _ ‹_›).bind fun _ _ =>
      (Keeps.ofExcept fun _ _ => trivial).bind fun _ _ => Keeps.pure trivial
  · refine (readFromNested_keeps bounds hconv _ _).bind fun ⟨_, nested_column⟩ _ => ?_
    dsimp only
    split
    · exact (Keeps.ofExcept fun _ _ => trivial).bind fun _ _ => Keeps.pure trivial
    · split_ifs
      · exact Keeps.throw _
      · exact Keeps.pure trivial

theorem resolveColumns_keeps (hconv : ConversionsKeep bounds session name_to_column_ptr schema I)
    (num_rows : Nat) : ∀ (header : List ColumnWithTypeAndName)
    (nested_tables : List (String × ColumnWithTypeAndName)),
    Keeps I (fun _ => True)
      (session.resolveColumns bounds fns name_to_column_ptr schema num_rows header nested_tables)
  | [], _ => by
    rw [Session.resolveColumns]
    exact Keeps.pure trivial
  | header_column :: header, nested_tables => by
    rw [Session.resolveColumns]
    exact (resolveColumn_keeps bounds fns hconv num_rows header_column nested_tables).bind
      fun _ _ => (resolveColumns_keeps hconv num_rows header _).bind fun _ _ => Keeps.pure trivial

theorem arrowColumnsToCHChunk_keeps
    (hconv : ConversionsKeep bounds session name_to_column_ptr schema I) :
    Keeps I (fun _ => True)
      (session.arrowColumnsToCHChunk bounds fns name_to_column_ptr schema) := by
  rw [Session.arrowColumnsToCHChunk.eq_def]
  split
  · exact Keeps.throw _
  · exact (resolveColumns_keeps bounds fns hconv _ _ _).bind fun _ _ =>
      Keeps.ofExcept fun _ _ => trivial

theorem arrowTableToCHChunk_keeps (table : List (Field × ChunkedArray))
    (hconv : ∀ name_to_column_ptr,
      collectColumns table (table.map (·.1.name)) [] = .ok name_to_column_ptr →
        ConversionsKeep bounds session name_to_column_ptr (table.map (·.1)) I) :
    Keeps I (fun _ => True) (session.arrowTableToCHChunk bounds fns table) := by
  rw [Session.arrowTableToCHChunk]
  refine (Keeps.ofExcept (P := fun name_to_column_ptr =>
    ConversionsKeep bounds session name_to_column_ptr (table.map (·.1)) I) hconv).bind
      fun name_to_column_ptr hntc => ?_
  split_ifs
  · exact Keeps.pure trivial
  · exact (arrowColumnsToCHChunk_keeps bounds fns hntc).bind fun _ _ => Keeps.pure trivial

end Session

/-- The caches a session reaches from the cache `c`: after any conversion of a column,
as the loop of a call makes from one column to the next, or any whole call of either
entry point, on any tables, whether it returns or throws. -/
inductive SessionCacheFrom (c : DictionaryValues) : DictionaryValues → Prop
  | start : SessionCacheFrom c c
  | column {c' : DictionaryValues} (field : Field) (arrow_column : ChunkedArray)
      (format_name : String) (read_ints_as_dates : Bool) :
      SessionCacheFrom c c' →
        SessionCacheFrom c ((readColumnFromArrowColumn bounds field arrow_column format_name
          read_ints_as_dates).run.run c').2
  | table {c' : DictionaryValues} (session : Session) (fns : ClickHouseFunctions)
      (table : List (Field × ChunkedArray)) :
      SessionCacheFrom c c' →
        SessionCacheFrom c ((session.arrowTableToCHChunk bounds fns table).run.run c').2
  | columns {c' : DictionaryValues} (session : Session) (fns : ClickHouseFunctions)
      (name_to_column_ptr : List (String × ChunkedArray)) (schema : List Field) :
      SessionCacheFrom c c' →
        SessionCacheFrom c ((session.arrowColumnsToCHChunk bounds fns name_to_column_ptr
          schema).run.run c').2

theorem SessionCacheFrom.extends {c c' : DictionaryValues} (h : SessionCacheFrom bounds c c') :
    Extends c c' := by
  induction h with
  | start => exact Extends.refl c
  | column field arrow_column format_name read_ints_as_dates _ ih =>
    exact (readColumnFromArrowColumn_extends bounds c field arrow_column format_name
      read_ints_as_dates _ ih).1
  | table session fns table _ ih =>
    exact (Session.arrowTableToCHChunk_keeps bounds fns table fun _ _ _ _ _ =>
      readColumnFromArrowColumn_extends bounds c _ _ _ _) _ ih |>.1
  | columns session fns name_to_column_ptr schema _ ih =>
    exact (Session.arrowColumnsToCHChunk_keeps bounds fns fun _ _ _ =>
      readColumnFromArrowColumn_extends bounds c _ _ _ _) _ ih |>.1

/-- A dictionary the cache holds stays, unchanged, through every later conversion. -/
theorem arrowColumnsToCHChunk_keeps_cached_dictionaries {c c' : DictionaryValues}
    (h : SessionCacheFrom bounds c c') (name : String) (dict_values : ColumnWithTypeAndName)
    (hc : c name = some dict_values) : c' name = some dict_values :=
  SessionCacheFrom.extends bounds h name dict_values hc

/-- The first dictionary a session caches under a name decodes every later dictionary
column of that name: whatever the dictionaries of its chunks, at any later point of the
session the column is the `LowCardinality` column of the cached dictionary over the
column's own indexes, of the type `LowCardinality` makes of the cached dictionary's, and the
cache is left as it was. -/
theorem readNonNullable_decodes_with_cached_dictionary {c c' : DictionaryValues}
    (h : SessionCacheFrom bounds c c') (column_name : String)
    (dict_values : ColumnWithTypeAndName) (hc : c column_name = some dict_values)
    (index_type value_type : Arrow.DataType) (arrow_column : ChunkedArray) (format_name : String)
    (read_ints_as_dates : Bool) (hhead : ∀ c l o v, arrow_column.head? ≠ some (.chString c l o v)) :
    (readNonNullable bounds column_name (.dictionary index_type value_type) arrow_column
        format_name read_ints_as_dates).run.run c' =
      ((readColumnWithIndexesData index_type (arrow_column.map Arrow.Array.indices)).bind
        fun indexes_column => (DataTypeLowCardinality.create dict_values.type).map fun lc_type =>
          ⟨.lowCardinality dict_values.column indexes_column.vectorData, lc_type, column_name⟩,
        c') :=
  readNonNullable_dictionary_of_cached bounds column_name index_type value_type arrow_column
    format_name read_ints_as_dates c' dict_values hhead
    (SessionCacheFrom.extends bounds h column_name dict_values hc)

/-- A failed conversion is not undone: a nullable dictionary field, whose dictionary values
convert to a type `LowCardinality` accepts and whose index type is an integer type, stores
the dictionary built from its values under its name, and then throws
`ILLEGAL_TYPE_OF_ARGUMENT`, as `Nullable` refuses its `LowCardinality` type; the dictionary
stays cached, to decode every later column of that name. -/
theorem readColumnFromArrowColumn_keeps_dictionary_of_nullable (column_name : String)
    (index_type value_type : Arrow.DataType) (arrow_column : ChunkedArray)
    (format_name : String) (read_ints_as_dates : Bool) (cache : DictionaryValues)
    (hhead : ∀ c l o v, arrow_column.head? ≠ some (.chString c l o v))
    (hc : cache column_name = none) (hindex : (indexWidth index_type).isSome)
    (dict_column : ColumnWithTypeAndName)
    (hdict : ((readColumnFromArrowColumn bounds (.mk "dict" value_type true)
      (arrow_column.map Arrow.Array.dictionary) format_name read_ints_as_dates).run.run cache).1 =
        .ok dict_column)
    (hlow : dict_column.type.removeNullable.canBeInsideLowCardinality) :
    ((readColumnFromArrowColumn bounds (.mk column_name (.dictionary index_type value_type) true)
        arrow_column format_name read_ints_as_dates).run.run cache).1 =
        .error ⟨.ILLEGAL_TYPE_OF_ARGUMENT, "Nested type " ++
          (DB.DataType.lowCardinality dict_column.type).getName ++
            " cannot be inside Nullable type"⟩ ∧
      ((readColumnFromArrowColumn bounds (.mk column_name (.dictionary index_type value_type) true)
        arrow_column format_name read_ints_as_dates).run.run cache).2 column_name =
        some (buildDictionary dict_column) := by
  have hcreate : DataTypeLowCardinality.create dict_column.type =
      .ok (.lowCardinality dict_column.type) := by
    rw [DataTypeLowCardinality.create, if_pos hlow]
  obtain ⟨width, hwidth⟩ := Option.isSome_iff_exists.1 hindex
  have hindexes : readColumnWithIndexesData index_type (arrow_column.map Arrow.Array.indices) =
      .ok (readColumnWithNumericData width .uint64 (arrow_column.map Arrow.Array.indices) "").column := by
    rw [readColumnWithIndexesData, hwidth]
  have hrun := readNonNullable_dictionary_of_uncached bounds column_name index_type value_type
    arrow_column format_name read_ints_as_dates cache hhead hc
  rw [readColumnFromArrowColumn_mk, readNullable_run, hrun]
  revert hdict
  rcases (readColumnFromArrowColumn bounds (.mk "dict" value_type true)
    (arrow_column.map Arrow.Array.dictionary) format_name read_ints_as_dates).run.run cache with
    ⟨_ | _, c₁⟩ <;> intro hdict <;> cases hdict
  simp only [storeDictionary, lowCardinalityColumn, buildDictionary_type, hcreate, hindexes,
    Except.bind, Except.map]
  exact ⟨rfl, Function.update_same _ _ _⟩

/-- A nullable dictionary column `x` over the dictionary `["a"]` throws, and leaves `["a"]`
cached under its name. -/
theorem readColumnFromArrowColumn_keeps_dictionary_of_nullable_letterA :
    ∃ dict_column, ((readColumnFromArrowColumn sampleDateBounds (.mk "dict" .string true)
        [.binary 1 0 none [0, 1] [97]] "Parquet" true).run.run fun _ => none).1 =
        .ok dict_column ∧
      ((readColumnFromArrowColumn sampleDateBounds (.mk "x" (.dictionary .int32 .string) true)
        [.dictEncoded (.primitive 1 0 none [0, 0, 0, 0]) (.binary 1 0 none [0, 1] [97])]
        "Parquet" true).run.run fun _ => none).1 = .error ⟨.ILLEGAL_TYPE_OF_ARGUMENT,
          "Nested type LowCardinality(Nullable(String)) cannot be inside Nullable type"⟩ ∧
      ((readColumnFromArrowColumn sampleDateBounds (.mk "x" (.dictionary .int32 .string) true)
        [.dictEncoded (.primitive 1 0 none [0, 0, 0, 0]) (.binary 1 0 none [0, 1] [97])]
        "Parquet" true).run.run fun _ => none).2 "x" = some (buildDictionary dict_column) :=
  ⟨_, rfl, readColumnFromArrowColumn_keeps_dictionary_of_nullable sampleDateBounds "x"
    .int32 .string
    [.dictEncoded (.primitive 1 0 none [0, 0, 0, 0]) (.binary 1 0 none [0, 1] [97])]
    "Parquet" true (fun _ => none) (fun _ _ _ _ h => by cases h) rfl rfl _ rfl rfl⟩

/-- A session whose header is one column `x`, read from a dictionary column. -/
def dictionarySession : Session := ⟨[⟨.vector 4 [], .int32, "x"⟩], "Parquet", false, false⟩

def dictionarySchema : List Field := [.mk "x" (.dictionary .int32 .string) false]

/-- A one-row dictionary column: `index` into the one-byte words `letters`. -/
def dictionaryColumn (index : UInt8) (letters : List UInt8) : ChunkedArray :=
  [.dictEncoded (.primitive 1 0 none [index, 0, 0, 0])
    (.binary letters.length 0 none (List.range (letters.length + 1)) letters)]

theorem dictionaryColumn_head_ne_chString (index : UInt8) (letters : List UInt8) :
    ∀ c l o v, (dictionaryColumn index letters).head? ≠ some (.chString c l o v) :=
  fun _ _ _ _ h => by cases h

/-- A one-row table whose column `x` is `dictionaryColumn index letters`. -/
def dictionaryTable (index : UInt8) (letters : List UInt8) : List (String × ChunkedArray) :=
  [("x", dictionaryColumn index letters)]

/-- The cache after the session converted a table with dictionary `["a"]`. -/
def cacheAfterTableA : DictionaryValues :=
  ((dictionarySession.arrowColumnsToCHChunk sampleDateBounds keepingFunctions
    (dictionaryTable 0 [97]) dictionarySchema).run.run fun _ => none).2

/-- The next table's dictionary `["p", "q"]` is not cached: the column is converted with
the cached `["a"]`. -/
example : ((dictionarySession.arrowColumnsToCHChunk sampleDateBounds keepingFunctions
    (dictionaryTable 1 [112, 113]) dictionarySchema).run.run cacheAfterTableA).1.map
      (fun chunk => chunk.columns.map (·.2)) =
    .ok [.lowCardinality (.unique true [.string [], .string [], .string [97]]) [1]] := rfl

theorem arrowColumnsToCHChunk_keeps_cached_dictionaries_tableA :
    SessionCacheFrom sampleDateBounds cacheAfterTableA
        ((dictionarySession.arrowColumnsToCHChunk sampleDateBounds keepingFunctions
          (dictionaryTable 1 [112, 113]) dictionarySchema).run.run cacheAfterTableA).2 ∧
      ∃ dict_values, cacheAfterTableA "x" = some dict_values ∧
        ((dictionarySession.arrowColumnsToCHChunk sampleDateBounds keepingFunctions
          (dictionaryTable 1 [112, 113]) dictionarySchema).run.run cacheAfterTableA).2 "x" =
            some dict_values :=
  ⟨.columns _ _ _ _ .start, _, rfl, arrowColumnsToCHChunk_keeps_cached_dictionaries
    sampleDateBounds (.columns _ _ _ _ .start) "x" _ rfl⟩

theorem readNonNullable_decodes_with_cached_dictionary_tableA :
    SessionCacheFrom sampleDateBounds cacheAfterTableA
        ((dictionarySession.arrowColumnsToCHChunk sampleDateBounds keepingFunctions
          (dictionaryTable 1 [112, 113]) dictionarySchema).run.run cacheAfterTableA).2 ∧
      ∃ dict_values, cacheAfterTableA "x" = some dict_values ∧
        (∀ c l o v, (dictionaryColumn 2 [114, 115, 116]).head? ≠ some (.chString c l o v)) ∧
        (readNonNullable sampleDateBounds "x" (.dictionary .int32 .string)
            (dictionaryColumn 2 [114, 115, 116]) "Parquet" true).run.run
            ((dictionarySession.arrowColumnsToCHChunk sampleDateBounds keepingFunctions
              (dictionaryTable 1 [112, 113]) dictionarySchema).run.run cacheAfterTableA).2 =
          ((readColumnWithIndexesData .int32
              ((dictionaryColumn 2 [114, 115, 116]).map Arrow.Array.indices)).bind
            fun indexes_column => (DataTypeLowCardinality.create dict_values.type).map
              fun lc_type => ⟨.lowCardinality dict_values.column indexes_column.vectorData,
                lc_type, "x"⟩,
            ((dictionarySession.arrowColumnsToCHChunk sampleDateBounds keepingFunctions
              (dictionaryTable 1 [112, 113]) dictionarySchema).run.run cacheAfterTableA).2) :=
  ⟨.columns _ _ _ _ .start, _, rfl, dictionaryColumn_head_ne_chString 2 _,
    readNonNullable_decodes_with_cached_dictionary sampleDateBounds (.columns _ _ _ _ .start) "x"
      _ rfl _ _ _ _ _ (dictionaryColumn_head_ne_chString 2 _)⟩

end GlutenBridge
