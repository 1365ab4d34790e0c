import GlutenBridge.Convert.Types
import GlutenBridge.Session.Cache

/-!
# The types of a session's columns

The header `arrowSchemaToCHHeader` derives converts each field from its own empty cache,
without reading integers as dates: its columns have the types the table gives the schema's
fields with the date flag off (`arrowSchemaToCHHeader_types`), whenever no name stands for
two dictionary types within a field. The header thus predicts the type of every column the
live conversion makes, except for fields with a `UINT16` or `UINT32` part, which the live
conversion reads as dates (`arrowSchemaToCHHeader_predicts_live_types`).

A session converts with the date flag on and keeps its dictionary cache from one call to
the next. Every call keeps the cache typed by a consistent `L` when the dictionary types of
its schema lie in `L` and its table holds no `CHStringArray`, so along any sequence of such
calls, from an empty cache, every column the session converts has the table's type
(`sessionCacheWithin_converts_to_table_types`).

Whatever the cache's types, a session keeps every cached dictionary a `ColumnUnique` for
its type, so every column it converts over chunks without a `CHStringArray` is laid out as
its declared type requires (`readColumnFromArrowColumn_hasType`).
-/

set_option autoImplicit false

namespace GlutenBridge

open Arrow DB

/-- A list whose `mapM` returns is related elementwise to the returned list. -/
theorem forall₂_of_mapM_eq_ok {α β ε : Type} {f : α → Except ε β}
    {R : α → β → Prop} :
    ∀ {l : List α} {bs : List β}, (∀ a ∈ l, ∀ b, f a = .ok b → R a b) →
      l.mapM f = .ok bs → List.Forall₂ R l bs
  | [], _, _, h => by
    cases h
    exact .nil
  | a :: l, bs, hf, h => by
    rw [List.mapM_cons] at h
    cases ha : f a with
    | error e =>
      rw [ha] at h
      cases h
    | ok b =>
      cases hl : l.mapM f with
      | error e =>
        rw [ha, hl] at h
        cases h
      | ok bs' =>
        rw [ha, hl] at h
        cases h
        exact .cons (hf a (List.mem_cons_self _ _) b ha)
          (forall₂_of_mapM_eq_ok (fun a' ha' => hf a' (List.mem_cons_of_mem _ ha')) hl)

variable (bounds : DateBounds) {L : List (String × DB.DataType)}

/-! ## The header -/

/-- The header derived from a schema has, column by column, the types the table gives the
schema's fields without the date flag. -/
theorem arrowSchemaToCHHeader_types {schema : List Field} {format_name : String}
    {block : List ColumnWithTypeAndName}
    (hconsistent : ∀ field ∈ schema, Consistent (dictTypes false field))
    (h : arrowSchemaToCHHeader bounds schema format_name = .ok block) :
    block.map (·.type) = schema.map (fieldCHType false) := by
  have hcolumns : List.Forall₂ (fun field column => column.type = fieldCHType false field)
      schema block :=
    forall₂_of_mapM_eq_ok (fun field hfield column hcolumn =>
      (readColumnFromArrowColumn_typed bounds (hconsistent field hfield) field
        [emptyArray field.type] format_name false (fun _ h => h)
        (List.forall_mem_singleton.2 (emptyArray_noCHString field.type)) _
        (cacheTyped_empty _)).2 column hcolumn) h
  clear hconsistent h
  induction hcolumns with
  | nil => rfl
  | cons hcolumn _ ih => rw [List.map_cons, List.map_cons, hcolumn, ih]

/-- A schema of one `DICTIONARY<INT32, STRING>` field `d` and one `UINT16` field `u`. -/
def dictionaryAndDateSchema : List Field :=
  [.mk "d" (.dictionary .int32 .string) false, .mk "u" .uint16 false]

theorem arrowSchemaToCHHeader_types_dictionaryAndDateSchema :
    (∀ field ∈ dictionaryAndDateSchema, Consistent (dictTypes false field)) ∧
      ∃ block, arrowSchemaToCHHeader sampleDateBounds dictionaryAndDateSchema "Parquet" =
        .ok block ∧ block.map (·.type) = dictionaryAndDateSchema.map (fieldCHType false) :=
  have hconsistent : ∀ field ∈ dictionaryAndDateSchema, Consistent (dictTypes false field) :=
    List.forall_mem_cons.2 ⟨consistent_of_nodup (by decide),
      List.forall_mem_cons.2 ⟨consistent_of_nodup (by decide), fun _ h => nomatch h⟩⟩
  ⟨hconsistent, _, rfl, @arrowSchemaToCHHeader_types sampleDateBounds dictionaryAndDateSchema
    "Parquet" _ hconsistent rfl⟩

/-- The header reads `UINT16` as `UInt16`, where the live conversion reads it as `Date`. -/
example : dictionaryAndDateSchema.map (fieldCHType false) =
      [.lowCardinality (.nullable .string), .uint16] ∧
    dictionaryAndDateSchema.map (fieldCHType true) = [.lowCardinality (.nullable .string), .date] :=
  ⟨rfl, rfl⟩

/-- The header derived from a schema predicts the live conversion's types: a column of a
field converts, with the date flag on, from a typed cache and over chunks without a
`CHStringArray`, to the type of the header's column of its field, unless the field has a
`UINT16` or `UINT32` part, which the live conversion reads as `Date` or `DateTime`. -/
theorem arrowSchemaToCHHeader_predicts_live_types {schema : List Field} {format_name : String}
    {block : List ColumnWithTypeAndName} (hnodup : ∀ field ∈ schema, (dictNames field).Nodup)
    (h : arrowSchemaToCHHeader bounds schema format_name = .ok block) :
    List.Forall₂ (fun field header_column => fieldHasDateInts field = false →
      ∀ (arrow_column : ChunkedArray) (live_format_name : String) (cache : DictionaryValues)
        (column : ColumnWithTypeAndName), (∀ a ∈ arrow_column, a.noCHString) →
        CacheTyped (dictTypes true field) cache →
        ((readColumnFromArrowColumn bounds field arrow_column live_format_name true).run.run
          cache).1 = .ok column →
        column.type = header_column.type) schema block :=
  forall₂_of_mapM_eq_ok (fun field hfield header_column hheader hdates arrow_column
      live_format_name cache column hno htyped hcolumn => by
    have hheader_type := (readColumnFromArrowColumn_typed bounds
      (consistent_dictTypes false (hnodup field hfield)) field [emptyArray field.type]
      format_name false (fun _ h => h)
      (List.forall_mem_singleton.2 (emptyArray_noCHString field.type)) _
      (cacheTyped_empty _)).2 header_column hheader
    have hlive_type := (readColumnFromArrowColumn_typed bounds
      (consistent_dictTypes true (hnodup field hfield)) field arrow_column live_format_name true
      (fun _ h => h) hno cache htyped).2 column hcolumn
    rw [hlive_type, hheader_type, fieldCHType_dates_eq field hdates]) h

theorem arrowSchemaToCHHeader_predicts_live_types_dictionaryAndDateSchema :
    (∀ field ∈ dictionaryAndDateSchema, (dictNames field).Nodup) ∧
      ∃ block, arrowSchemaToCHHeader sampleDateBounds dictionaryAndDateSchema "Parquet" =
        .ok block ∧
      List.Forall₂ (fun field header_column => fieldHasDateInts field = false →
        ∀ (arrow_column : ChunkedArray) (live_format_name : String) (cache : DictionaryValues)
          (column : ColumnWithTypeAndName), (∀ a ∈ arrow_column, a.noCHString) →
          CacheTyped (dictTypes true field) cache →
          ((readColumnFromArrowColumn sampleDateBounds field arrow_column live_format_name
            true).run.run cache).1 = .ok column →
          column.type = header_column.type) dictionaryAndDateSchema block :=
  have hnodup : ∀ field ∈ dictionaryAndDateSchema, (dictNames field).Nodup := by decide
  ⟨hnodup, _, rfl, @arrowSchemaToCHHeader_predicts_live_types sampleDateBounds
    dictionaryAndDateSchema "Parquet" _ hnodup rfl⟩

/-! ## The session's calls -/

/-- The columns `collectColumns` gathers are columns of the table. -/
theorem mem_of_getColumnByName {table : List (Field × ChunkedArray)} {name : String}
    {arrow_column : ChunkedArray} (h : getColumnByName table name = some arrow_column) :
    ∃ field, (field, arrow_column) ∈ table := by
  unfold getColumnByName at h
  split at h
  · rename_i field _ hfilter
    cases h
    exact ⟨field, List.mem_of_mem_filter (hfilter ▸ List.mem_singleton_self _)⟩
  · cases h

theorem collectColumns_chunks {table : List (Field × ChunkedArray)} {Q : ChunkedArray → Prop}
    (htable : ∀ q ∈ table, Q q.2) : ∀ (names : List String)
    (name_to_column_ptr result : List (String × ChunkedArray)),
    (∀ p ∈ name_to_column_ptr, Q p.2) →
      collectColumns table names name_to_column_ptr = .ok result → ∀ p ∈ result, Q p.2
  | [], _, _, hacc, h => by
    cases h
    exact hacc
  | name :: names, name_to_column_ptr, result, hacc, h => by
    rw [collectColumns] at h
    split at h
    · cases h
    · rename_i arrow_column hget
      have hQ : Q arrow_column := by
        obtain ⟨field, hmem⟩ := mem_of_getColumnByName hget
        exact htable _ hmem
      refine collectColumns_chunks htable names _ _ (fun p hp => ?_) h
      unfold assignColumn at hp
      split_ifs at hp
      · obtain ⟨q, hq, rfl⟩ := List.mem_map.1 hp
        split_ifs
        exacts [hQ, hacc q hq]
      · rcases List.mem_append.1 hp with hp | hp
        · exact hacc p hp
        · rw [List.mem_singleton.1 hp]
          exact hQ

/-- The dictionary types of a member of a struct are among the struct's. -/
theorem dictTypes_subset_fieldsDictTypes (read_ints_as_dates : Bool) {field : Field} :
    ∀ {fields : List Field}, field ∈ fields →
      ∀ p ∈ dictTypes read_ints_as_dates field, p ∈ fieldsDictTypes read_ints_as_dates fields
  | _ :: _, .head _, _, hp => List.mem_append_left _ hp
  | _ :: _, .tail _ hfield, _, hp =>
    List.mem_append_right _ (dictTypes_subset_fieldsDictTypes read_ints_as_dates hfield _ hp)

/-- The field `fieldByName` gives a name is the schema's, or one without dictionaries. -/
theorem dictTypes_fieldByName {read_ints_as_dates : Bool} {schema : List Field}
    (hschema : ∀ field ∈ schema, ∀ p ∈ dictTypes read_ints_as_dates field, p ∈ L)
    (name : String) :
    ∀ p ∈ dictTypes read_ints_as_dates (fieldByName schema name), p ∈ L := by
  rw [fieldByName]
  cases h : schema.find? (·.name == name) with
  | none => exact fun _ hp => nomatch hp
  | some field => exact hschema field (List.mem_of_find?_eq_some h)

/-- Every conversion of a call on a table without a `CHStringArray` whose schema's
dictionary types lie in `L` keeps the cache typed. -/
theorem conversionsKeep_cacheTyped (hL : Consistent L) {session : Session}
    {name_to_column_ptr : List (String × ChunkedArray)} {schema : List Field}
    (hschema : ∀ field ∈ schema, ∀ p ∈ dictTypes true field, p ∈ L)
    (hno : ∀ p ∈ name_to_column_ptr, ∀ a ∈ p.2, a.noCHString) :
    Session.ConversionsKeep bounds session name_to_column_ptr schema (CacheTyped L) :=
  fun name _ hlookup => (readColumnFromArrowColumn_typed bounds hL _ _ _ true
    (dictTypes_fieldByName hschema name) (hno _ (mem_of_lookupColumn hlookup))).mono
      fun _ _ => trivial

/-- The caches a session reaches from the cache `c` by conversions and calls whose fields'
dictionary types lie in `L`, over chunks without a `CHStringArray`: a conversion of a
column, as the loop of a call makes from one column to the next, or a whole call of either
entry point, whether it returns or throws. -/
inductive SessionCacheWithin (L : List (String × DB.DataType)) (c : DictionaryValues) :
    DictionaryValues → Prop
  | start : SessionCacheWithin L c c
  | column {c' : DictionaryValues} (field : Field) (arrow_column : ChunkedArray)
      (format_name : String) (read_ints_as_dates : Bool) :
      (∀ p ∈ dictTypes read_ints_as_dates field, p ∈ L) →
      (∀ a ∈ arrow_column, a.noCHString) → SessionCacheWithin L c c' →
        SessionCacheWithin L c ((readColumnFromArrowColumn bounds field arrow_column format_name
          read_ints_as_dates).run.run c').2
  | columns {c' : DictionaryValues} (session : Session) (fns : ClickHouseFunctions)
      (name_to_column_ptr : List (String × ChunkedArray)) (schema : List Field) :
      (∀ field ∈ schema, ∀ p ∈ dictTypes true field, p ∈ L) →
      (∀ p ∈ name_to_column_ptr, ∀ a ∈ p.2, a.noCHString) →
      SessionCacheWithin L c c' →
        SessionCacheWithin L c ((session.arrowColumnsToCHChunk bounds fns name_to_column_ptr
          schema).run.run c').2
  | table {c' : DictionaryValues} (session : Session) (fns : ClickHouseFunctions)
      (table : List (Field × ChunkedArray)) :
      (∀ q ∈ table, ∀ p ∈ dictTypes true q.1, p ∈ L) →
      (∀ q ∈ table, ∀ a ∈ q.2, a.noCHString) → SessionCacheWithin L c c' →
        SessionCacheWithin L c ((session.arrowTableToCHChunk bounds fns table).run.run c').2

theorem SessionCacheWithin.cacheTyped {c c' : DictionaryValues}
    (h : SessionCacheWithin bounds L c c') (hL : Consistent L) (hc : CacheTyped L c) :
    CacheTyped L c' := by
  induction h with
  | start => exact hc
  | column field arrow_column format_name read_ints_as_dates hsub hno _ ih =>
    exact (readColumnFromArrowColumn_typed bounds hL field arrow_column format_name
      read_ints_as_dates hsub hno _ ih).1
  | columns session fns name_to_column_ptr schema hschema hno _ ih =>
    exact (Session.arrowColumnsToCHChunk_keeps bounds fns
      (conversionsKeep_cacheTyped bounds hL hschema hno) _ ih).1
  | table session fns table hschema hno _ ih =>
    refine (Session.arrowTableToCHChunk_keeps bounds fns table fun _ hcollect =>
      conversionsKeep_cacheTyped bounds hL (fun field hfield => ?_)
        (collectColumns_chunks (Q := fun arrow_column => ∀ a ∈ arrow_column, a.noCHString) hno
          _ [] _ (fun _ h => nomatch h) hcollect)) _ ih |>.1
    obtain ⟨q, hq, rfl⟩ := List.mem_map.1 hfield
    exact hschema q hq

/-- Along any sequence of conversions and calls, over chunks without a `CHStringArray`,
whose fields' dictionary types lie in a consistent `L`, a session started from a typed
cache, an empty one say, keeps its cache typed: every column it converts, in a call or
after it, has the type the table gives the column's field. -/
theorem sessionCacheWithin_converts_to_table_types {c c' : DictionaryValues}
    (h : SessionCacheWithin bounds L c c') (hL : Consistent L) (hc : CacheTyped L c)
    (field : Field) (arrow_column : ChunkedArray) (format_name : String)
    (read_ints_as_dates : Bool) (hsub : ∀ p ∈ dictTypes read_ints_as_dates field, p ∈ L)
    (hno : ∀ a ∈ arrow_column, a.noCHString) (column : ColumnWithTypeAndName)
    (hcolumn : ((readColumnFromArrowColumn bounds field arrow_column format_name
      read_ints_as_dates).run.run c').1 = .ok column) :
    column.type = fieldCHType read_ints_as_dates field :=
  (readColumnFromArrowColumn_typed bounds hL field arrow_column format_name read_ints_as_dates
    hsub hno c' (h.cacheTyped bounds hL hc)).2 column hcolumn

/-- After the session converted a table with dictionary `["a"]`, a dictionary column of
the schema converts to the table's type. -/
theorem sessionCacheWithin_converts_to_table_types_tableA :
    SessionCacheWithin sampleDateBounds (fieldsDictTypes true dictionarySchema) (fun _ => none)
        cacheAfterTableA ∧
      Consistent (fieldsDictTypes true dictionarySchema) ∧
      ∀ column, ((readColumnFromArrowColumn sampleDateBounds
          (.mk "x" (.dictionary .int32 .string) false) (dictionaryColumn 1 [112, 113])
          "Parquet" true).run.run cacheAfterTableA).1 = .ok column →
        column.type = .lowCardinality (.nullable .string) :=
  have hschema : ∀ field ∈ dictionarySchema, ∀ p ∈ dictTypes true field,
      p ∈ fieldsDictTypes true dictionarySchema :=
    fun _ hfield => dictTypes_subset_fieldsDictTypes true hfield
  have hrun : SessionCacheWithin sampleDateBounds (fieldsDictTypes true dictionarySchema)
      (fun _ => none) cacheAfterTableA :=
    .columns _ _ _ _ hschema (by decide) .start
  have hL : Consistent (fieldsDictTypes true dictionarySchema) := consistent_of_nodup (by decide)
  ⟨hrun, hL, sessionCacheWithin_converts_to_table_types sampleDateBounds hrun hL
    (cacheTyped_empty _) _ _ _ true (hschema _ (List.mem_singleton_self _)) (by decide)⟩

/-! ## Columns laid out as their types, over a session -/

/-- Every cache a session reaches from one holding only dictionaries for their types
holds only such dictionaries. -/
theorem SessionCacheFrom.holdsDictionaries {c c' : DictionaryValues}
    (h : SessionCacheFrom bounds c c') (hc : CacheHoldsDictionaries c) :
    CacheHoldsDictionaries c' := by
  induction h with
  | start => exact hc
  | column field arrow_column format_name read_ints_as_dates _ ih =>
    exact (readColumnFromArrowColumn_laidOut bounds field arrow_column format_name
      read_ints_as_dates _ ih).1
  | table session fns table _ ih =>
    exact (Session.arrowTableToCHChunk_keeps bounds fns table fun _ _ _ _ _ =>
      (readColumnFromArrowColumn_laidOut bounds _ _ _ _).mono fun _ _ => trivial) _ ih |>.1
  | columns session fns name_to_column_ptr schema _ ih =>
    exact (Session.arrowColumnsToCHChunk_keeps bounds fns fun _ _ _ =>
      (readColumnFromArrowColumn_laidOut bounds _ _ _ _).mono fun _ _ => trivial) _ ih |>.1

/-- Over chunks without a `CHStringArray`, every column a session converts, at any point
of any sequence of conversions and calls (returning or throwing) from a cache of
dictionaries for their types, an empty one say, is laid out as its declared type
requires. -/
theorem readColumnFromArrowColumn_hasType {c c' : DictionaryValues}
    (h : SessionCacheFrom bounds c c') (hc : CacheHoldsDictionaries c) (field : Field)
    (arrow_column : ChunkedArray) (format_name : String) (read_ints_as_dates : Bool)
    (hno : ∀ a ∈ arrow_column, a.noCHString) (column : ColumnWithTypeAndName)
    (hcolumn : ((readColumnFromArrowColumn bounds field arrow_column format_name
      read_ints_as_dates).run.run c').1 = .ok column) :
    column.column.hasType column.type :=
  (readColumnFromArrowColumn_laidOut bounds field arrow_column format_name read_ints_as_dates c'
    (h.holdsDictionaries bounds hc)).2 column hcolumn hno

/-- After the session converted a table with dictionary `["a"]`, the next dictionary column
of the name is a `LowCardinality` column over a dictionary for its type. -/
theorem readColumnFromArrowColumn_hasType_tableA :
    SessionCacheFrom sampleDateBounds (fun _ => none) cacheAfterTableA ∧
      CacheHoldsDictionaries (fun _ => none) ∧
      (∀ a ∈ dictionaryColumn 1 [112, 113], a.noCHString) ∧
      ∀ column, ((readColumnFromArrowColumn sampleDateBounds
          (.mk "x" (.dictionary .int32 .string) false) (dictionaryColumn 1 [112, 113])
          "Parquet" true).run.run cacheAfterTableA).1 = .ok column →
        column.column.hasType column.type :=
  have hrun : SessionCacheFrom sampleDateBounds (fun _ => none) cacheAfterTableA :=
    .columns _ _ _ _ .start
  have hc : CacheHoldsDictionaries (fun _ => none) := fun _ _ h => nomatch h
  have hno : ∀ a ∈ dictionaryColumn 1 [112, 113], a.noCHString := by decide
  ⟨hrun, hc, hno, readColumnFromArrowColumn_hasType sampleDateBounds hrun hc _ _ _ true hno⟩

end GlutenBridge
