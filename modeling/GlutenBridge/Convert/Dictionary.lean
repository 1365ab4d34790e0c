import GlutenBridge.Convert.Shape

/-!
# The dictionary cache

A dictionary column looks its dictionary up in `dictionary_values` under the local
name of its field, and builds and stores it only when the name is absent. The cache is
therefore written only at the dictionary names of the field (`dictNames`): the names of
its dictionary fields, list element fields and map entry fields included, and `"dict"`
for a dictionary nested in dictionary values.

A cache invariant that every such store keeps is kept by the whole conversion
(`readColumnFromArrowColumn_keeps_of_stores`). Two follow: the cache only grows, a
dictionary once stored staying unchanged (`readColumnFromArrowColumn_extends`), and the
entries at every other name are left as they are (`readColumnFromArrowColumn_frame`).
The two paths of the dictionary case, a cached name and an absent one, are spelled out
as runs (`readNonNullable_dictionary_of_cached`, `readNonNullable_dictionary_of_uncached`).

A present entry is used whatever values it was built from: a list column whose element
field shares its name with an earlier one decodes its indexes with the earlier
dictionary (`readColumnFromArrowColumn_reuses_cached_dictionary`).
-/

set_option autoImplicit false

namespace GlutenBridge

open Arrow DB

mutual
/-- The names under which converting a field looks up dictionaries. -/
def dictNames : Field → List String
  | .mk name type _ => typeDictNames name type

/-- The dictionary names of a field of name `name` and type `type`. -/
def typeDictNames (name : String) : Arrow.DataType → List String
  | .list value_field => dictNames value_field
  | .map entries => dictNames entries
  | .struct fields => fieldsDictNames fields
  | .dictionary _ value_type => name :: typeDictNames "dict" value_type
  | _ => []

/-- The dictionary names of the members of a struct. -/
def fieldsDictNames : List Field → List String
  | [] => []
  | field :: fields => dictNames field ++ fieldsDictNames fields
end

/-- The cache `c` holds every dictionary `c₀` holds, unchanged. -/
def Extends (c₀ c : DictionaryValues) : Prop :=
  ∀ name dict_values, c₀ name = some dict_values → c name = some dict_values

namespace Extends

theorem refl (c : DictionaryValues) : Extends c c := fun _ _ h => h

theorem trans {c₀ c₁ c₂ : DictionaryValues} (h₁ : Extends c₀ c₁)
    (h₂ : Extends c₁ c₂) :
    Extends c₀ c₂ :=
  fun name dict_values h => h₂ name dict_values (h₁ name dict_values h)

/-- Storing a dictionary under a name `c₀` lacks keeps the dictionaries of `c₀`. -/
theorem update {c₀ c : DictionaryValues} (h : Extends c₀ c) {column_name : String}
    (hfresh : c₀ column_name = none) (dict_values : Option ColumnWithTypeAndName) :
    Extends c₀ (Function.update c column_name dict_values) := by
  intro name d hd
  have hne : name ≠ column_name := fun heq => by rw [heq, hfresh] at hd; cases hd
  rw [Function.update_noteq hne]
  exact h name d hd

end Extends

/-- A value returned as it is keeps any invariant. -/
theorem keeps_pure_true {I : DictionaryValues → Prop} {α : Type} (a : α) :
    Keeps I (fun _ : α => True) (Pure.pure a : ConvM α) :=
  Keeps.pure trivial

/-- A check followed by a return keeps any invariant. -/
theorem keeps_ofExcept_pure {I : DictionaryValues → Prop} {α β : Type} (x : Except Exception α)
    (g : α → β) : Keeps I (fun _ => True) (ConvM.ofExcept x >>= fun a => Pure.pure (g a)) :=
  (Keeps.ofExcept fun _ _ => trivial).bind fun _ _ => keeps_pure_true _

/-! ## What the stores of dictionaries keep -/

/-- A cache invariant that the dictionary case keeps: storing any dictionary in a cache
satisfying `I`, under a name of `N` that a cache satisfying `I` lacked when the column's
conversion began. -/
def KeptByStores (I : DictionaryValues → Prop) (N : List String) : Prop :=
  ∀ cache cache' name dict_values, name ∈ N → cache name = none → I cache → I cache' →
    I (Function.update cache' name (some dict_values))

theorem KeptByStores.mono {I : DictionaryValues → Prop} {N N' : List String}
    (h : KeptByStores I N') (hN : ∀ n ∈ N, n ∈ N') : KeptByStores I N :=
  fun cache cache' name dict_values hn => h cache cache' name dict_values (hN name hn)

section Converter

variable (bounds : DateBounds) (I : DictionaryValues → Prop)

/-- The `LowCardinality` column of the dictionary case reads the cache not at all. -/
theorem lowCardinality_keeps_invariant (column_name : String) (index_type : Arrow.DataType)
    (arrow_column : ChunkedArray) (dict_values : ColumnWithTypeAndName) :
    Keeps I (fun _ => True)
      (pure dict_values >>= fun dict_values => do
        let indexes_column ← ConvM.ofExcept
          (readColumnWithIndexesData index_type (arrow_column.map Arrow.Array.indices))
        let lc_type ← ConvM.ofExcept (DataTypeLowCardinality.create dict_values.type)
        pure (⟨.lowCardinality dict_values.column indexes_column.vectorData, lc_type,
          column_name⟩ : ColumnWithTypeAndName)) :=
  (keeps_pure_true _).bind fun _ _ => (Keeps.ofExcept fun _ _ => trivial).bind fun _ _ =>
    keeps_ofExcept_pure _ _

mutual
/-- A conversion keeps every cache invariant that the stores at its dictionary names keep. -/
theorem readColumnFromArrowColumn_keeps_of_stores : ∀ (field : Field)
    (arrow_column : ChunkedArray) (format_name : String) (read_ints_as_dates : Bool),
    KeptByStores I (dictNames field) →
    Keeps I (fun _ => True)
      (readColumnFromArrowColumn bounds field arrow_column format_name read_ints_as_dates)
  | .mk column_name type is_nullable, arrow_column, format_name, read_ints_as_dates, hI => by
    have h := readNonNullable_keeps_of_stores column_name type arrow_column format_name
      read_ints_as_dates hI
    rw [readColumnFromArrowColumn]
    cases is_nullable
    · exact h
    · exact Keeps.readNullable h fun _ _ => trivial

theorem readNonNullable_keeps_of_stores (column_name : String) : ∀ (type : Arrow.DataType)
    (arrow_column : ChunkedArray) (format_name : String) (read_ints_as_dates : Bool),
    KeptByStores I (typeDictNames column_name type) →
    Keeps I (fun _ => True)
      (readNonNullable bounds column_name type arrow_column format_name read_ints_as_dates)
  | .list value_field, arrow_column, format_name, read_ints_as_dates, hI => by
    rw [readNonNullable]
    exact Keeps.fastPath (fun _ _ _ _ _ => trivial)
      ((readColumnFromArrowColumn_keeps_of_stores value_field _ format_name read_ints_as_dates
        hI).bind fun _ _ => keeps_ofExcept_pure _ _)
  | .map entries, arrow_column, format_name, read_ints_as_dates, hI => by
    rw [readNonNullable]
    exact Keeps.fastPath (fun _ _ _ _ _ => trivial)
      ((readColumnFromArrowColumn_keeps_of_stores entries _ format_name read_ints_as_dates
        hI).bind fun _ _ => (Keeps.ofExcept fun _ _ => trivial).bind fun _ _ =>
          keeps_ofExcept_pure _ _)
  | .struct fields, arrow_column, format_name, read_ints_as_dates, hI => by
    rw [readNonNullable]
    exact Keeps.fastPath (fun _ _ _ _ _ => trivial)
      ((readStructFields_keeps_of_stores fields 0 arrow_column format_name read_ints_as_dates
        hI).bind fun _ _ => keeps_ofExcept_pure _ _)
  | .dictionary index_type value_type, arrow_column, format_name, read_ints_as_dates, hI => by
    rw [readNonNullable]
    refine Keeps.fastPath (fun _ _ _ _ _ => trivial) (Keeps.get_bind fun cache hcache => ?_)
    have hlow := lowCardinality_keeps_invariant I column_name index_type arrow_column
    have hvalues := readNonNullable_keeps_of_stores "dict" value_type
      (arrow_column.map Arrow.Array.dictionary) format_name read_ints_as_dates
      (hI.mono fun _ => List.mem_cons_of_mem _)
    dsimp only
    split
    · exact hlow _
    · exact (Keeps.readNullable (Q := fun _ => True) hvalues fun _ _ => trivial).bind fun _ _ =>
        (Keeps.ofExcept fun _ _ => trivial).bind fun _ _ =>
          (Keeps.modify fun _ hc => hI cache _ column_name _ (List.mem_cons_self _ _) ‹_›
            hcache hc).bind fun _ _ => hlow _
  | .date32, _, _, _, _ | .decimal128 _ _, _, _, _, _ | .decimal256 _ _, _, _, _, _ => by
    rw [readNonNullable]
    exact Keeps.fastPath (fun _ _ _ _ _ => trivial) (Keeps.ofExcept fun _ _ => trivial)
  | .other _, _, _, _, _ => by
    rw [readNonNullable]
    exact Keeps.fastPath (fun _ _ _ _ _ => trivial) (Keeps.throw _)
  | .bool, _, _, _, _ | .uint8, _, _, _, _ | .int8, _, _, _, _ | .uint16, _, _, _, _
  | .int16, _, _, _, _ | .uint32, _, _, _, _ | .int32, _, _, _, _ | .uint64, _, _, _, _
  | .int64, _, _, _, _ | .halfFloat, _, _, _, _ | .float, _, _, _, _ | .double, _, _, _, _
  | .string, _, _, _, _ | .binary, _, _, _, _ | .date64, _, _, _, _
  | .timestamp _ _, _, _, _, _ => by
    rw [readNonNullable]
    exact Keeps.fastPath (fun _ _ _ _ _ => trivial) (Keeps.pure trivial)

theorem readStructFields_keeps_of_stores : ∀ (fields : List Field) (i : Nat)
    (arrow_column : ChunkedArray) (format_name : String) (read_ints_as_dates : Bool),
    KeptByStores I (fieldsDictNames fields) →
    Keeps I (fun _ => True)
      (readStructFields bounds fields i arrow_column format_name read_ints_as_dates)
  | [], _, _, _, _, _ => by
    rw [readStructFields]
    exact Keeps.pure trivial
  | field :: fields, i, arrow_column, format_name, read_ints_as_dates, hI => by
    rw [readStructFields]
    exact (readColumnFromArrowColumn_keeps_of_stores field _ format_name read_ints_as_dates
      (hI.mono fun _ => List.mem_append_left _)).bind fun _ _ =>
        (readStructFields_keeps_of_stores fields (i + 1) arrow_column format_name
          read_ints_as_dates (hI.mono fun _ => List.mem_append_right _)).bind fun _ _ =>
            Keeps.pure trivial
end

/-- A store under a name the cache lacked when the dictionary's column began, hence `c₀`
lacked, keeps every dictionary of `c₀`. -/
theorem keptByStores_extends (c₀ : DictionaryValues) (N : List String) :
    KeptByStores (Extends c₀) N :=
  fun cache _ name _ _ hnone hcache hc => hc.update (by
    cases h₀ : c₀ name with
    | none => rfl
    | some d => rw [hcache name d h₀] at hnone; cases hnone) _

/-- A conversion keeps every dictionary of `c₀` the cache holds. -/
theorem readColumnFromArrowColumn_extends (c₀ : DictionaryValues) (field : Field)
    (arrow_column : ChunkedArray) (format_name : String) (read_ints_as_dates : Bool) :
    Keeps (Extends c₀) (fun _ => True)
      (readColumnFromArrowColumn bounds field arrow_column format_name read_ints_as_dates) :=
  readColumnFromArrowColumn_keeps_of_stores bounds _ field arrow_column format_name
    read_ints_as_dates (keptByStores_extends c₀ _)

/-- A conversion leaves the cache's entry at every name other than its dictionary names
as it was. -/
theorem readColumnFromArrowColumn_frame (field : Field) (arrow_column : ChunkedArray)
    (format_name : String) (read_ints_as_dates : Bool) (name : String)
    (hname : name ∉ dictNames field) (cache : DictionaryValues) :
    ((readColumnFromArrowColumn bounds field arrow_column format_name read_ints_as_dates).run.run
      cache).2 name = cache name :=
  (readColumnFromArrowColumn_keeps_of_stores bounds (fun c => c name = cache name) field
    arrow_column format_name read_ints_as_dates (fun _ _ _ _ hn _ _ hc =>
      (Function.update_noteq (ne_of_mem_of_not_mem hn hname).symm _ _).trans hc) cache rfl).1

end Converter

/-! ## The two paths of the dictionary case -/

variable (bounds : DateBounds)

theorem ConvM.run_get_bind {β : Type} (f : DictionaryValues → ConvM β) (c : DictionaryValues) :
    (get >>= f).run.run c = (f c).run.run c :=
  rfl

/-- A chunked array whose first chunk is a `CHStringArray` converts, whatever the type, to
the chunk's column under the field's name, and the cache is not touched. -/
theorem readNonNullable_of_chString (column_name : String) (type : Arrow.DataType)
    {arrow_column : ChunkedArray} {column : ColumnWithTypeAndName} {length offset : Nat}
    {validity : Bitmap}
    (hhead : arrow_column.head? = some (.chString column length offset validity))
    (format_name : String) (read_ints_as_dates : Bool) (cache : DictionaryValues) :
    (readNonNullable bounds column_name type arrow_column format_name read_ints_as_dates).run.run
      cache = (.ok { column with name := column_name }, cache) := by
  cases type <;> (rw [readNonNullable, hhead]; rfl)

/-- The column of the dictionary case over the dictionary `dict_values`: the column's own
indexes into it, of the type `LowCardinality` makes of the dictionary's. -/
def lowCardinalityColumn (column_name : String) (index_type : Arrow.DataType)
    (arrow_column : ChunkedArray) (dict_values : ColumnWithTypeAndName) :
    Except Exception ColumnWithTypeAndName :=
  (readColumnWithIndexesData index_type (arrow_column.map Arrow.Array.indices)).bind
    fun indexes_column => (DataTypeLowCardinality.create dict_values.type).map fun lc_type =>
      ⟨.lowCardinality dict_values.column indexes_column.vectorData, lc_type, column_name⟩

/-- What the dictionary case makes of the run of its dictionary values when the cache
lacks its name: the values' error, `LowCardinality`'s refusal of their type, or the column
over the dictionary built from them, with that dictionary stored under the name. -/
def storeDictionary (column_name : String) (index_type : Arrow.DataType)
    (arrow_column : ChunkedArray) :
    Except Exception ColumnWithTypeAndName × DictionaryValues →
      Except Exception ColumnWithTypeAndName × DictionaryValues
  | (.error e, c₁) => (.error e, c₁)
  | (.ok dict_column, c₁) =>
    match DataTypeLowCardinality.create dict_column.type with
    | .error e => (.error e, c₁)
    | .ok _ => (lowCardinalityColumn column_name index_type arrow_column
        (buildDictionary dict_column),
      Function.update c₁ column_name (some (buildDictionary dict_column)))

/-- A dictionary column whose name the cache holds is decoded with the cached dictionary:
its own dictionaries are not read, only its indexes, and the cache stays as it is. -/
theorem readNonNullable_dictionary_of_cached (column_name : String)
    (index_type value_type : Arrow.DataType) (arrow_column : ChunkedArray) (format_name : String)
    (read_ints_as_dates : Bool) (cache : DictionaryValues) (dict_values : ColumnWithTypeAndName)
    (hhead : ∀ c l o v, arrow_column.head? ≠ some (.chString c l o v))
    (hc : cache column_name = some dict_values) :
    (readNonNullable bounds column_name (.dictionary index_type value_type) arrow_column
        format_name read_ints_as_dates).run.run cache =
      (lowCardinalityColumn column_name index_type arrow_column dict_values, cache) := by
  rw [readNonNullable]
  split
  · exact absurd ‹_› (hhead _ _ _ _)
  · rw [ConvM.run_get_bind]
    dsimp only
    rw [hc]
    dsimp only
    rw [pure_bind, lowCardinalityColumn]
    cases readColumnWithIndexesData index_type (arrow_column.map Arrow.Array.indices)
    · rfl
    · cases DataTypeLowCardinality.create dict_values.type <;> rfl

/-- A dictionary column whose name the cache lacks converts its dictionary values as the
nullable field `"dict"`, checks that `LowCardinality` accepts their type, stores the
dictionary built from them under its name, and only then reads its indexes: whatever
happens next, the dictionary stays. -/
theorem readNonNullable_dictionary_of_uncached (column_name : String)
    (index_type value_type : Arrow.DataType) (arrow_column : ChunkedArray) (format_name : String)
    (read_ints_as_dates : Bool) (cache : DictionaryValues)
    (hhead : ∀ c l o v, arrow_column.head? ≠ some (.chString c l o v))
    (hc : cache column_name = none) :
    (readNonNullable bounds column_name (.dictionary index_type value_type) arrow_column
        format_name read_ints_as_dates).run.run cache =
      storeDictionary column_name index_type arrow_column
        ((readColumnFromArrowColumn bounds (.mk "dict" value_type true)
          (arrow_column.map Arrow.Array.dictionary) format_name read_ints_as_dates).run.run
          cache) := by
  rw [readNonNullable]
  split
  · exact absurd ‹_› (hhead _ _ _ _)
  · rw [ConvM.run_get_bind]
    dsimp only
    rw [hc]
    dsimp only
    rw [ConvM.run_bind, ← readColumnFromArrowColumn_mk]
    rcases (readColumnFromArrowColumn bounds (.mk "dict" value_type true)
      (arrow_column.map Arrow.Array.dictionary) format_name read_ints_as_dates).run.run cache with
      ⟨_ | dict_column, c₁⟩
    · rfl
    · dsimp only [storeDictionary]
      rw [ConvM.run_bind, ConvM.ofExcept_run]
      cases hlow : DataTypeLowCardinality.create dict_column.type
      · rfl
      · simp only [pure_bind, lowCardinalityColumn, buildDictionary_type, hlow]
        cases readColumnWithIndexesData index_type (arrow_column.map Arrow.Array.indices) <;> rfl

/-- A `LIST<DICTIONARY<INT32, STRING>>` field with element field `element`. -/
def listOfDictionaryField (name element : String) : Field :=
  .mk name (.list (.mk element (.dictionary .int32 .string) false)) false

/-- A one-row list column whose one element has index 2 in a dictionary of three
one-byte words. -/
def listOfDictionaryColumn (w₀ w₁ w₂ : UInt8) : ChunkedArray :=
  [.list 1 0 none [0, 1]
    (.dictEncoded (.primitive 1 0 none [2, 0, 0, 0]) (.binary 3 0 none [0, 1, 2, 3] [w₀, w₁, w₂]))]

/-- The cache after converting the column `a` (dictionary `p q x`, element field `item`,
Arrow's default name): the dictionary is stored under `item`. -/
def cacheAfterListA : DictionaryValues :=
  ((readColumnFromArrowColumn sampleDateBounds (listOfDictionaryField "a" "item")
    (listOfDictionaryColumn 112 113 120) "Parquet" true).run.run fun _ => none).2

/-- After column `a`, the column `b` (dictionary `r s y`), whose element field is also
named `item`, is decoded with `a`'s dictionary: its row reads `p` where the same
conversion from an empty cache reads `r`. -/
theorem readColumnFromArrowColumn_reuses_cached_dictionary :
    ((readColumnFromArrowColumn sampleDateBounds (listOfDictionaryField "b" "item")
        (listOfDictionaryColumn 114 115 121) "Parquet" true).run.run cacheAfterListA).1.map
        (fun column => column.column.get 0) = .ok (.array [.string [112]]) ∧
      ((readColumnFromArrowColumn sampleDateBounds (listOfDictionaryField "b" "item")
        (listOfDictionaryColumn 114 115 121) "Parquet" true).run.run fun _ => none).1.map
        (fun column => column.column.get 0) = .ok (.array [.string [114]]) :=
  ⟨rfl, rfl⟩

/-- A dictionary column of one row: index 0 into the dictionary `["a"]`. -/
def oneWordDictionaryColumn : ChunkedArray :=
  [.dictEncoded (.primitive 1 0 none [0, 0, 0, 0]) (.binary 1 0 none [0, 1] [97])]

/-- The row's dictionary value converts to `"a"`, but the `LowCardinality` row reads the
reserved `NULL` row of the rebuilt dictionary: the raw index 0 is used as a position in
a dictionary whose first rows `uniqueInsertRangeFrom` reserves. -/
theorem readColumnFromArrowColumn_dictionary_reads_reserved_row :
    ((readColumnFromArrowColumn sampleDateBounds (.mk "dict" .string true)
        [.binary 1 0 none [0, 1] [97]] "Parquet" true).run.run fun _ => none).1.map
        (fun column => column.column.get 0) = .ok (.string [97]) ∧
      ((readColumnFromArrowColumn sampleDateBounds (.mk "d" (.dictionary .int32 .string) false)
        oneWordDictionaryColumn "Parquet" true).run.run fun _ => none).1.map
        (fun column => column.column.get 0) = .ok .null :=
  ⟨rfl, rfl⟩

end GlutenBridge
