import GlutenBridge.Convert.Meaning
import GlutenBridge.Session.MissingColumns

/-!
# Converting a table

`arrowTableToCHChunk` collects the table's columns by name and hands them to
`arrowColumnsToCHChunk`. `arrowTableToCHChunk_run` says what it does with any table: a
table in which more than one column has a name is refused with `DUPLICATE_COLUMN`, for
the first such name in column order, before anything is converted and with the cache as
it was; a table without columns gives no chunk; any other table is converted with its
columns by name, in column order, and its fields as the schema.

`arrowColumnsToCHChunk` fills each header column the table has a column for by
converting that column with its field and casting the result to the header's type. Over
a table whose columns are supported and read faithfully (`TableFaithful`), every such
column of the chunk is the cast of a column holding the values of the table column's
rows (`arrowColumnsToCHChunk_holds_table_rows`): the meaning the converter keeps column
by column (`readColumnFromArrowColumn_faithful`) is kept by the session's loop over the
header, whatever the cache of dictionaries and of nested tables. The cast is ClickHouse's
`castColumn`, outside the repository, and stays abstract.
-/

set_option autoImplicit false

namespace GlutenBridge

open Arrow DB

/-- What the chunk holds at a header column the table has a column for: a column filled
from it, the cast to the header's type of a column holding the values of the table
column's rows. -/
def HoldsTableRows (schema : List Field) (name_to_column_ptr : List (String × ChunkedArray))
    (fns : ClickHouseFunctions) (header_column : ColumnWithTypeAndName)
    (filled : Resolution × Column) : Prop :=
  ∀ arrow_column, lookupColumn name_to_column_ptr header_column.name = some arrow_column →
    filled.1 = .exact ∧ ∃ column : ColumnWithTypeAndName,
      column.column.rows = columnValues (fieldByName schema header_column.name) arrow_column ∧
        Session.castToHeader fns column header_column = .ok filled.2

/-- Every column of the table is of a supported field and read faithfully. -/
def TableFaithful (schema : List Field) (name_to_column_ptr : List (String × ChunkedArray)) :
    Prop :=
  ∀ p ∈ name_to_column_ptr, fieldSupported (fieldByName schema p.1) ∧
    ∀ a ∈ p.2, fieldChunkFaithful (fieldByName schema p.1) a

instance (schema : List Field) (name_to_column_ptr : List (String × ChunkedArray)) :
    Decidable (TableFaithful schema name_to_column_ptr) := by
  unfold TableFaithful
  infer_instance

variable (bounds : DateBounds)

section Table

variable (session : Session) (fns : ClickHouseFunctions)
  {name_to_column_ptr : List (String × ChunkedArray)} {schema : List Field}

/-- One iteration of the loop fills a column the table has from the table's rows. -/
theorem resolveColumn_holdsTableRows (htable : TableFaithful schema name_to_column_ptr)
    (num_rows : Nat) (header_column : ColumnWithTypeAndName)
    (nested_tables : List (String × ColumnWithTypeAndName)) :
    Keeps (fun _ => True)
      (fun r => HoldsTableRows schema name_to_column_ptr fns header_column r.1)
      (session.resolveColumn bounds fns name_to_column_ptr schema num_rows header_column
        nested_tables) := by
  rw [Session.resolveColumn]
  split
  · rename_i arrow_column hlookup
    have hfaithful := htable _ (mem_of_lookupColumn hlookup)
    refine (readColumnFromArrowColumn_faithful bounds _ arrow_column session.format_name
      true).bind fun column hcolumn => (Keeps.ofExcept fun _ hcast => hcast).bind
        fun cast hcast => Keeps.pure fun arrow_column' hlookup' => ?_
    cases hlookup.symm.trans hlookup'
    exact ⟨rfl, column, (hcolumn hfaithful).1, hcast⟩
  · rename_i hlookup
    exact (Keeps.triv _).mono fun _ _ _ hlookup' => nomatch hlookup.symm.trans hlookup'

/-- The loop over the header fills every column the table has from the table's rows. -/
theorem resolveColumns_holdsTableRows (htable : TableFaithful schema name_to_column_ptr)
    (num_rows : Nat) : ∀ (header : List ColumnWithTypeAndName)
      (nested_tables : List (String × ColumnWithTypeAndName)),
      Keeps (fun _ => True)
        (List.Forall₂ (HoldsTableRows schema name_to_column_ptr fns) header)
        (session.resolveColumns bounds fns name_to_column_ptr schema num_rows header
          nested_tables)
  | [], _ => by
    rw [Session.resolveColumns]
    exact Keeps.pure .nil
  | header_column :: header, nested_tables => by
    rw [Session.resolveColumns]
    exact (resolveColumn_holdsTableRows bounds session fns htable num_rows header_column
      nested_tables).bind fun ⟨column, nested_tables'⟩ hcolumn =>
        (resolveColumns_holdsTableRows htable num_rows header nested_tables').bind
          fun _ hcolumns => Keeps.pure (.cons hcolumn hcolumns)

/-- The chunk holds the rows of the table: converting a table whose columns are
supported and read faithfully, from any cache, every column of the chunk the table has
a column for is filled from it, as the cast to the header's type of a column holding the
values of the table column's rows. -/
theorem arrowColumnsToCHChunk_holds_table_rows (htable : TableFaithful schema name_to_column_ptr)
    (dictionary_values : DictionaryValues) (chunk : Chunk)
    (hrun : ((session.arrowColumnsToCHChunk bounds fns name_to_column_ptr schema).run.run
      dictionary_values).1 = .ok chunk) :
    List.Forall₂ (HoldsTableRows schema name_to_column_ptr fns) session.header chunk.columns := by
  have hkeeps : Keeps (fun _ => True)
      (fun chunk : Chunk =>
        List.Forall₂ (HoldsTableRows schema name_to_column_ptr fns) session.header chunk.columns)
      (session.arrowColumnsToCHChunk bounds fns name_to_column_ptr schema) := by
    rw [Session.arrowColumnsToCHChunk.eq_def]
    split
    · exact Keeps.throw _
    · exact (resolveColumns_holdsTableRows bounds session fns htable _ _ _).bind
        fun _ hcolumns => Keeps.ofExcept fun _ h => (Chunk.setColumns_eq_ok h).symm ▸ hcolumns
  exact (hkeeps dictionary_values trivial).2 chunk hrun

end Table

theorem arrowColumnsToCHChunk_holds_table_rows_sample :
    TableFaithful sampleSchema sampleTable ∧
      ∃ chunk, ((sampleSession.arrowColumnsToCHChunk sampleDateBounds keepingFunctions
          sampleTable sampleSchema).run.run fun _ => none).1 = .ok chunk ∧
        List.Forall₂ (HoldsTableRows sampleSchema sampleTable keepingFunctions)
          sampleSession.header chunk.columns :=
  ⟨by decide, _, rfl, arrowColumnsToCHChunk_holds_table_rows sampleDateBounds sampleSession
    keepingFunctions (by decide) (fun _ => none) _ rfl⟩

/-! ## The table's columns by name -/

/-- The first name of the list that the list holds more than once. -/
def firstDuplicate (names : List String) : Option String :=
  names.find? fun name => 1 < names.count name

section Collect

variable {table : List (Field × ChunkedArray)} {name : String}

theorem length_filter_name (table : List (Field × ChunkedArray)) (name : String) :
    (table.filter (·.1.name == name)).length = (table.map (·.1.name)).count name := by
  rw [List.count, List.countP_map, List.countP_eq_length_filter]
  rfl

theorem getColumnByName_of_count_eq_one {f : Field} {arrow_column : ChunkedArray}
    (hcount : (table.map (·.1.name)).count f.name = 1) (hmem : (f, arrow_column) ∈ table) :
    getColumnByName table f.name = some arrow_column := by
  rw [← length_filter_name, List.length_eq_one] at hcount
  obtain ⟨x, hx⟩ := hcount
  have hx' : (f, arrow_column) ∈ table.filter (·.1.name == f.name) := by
    simpa using hmem
  rw [hx, List.mem_singleton] at hx'
  rw [getColumnByName, hx, ← hx']

theorem getColumnByName_of_one_lt_count (hcount : 1 < (table.map (·.1.name)).count name) :
    getColumnByName table name = none := by
  rw [← length_filter_name] at hcount
  unfold getColumnByName
  split
  · rename_i h
    rw [h] at hcount
    simp at hcount
  · rfl

/-- The loop from the columns `suffix` on, the names before them each held once. -/
theorem collectColumns_suffix : ∀ (suffix pre : List (Field × ChunkedArray)),
    table = pre ++ suffix → (∀ n ∈ pre.map (·.1.name), (table.map (·.1.name)).count n = 1) →
    collectColumns table (suffix.map (·.1.name)) (pre.map fun p => (p.1.name, p.2)) =
      match (suffix.map (·.1.name)).find? (fun n => 1 < (table.map (·.1.name)).count n) with
      | some name => .error ⟨.DUPLICATE_COLUMN, "Column \x27" ++ name ++ "\x27 is duplicated"⟩
      | none => .ok (table.map fun p => (p.1.name, p.2))
  | [], pre, htable, _ => by
    simp [collectColumns, htable]
  | (f, arrow_column) :: suffix, pre, htable, hpre => by
    have hmem : (f, arrow_column) ∈ table := by simp [htable]
    have hpos : 0 < (table.map (·.1.name)).count f.name :=
      List.count_pos_iff.2 (List.mem_map_of_mem _ hmem)
    rw [List.map_cons, collectColumns, List.find?_cons]
    by_cases hdup : 1 < (table.map (·.1.name)).count f.name
    · rw [getColumnByName_of_one_lt_count hdup]
      simp [hdup]
    · have hone : (table.map (·.1.name)).count f.name = 1 := by omega
      have hfresh : (pre.map fun p => (p.1.name, p.2)).any (·.1 == f.name) = false := by
        have hcount := hone
        rw [htable, List.map_append, List.count_append, List.map_cons, List.count_cons_self] at hcount
        have hnot : f.name ∉ pre.map (·.1.name) := List.count_eq_zero.1 (by omega)
        rw [List.any_eq_false]
        rintro _ hmapped hname
        obtain ⟨q, hq, rfl⟩ := List.mem_map.1 hmapped
        exact hnot (List.mem_map.2 ⟨q, hq, by simpa using hname⟩)
      rw [getColumnByName_of_count_eq_one hone hmem, decide_eq_false hdup]
      dsimp only
      rw [assignColumn, if_neg (by simp [hfresh])]
      have := collectColumns_suffix suffix (pre ++ [(f, arrow_column)]) (by simp [htable]) (by
        simp only [List.map_append, List.map_cons, List.map_nil, List.mem_append,
          List.mem_singleton]
        rintro n (hn | rfl)
        · exact hpre n hn
        · exact hone)
      simpa using this

end Collect

section TableRun

variable (session : Session) (fns : ClickHouseFunctions)

/-- What converting a table does: a table in which more than one column has a name is
refused with `DUPLICATE_COLUMN` for the first such name in column order, with nothing
converted and the cache as it was; a table without columns gives no chunk; any other
table is converted with its columns by name, in column order, and its fields as the
schema. -/
theorem arrowTableToCHChunk_run (table : List (Field × ChunkedArray))
    (dictionary_values : DictionaryValues) :
    (session.arrowTableToCHChunk bounds fns table).run.run dictionary_values =
      match firstDuplicate (table.map (·.1.name)) with
      | some name =>
        (.error ⟨.DUPLICATE_COLUMN, "Column \x27" ++ name ++ "\x27 is duplicated"⟩,
          dictionary_values)
      | none =>
        if table.isEmpty then (.ok none, dictionary_values)
        else (some <$> session.arrowColumnsToCHChunk bounds fns
          (table.map fun p => (p.1.name, p.2)) (table.map (·.1))).run.run dictionary_values := by
  have hcollect := collectColumns_suffix table [] rfl (by simp)
  simp only [List.map_nil, List.nil_append] at hcollect
  rw [Session.arrowTableToCHChunk, ConvM.run_bind, ConvM.ofExcept_run, hcollect, firstDuplicate]
  cases (table.map (·.1.name)).find? (fun n => 1 < (table.map (·.1.name)).count n) with
  | some name => rfl
  | none =>
    cases table with
    | nil => rfl
    | cons p table => rfl

/-- Two columns named `a`: refused before the first is converted. -/
example : ((sampleSession.arrowTableToCHChunk sampleDateBounds keepingFunctions
    [(.mk "a" .int32 false, []), (.mk "a" .int32 false, [])]).run.run fun _ => none).1.map
      (·.isSome) = .error ⟨.DUPLICATE_COLUMN, "Column \x27a\x27 is duplicated"⟩ := rfl

end TableRun

end GlutenBridge
