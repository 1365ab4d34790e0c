import GlutenBridge.Convert.Shape

/-!
# The conversion session

`OptimizedArrowColumnToCHColumn` converts a table, given as its columns by name and its
schema, into a chunk whose columns are those of a fixed header, in the header's order
(`arrowColumnsToCHChunk`). A header column is taken from the table column of its name,
or, with `import_nested`, extracted from the column its name's table prefix names, or,
with `allow_missing_columns`, synthesised by `cloneResized`; otherwise the conversion
throws `THERE_IS_NO_COLUMN`. `getMissingColumns` runs the same resolution on the header
`arrowSchemaToCHHeader` derives from the schema alone, from an empty array per field.

`Nested::splitName`, `Nested::extractTableName` and `Chunk::setColumns`, which checks
that every column has the chunk's row count, are ClickHouse's. The nested-column
extractor, `local_engine::NestedColumnExtractHelper`, is not in the repository: it is
modelled from the spec (`extractColumn`). The ClickHouse functions the session calls on
columns (`castColumn`, `cloneResized`, the names of types and columns for an error
message) are the fields of `ClickHouseFunctions`, a parameter.

Each column of the chunk is returned with how it was resolved (`Resolution`), so that
the positions filled by `cloneResized` can be read off the result.
-/

set_option autoImplicit false

namespace GlutenBridge

open Arrow DB

/-! ## Nested names -/

namespace Nested

/-- ClickHouse's `Nested::splitName(name)`: the parts before and after the first dot;
the whole name and an empty one when the name has no dot, or one only at its start or
end. -/
def splitName (name : String) : String × String :=
  match name.toList.findIdx? (· == '.') with
  | some idx =>
    if idx = 0 ∨ idx + 1 = name.length then (name, "")
    else (String.mk (name.toList.take idx), String.mk (name.toList.drop (idx + 1)))
  | none => (name, "")

/-- `Nested::extractTableName(name)`. -/
def extractTableName (name : String) : String := (splitName name).1

end Nested

/-- The element of a tuple column at a path of element names. -/
def descend (column : ColumnWithTypeAndName) : List String → Option ColumnWithTypeAndName
  | [] => some column
  | name :: path =>
    match column.type with
    | .tuple elems names =>
      match names.findIdx? (· == name) with
      | some i => descend ⟨column.column.tupleElement i, elems.getD i (.tuple [] []),
          column.name ++ "." ++ name⟩ path
      | none => none
    | _ => none

/-- Modelled from the spec: the tuple element names a nested name leads through, the part
after its table prefix split at its dots. -/
def nestedPath (name : String) : List String :=
  ((Nested.splitName name).2.toList.splitOn '.').map String.mk

/-- Modelled from the spec: `NestedColumnExtractHelper(block, true).extractColumn(name)`,
whose class is not in the repository. The spec's extractor answers whether a leaf path
exists in a record-like column group and returns its column: a column of the block
named `name` is returned as it is; otherwise the part of `name` before its first dot
names a column of the block, and `nestedPath name` is a path of tuple element names
into it. -/
def extractColumn (block : List ColumnWithTypeAndName) (name : String) :
    Option ColumnWithTypeAndName :=
  match block.find? (·.name == name) with
  | some column => some column
  | none =>
    match block.find? (·.name == (Nested.splitName name).1) with
    | some group => descend group (nestedPath name)
    | none => none

/-! ## The header derived from a schema -/

mutual
/-- The array `MakeBuilder(type)` and `Finish()` give: no rows, with the layout of the
type. -/
def emptyArray : Arrow.DataType → Arrow.Array
  | .string | .binary => .binary 0 0 none [0] []
  | .list value_field | .map value_field => .list 0 0 none [0] (emptyFieldArray value_field)
  | .struct fields => .struct 0 0 none (emptyFieldArrays fields)
  | .dictionary index_type value_type =>
    .dictEncoded (emptyArray index_type) (emptyArray value_type)
  | _ => .primitive 0 0 none []

def emptyFieldArray : Field → Arrow.Array
  | .mk _ type _ => emptyArray type

def emptyFieldArrays : List Field → List Arrow.Array
  | [] => []
  | field :: fields => emptyFieldArray field :: emptyFieldArrays fields
end

variable (bounds : DateBounds)

/-- `arrowSchemaToCHHeader(schema, format_name)`: each field converted from a chunked
array of one empty array, with its own empty dictionary cache and without reading
integers as dates. -/
def arrowSchemaToCHHeader (schema : List Field) (format_name : String) :
    Except Exception (List ColumnWithTypeAndName) :=
  schema.mapM fun field =>
    ((readColumnFromArrowColumn bounds field [emptyArray field.type] format_name false).run.run
      fun _ => none).1

/-! ## The session -/

/-- The ClickHouse functions the session calls on columns, outside the repository. -/
structure ClickHouseFunctions where
  /-- `castColumn(column, type)`. -/
  castColumn : ColumnWithTypeAndName → DB.DataType → Except Exception Column
  /-- `IColumn::cloneResized(size)`. -/
  cloneResized : Column → Nat → Column
  /-- `IDataType::getName()`. -/
  typeName : DB.DataType → String
  /-- `backQuote(name)`. -/
  backQuote : String → String
  /-- `IColumn::getName()`. -/
  columnName : Column → String

/-- An `OptimizedArrowColumnToCHColumn`: its header and its settings. The dictionary
cache is the state of `ConvM`. -/
structure Session where
  header : List ColumnWithTypeAndName
  format_name : String
  import_nested : Bool
  allow_missing_columns : Bool

/-- How `arrowColumnsToCHChunk` filled a header column. -/
inductive Resolution where
  | exact | nested | missing
deriving DecidableEq, Repr

/-- The chunk `arrowColumnsToCHChunk` sets: its columns, each with how it was filled, and
its row count. -/
structure Chunk where
  columns : List (Resolution × Column)
  num_rows : Nat

/-- `Chunk::checkNumRowsIsConsistent()` from position `i` on: the exception for the first
column without `num_rows` rows. -/
def checkNumRowsIsConsistent (columnName : Column → String) (num_rows : Nat) :
    Nat → List (Resolution × Column) → Option Exception
  | _, [] => none
  | i, (_, column) :: columns =>
    if column.size ≠ num_rows then
      some ⟨.LOGICAL_ERROR, "Invalid number of rows in Chunk column " ++ columnName column ++
        " position " ++ toString i ++ ": expected " ++ toString num_rows ++ ", got " ++
        toString column.size⟩
    else checkNumRowsIsConsistent columnName num_rows (i + 1) columns

/-- `Chunk::setColumns(columns, num_rows)`: the chunk, once every column is checked to have
`num_rows` rows. -/
def Chunk.setColumns (columnName : Column → String) (columns : List (Resolution × Column))
    (num_rows : Nat) : Except Exception Chunk :=
  match checkNumRowsIsConsistent columnName num_rows 0 columns with
  | some e => .error e
  | none => .ok ⟨columns, num_rows⟩

theorem Chunk.setColumns_eq_ok {columnName : Column → String} {columns : List (Resolution × Column)}
    {num_rows : Nat} {chunk : Chunk} (h : Chunk.setColumns columnName columns num_rows = .ok chunk) :
    chunk = ⟨columns, num_rows⟩ := by
  unfold Chunk.setColumns at h
  split at h <;> cases h
  rfl

/-- The exception of `checkNumRowsIsConsistent`: the `LOGICAL_ERROR` naming a column, its
position and its row count, which is not the chunk's. -/
theorem checkNumRowsIsConsistent_eq_some {columnName : Column → String} {num_rows : Nat}
    {e : Exception} : ∀ {i : Nat} {columns : List (Resolution × Column)},
    checkNumRowsIsConsistent columnName num_rows i columns = some e →
      ∃ (j : Nat) (column : Column), column.size ≠ num_rows ∧ e = ⟨.LOGICAL_ERROR,
        "Invalid number of rows in Chunk column " ++ columnName column ++ " position " ++
          toString j ++ ": expected " ++ toString num_rows ++ ", got " ++ toString column.size⟩
  | _, [], h => nomatch h
  | i, (_, column) :: columns, h => by
    unfold checkNumRowsIsConsistent at h
    split at h
    · cases h
      exact ⟨i, column, ‹_›, rfl⟩
    · exact checkNumRowsIsConsistent_eq_some h

theorem Chunk.setColumns_eq_error {columnName : Column → String}
    {columns : List (Resolution × Column)} {num_rows : Nat} {e : Exception}
    (h : Chunk.setColumns columnName columns num_rows = .error e) :
    ∃ (j : Nat) (column : Column), column.size ≠ num_rows ∧ e = ⟨.LOGICAL_ERROR,
      "Invalid number of rows in Chunk column " ++ columnName column ++ " position " ++
        toString j ++ ": expected " ++ toString num_rows ++ ", got " ++ toString column.size⟩ := by
  unfold Chunk.setColumns at h
  split at h <;> cases h
  exact checkNumRowsIsConsistent_eq_some ‹_›

/-- `name_to_column_ptr[name]`, when `name_to_column_ptr.contains(name)`. -/
def lookupColumn (name_to_column_ptr : List (String × ChunkedArray)) (name : String) :
    Option ChunkedArray :=
  (name_to_column_ptr.find? (·.1 == name)).map (·.2)

/-- `schema->field(schema->GetFieldIndex(name))`. -/
def fieldByName (schema : List Field) (name : String) : Field :=
  (schema.find? (·.name == name)).getD (.mk name (.other "") false)

/-- `Block::has(name)`. -/
def hasColumn (block : List ColumnWithTypeAndName) (name : String) : Bool :=
  block.any (·.name == name)

/-- The exception for a header column resolved by no route. -/
def noColumnError (name : String) : Exception :=
  ⟨.THERE_IS_NO_COLUMN, "Column \x27" ++ name ++ "\x27 is not presented in input data."⟩

/-- `Table::GetColumnByName(name)` on a table of fields and their columns: the column of
that name, none when no column or more than one has it (`Schema::GetFieldIndex` gives -1
for a name that is not unique). -/
def getColumnByName (table : List (Field × ChunkedArray)) (name : String) :
    Option ChunkedArray :=
  match table.filter (·.1.name == name) with
  | [(_, arrow_column)] => some arrow_column
  | _ => none

/-- `name_to_column_ptr[name] = arrow_column`: the entry of the name replaced, or a new
entry. -/
def assignColumn (name_to_column_ptr : List (String × ChunkedArray)) (name : String)
    (arrow_column : ChunkedArray) : List (String × ChunkedArray) :=
  if name_to_column_ptr.any (·.1 == name) then
    name_to_column_ptr.map fun p => if p.1 == name then (name, arrow_column) else p
  else name_to_column_ptr ++ [(name, arrow_column)]

/-- The loop of `arrowTableToCHChunk` over `table->ColumnNames()`, filling
`name_to_column_ptr`. -/
def collectColumns (table : List (Field × ChunkedArray)) :
    List String → List (String × ChunkedArray) → Except Exception (List (String × ChunkedArray))
  | [], name_to_column_ptr => .ok name_to_column_ptr
  | column_name :: names, name_to_column_ptr =>
    match getColumnByName table column_name with
    | none => .error ⟨.DUPLICATE_COLUMN, "Column \x27" ++ column_name ++ "\x27 is duplicated"⟩
    | some arrow_column =>
      collectColumns table names (assignColumn name_to_column_ptr column_name arrow_column)

namespace Session

variable (session : Session) (fns : ClickHouseFunctions)
  (name_to_column_ptr : List (String × ChunkedArray)) (schema : List Field)

/-- The cast to the header column's type, the message extended on failure. -/
def castToHeader (column header_column : ColumnWithTypeAndName) : Except Exception Column :=
  match fns.castColumn column header_column.type with
  | .ok cast => .ok cast
  | .error e =>
    let context := "while converting column " ++ fns.backQuote header_column.name ++
      " from type " ++ fns.typeName column.type ++ " to type " ++ fns.typeName header_column.type
    .error { e with message := e.message ++ ": " ++ context }

/-- The nested-table route of `arrowColumnsToCHChunk`: the column the name's table prefix
names is converted once per call (`nested_tables`) and the name extracted from it. -/
def readFromNested (name : String) (nested_tables : List (String × ColumnWithTypeAndName)) :
    ConvM (List (String × ColumnWithTypeAndName) × Option ColumnWithTypeAndName) :=
  if session.import_nested then
    let search_nested_table_name := Nested.extractTableName name
    match lookupColumn name_to_column_ptr search_nested_table_name with
    | some arrow_column => do
      let (nested_tables, group) ← match nested_tables.lookup search_nested_table_name with
        | some group => pure (nested_tables, group)
        | none => do
          let group ← readColumnFromArrowColumn bounds
            (fieldByName schema search_nested_table_name) arrow_column session.format_name true
          pure ((search_nested_table_name, group) :: nested_tables, group)
      pure (nested_tables, extractColumn [group] name)
    | none => pure (nested_tables, none)
  else pure (nested_tables, none)

/-- One iteration of the loop of `arrowColumnsToCHChunk`: the header column's source,
converted and cast to the header's type. -/
def resolveColumn (num_rows : Nat) (header_column : ColumnWithTypeAndName)
    (nested_tables : List (String × ColumnWithTypeAndName)) :
    ConvM ((Resolution × Column) × List (String × ColumnWithTypeAndName)) :=
  match lookupColumn name_to_column_ptr header_column.name with
  | some arrow_column => do
    let column ← readColumnFromArrowColumn bounds (fieldByName schema header_column.name)
      arrow_column session.format_name true
    let cast ← ConvM.ofExcept (castToHeader fns column header_column)
    pure ((.exact, cast), nested_tables)
  | none => do
    let (nested_tables, nested_column) ←
      readFromNested bounds session name_to_column_ptr schema header_column.name nested_tables
    match nested_column with
    | some column =>
      let cast ← ConvM.ofExcept (castToHeader fns column header_column)
      pure ((.nested, cast), nested_tables)
    | none =>
      if !session.allow_missing_columns then throw (noColumnError header_column.name)
      else pure ((.missing, fns.cloneResized header_column.column num_rows), nested_tables)

/-- The loop of `arrowColumnsToCHChunk` over the header columns. -/
def resolveColumns (num_rows : Nat) :
    List ColumnWithTypeAndName → List (String × ColumnWithTypeAndName) →
      ConvM (List (Resolution × Column))
  | [], _ => pure []
  | header_column :: header_columns, nested_tables => do
    let (column, nested_tables) ← resolveColumn bounds session fns name_to_column_ptr schema
      num_rows header_column nested_tables
    let columns ← resolveColumns num_rows header_columns nested_tables
    pure (column :: columns)

/-- `arrowColumnsToCHChunk(res, name_to_column_ptr, schema)`. The row count is the length
of the first column, which all columns of a table share. -/
def arrowColumnsToCHChunk : ConvM Chunk :=
  match name_to_column_ptr with
  | [] => throw ⟨.INCORRECT_NUMBER_OF_COLUMNS, "Columns is empty"⟩
  | (_, first) :: _ => do
    let columns_list ← resolveColumns bounds session fns name_to_column_ptr schema first.length
      session.header []
    ConvM.ofExcept (Chunk.setColumns fns.columnName columns_list first.length)

/-- `arrowTableToCHChunk(res, table)` on a table of fields and their columns: the chunk of
the table's columns by name, or none, `res` left as it was, for a table without
columns. -/
def arrowTableToCHChunk (table : List (Field × ChunkedArray)) : ConvM (Option Chunk) := do
  let name_to_column_ptr ← ConvM.ofExcept (collectColumns table (table.map (·.1.name)) [])
  if name_to_column_ptr.isEmpty then pure none
  else some <$> session.arrowColumnsToCHChunk bounds fns name_to_column_ptr (table.map (·.1))

/-- The loop of `getMissingColumns` over the header columns from position `i`. -/
def missingColumnsFrom (block_from_arrow : List ColumnWithTypeAndName) :
    Nat → List ColumnWithTypeAndName → Except Exception (List Nat)
  | _, [] => pure []
  | i, column :: columns =>
    if !hasColumn block_from_arrow column.name then
      let read_from_nested := session.import_nested &&
        hasColumn block_from_arrow (Nested.extractTableName column.name) &&
        (extractColumn block_from_arrow column.name).isSome
      if !read_from_nested then
        if !session.allow_missing_columns then throw (noColumnError column.name)
        else (i :: ·) <$> missingColumnsFrom block_from_arrow (i + 1) columns
      else missingColumnsFrom block_from_arrow (i + 1) columns
    else missingColumnsFrom block_from_arrow (i + 1) columns

/-- `getMissingColumns(schema)`: the positions of the header columns the schema's header
resolves by no route. -/
def getMissingColumns : Except Exception (List Nat) := do
  let block_from_arrow ← arrowSchemaToCHHeader bounds schema session.format_name
  missingColumnsFrom session block_from_arrow 0 session.header

end Session

end GlutenBridge
