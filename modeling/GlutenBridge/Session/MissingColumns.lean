import GlutenBridge.Session.Conversion

/-!
# The dry run and the live conversion resolve alike

`getMissingColumns` resolves the header against the header `arrowSchemaToCHHeader`
derives from a schema; `arrowColumnsToCHChunk` resolves it against a table's columns,
converting the column of a nested table once per call. Both are proved equal to one
resolution computed from the schema alone, `resolveAll` over `resolutionIn`: the dry run
in `getMissingColumns_eq`, the live conversion in `arrowColumnsToCHChunk_spec`, for a
non-empty table that has the schema's columns, converts and casts without error and holds
no `CHStringArray`.

A nested lookup sees a column only through its tuple structure (`descend_isSome`,
`hasPath_shape`), and the column a field converts to has the field's tuple structure
whatever the chunks and the cache (`readColumnFromArrowColumn_shape`), so the empty
arrays of the dry run and the table's data resolve every name alike. The live loop keeps
one invariant of its cache of nested tables, `NestedTablesValid`.
-/

set_option autoImplicit false

namespace GlutenBridge

open Arrow DB

/-! ## Paths into tuples -/

/-- A path of tuple element names leads into the type. -/
def hasPath : DB.DataType → List String → Bool
  | _, [] => true
  | type, name :: path =>
    match type with
    | .tuple elems names =>
      match names.findIdx? (· == name) with
      | some i => hasPath (elems.getD i (.tuple [] [])) path
      | none => false
    | _ => false

theorem descend_isSome (column : ColumnWithTypeAndName) (path : List String) :
    (descend column path).isSome = hasPath column.type path := by
  induction path generalizing column with
  | nil => rfl
  | cons name path ih =>
    rcases column with ⟨column, type, column_name⟩
    cases type with
    | tuple elems names =>
      simp only [descend, hasPath]
      cases names.findIdx? (· == name) with
      | some i => exact ih _
      | none => rfl
    | _ => rfl

theorem hasPath_shape (type : DB.DataType) (path : List String) :
    hasPath type.shape path = hasPath type path := by
  induction path generalizing type with
  | nil => rfl
  | cons name path ih =>
    cases type with
    | tuple elems names =>
      simp only [DB.DataType.shape, hasPath]
      cases names.findIdx? (· == name) with
      | some i => simp only [← DB.DataType.shape_getD, ih]
      | none => rfl
    | _ => rfl

/-- Extracting from the one column of a nested table, named by the name's table prefix,
follows the rest of the name into the column's tuple structure. -/
theorem extractColumn_group_isSome {group : ColumnWithTypeAndName} {name : String}
    (hgroup : group.name = Nested.extractTableName name) (hname : group.name ≠ name) :
    (extractColumn [group] name).isSome =
      hasPath group.type.shape (nestedPath name) := by
  rw [hasPath_shape, ← descend_isSome, extractColumn,
    List.find?_cons_of_neg _ (by simpa using hname), List.find?_nil,
    List.find?_cons_of_pos _ (by simpa [Nested.extractTableName] using hgroup)]

/-! ## The resolution a schema determines -/

/-- The route by which a header column of this name resolves against a schema: by its
name, through the struct its table prefix names, or by neither. -/
def resolutionIn (import_nested : Bool) (schema : List Field) (name : String) : Resolution :=
  if schema.any (·.name == name) then .exact
  else if import_nested && schema.any (·.name == Nested.extractTableName name) &&
      hasPath (fieldShape (fieldByName schema (Nested.extractTableName name)))
        (nestedPath name) then .nested
  else .missing

/-- Both loops, given the route of each header column: the first column with no route
fails under the strict policy; otherwise every column gets its route. -/
def resolveAll (allow_missing_columns : Bool) (route : String → Resolution) :
    List ColumnWithTypeAndName → Except Exception (List Resolution)
  | [] => .ok []
  | column :: columns =>
    if route column.name = .missing ∧ allow_missing_columns = false then
      throw (noColumnError column.name)
    else (route column.name :: ·) <$> resolveAll allow_missing_columns route columns

/-- The positions, counted from `i`, of the columns with no route. -/
def missingPositions : Nat → List Resolution → List Nat
  | _, [] => []
  | i, r :: rs =>
    if r = .missing then i :: missingPositions (i + 1) rs else missingPositions (i + 1) rs

@[simp] theorem missingPositions_cons (i : Nat) (r : Resolution) (rs : List Resolution) :
    missingPositions i (r :: rs) =
      if r = .missing then i :: missingPositions (i + 1) rs else missingPositions (i + 1) rs :=
  rfl

theorem name_fieldByName (schema : List Field) (name : String) :
    (fieldByName schema name).name = name := by
  rw [fieldByName]
  cases h : schema.find? (·.name == name) with
  | none => rfl
  | some field => simpa using List.find?_some h

/-! ## The dry run -/

/-- A column of a header derived from a schema, against its field: the field's name and
the field's tuple structure. -/
def ColumnMatches (field : Field) (column : ColumnWithTypeAndName) : Prop :=
  column.name = field.name ∧ column.type.shape = fieldShape field

mutual
theorem emptyArray_noCHString : ∀ type : Arrow.DataType, (emptyArray type).noCHString
  | .list value_field | .map value_field => emptyFieldArray_noCHString value_field
  | .struct fields => emptyFieldArrays_noCHString fields
  | .dictionary index_type value_type => by
    simp only [emptyArray, Arrow.Array.noCHString, emptyArray_noCHString index_type,
      emptyArray_noCHString value_type, Bool.and_self]
  | .bool | .uint8 | .int8 | .uint16 | .int16 | .uint32 | .int32 | .uint64 | .int64
  | .halfFloat | .float | .double | .string | .binary | .date32 | .date64 | .timestamp _ _
  | .decimal128 _ _ | .decimal256 _ _ | .other _ => rfl

theorem emptyFieldArray_noCHString : ∀ field : Field, (emptyFieldArray field).noCHString
  | .mk _ type _ => emptyArray_noCHString type

theorem emptyFieldArrays_noCHString :
    ∀ fields : List Field, Arrow.Array.allNoCHString (emptyFieldArrays fields)
  | [] => rfl
  | field :: fields => by
    simp only [emptyFieldArrays, Arrow.Array.allNoCHString, emptyFieldArray_noCHString field,
      emptyFieldArrays_noCHString fields, Bool.and_self]
end

variable (bounds : DateBounds)

/-- The header derived from a schema has, field by field, the field's name and tuple
structure. -/
theorem arrowSchemaToCHHeader_matches {schema : List Field} {format_name : String}
    {block : List ColumnWithTypeAndName}
    (h : arrowSchemaToCHHeader bounds schema format_name = .ok block) :
    List.Forall₂ ColumnMatches schema block := by
  induction schema generalizing block with
  | nil =>
    cases h
    exact .nil
  | cons field fields ih =>
    simp only [arrowSchemaToCHHeader, List.mapM_cons] at h
    rcases hfield : ((readColumnFromArrowColumn bounds field [emptyArray field.type] format_name
      false).run.run fun _ => none).1 with e | column
    · rw [hfield] at h
      cases h
    rw [hfield] at h
    rcases hfields : arrowSchemaToCHHeader bounds fields format_name with e | columns <;>
      rw [arrowSchemaToCHHeader] at hfields <;> rw [hfields] at h <;> cases h
    have hshape := (readColumnFromArrowColumn_shape bounds field [emptyArray field.type]
      format_name false _ trivial).2 column hfield
    exact .cons ⟨hshape.1, hshape.2 (List.forall_mem_singleton.2
      (fieldChStringsTyped_of_noCHString field _ (emptyArray_noCHString _)))⟩ (ih hfields)

section Header

variable {schema : List Field} {block : List ColumnWithTypeAndName}

theorem hasColumn_of_matches (hblock : List.Forall₂ ColumnMatches schema block)
    (name : String) : hasColumn block name = schema.any (·.name == name) := by
  induction hblock with
  | nil => rfl
  | cons hmatch _ ih => simp only [hasColumn, List.any_cons, hmatch.1] at ih ⊢; rw [ih]

theorem shape_of_find?_matches (hblock : List.Forall₂ ColumnMatches schema block)
    {name : String} {column : ColumnWithTypeAndName}
    (h : block.find? (·.name == name) = some column) :
    column.type.shape = fieldShape (fieldByName schema name) := by
  induction hblock with
  | nil => cases h
  | @cons field column' fields columns hmatch _ ih =>
    by_cases hname : field.name = name
    · rw [List.find?_cons_of_pos _ (by simp [hmatch.1, hname])] at h
      cases h
      rw [fieldByName, List.find?_cons_of_pos _ (by simp [hname])]
      exact hmatch.2
    · rw [List.find?_cons_of_neg _ (by simp [hmatch.1, hname])] at h
      rw [fieldByName, List.find?_cons_of_neg _ (by simp [hname])]
      exact ih h

/-- The dry run's extractor, over the whole derived header, follows the name into the
tuple structure of the field its table prefix names. -/
theorem extractColumn_isSome_of_matches (hblock : List.Forall₂ ColumnMatches schema block)
    {name : String} (hname : hasColumn block name = false)
    (htable : hasColumn block (Nested.extractTableName name) = true) :
    (extractColumn block name).isSome =
      hasPath (fieldShape (fieldByName schema (Nested.extractTableName name)))
        (nestedPath name) := by
  have hnone : block.find? (·.name == name) = none := by
    simpa [hasColumn, List.find?_eq_none] using hname
  rcases hgroup : block.find? (·.name == Nested.extractTableName name) with _ | group
  · obtain ⟨column, hmem, hcolumn⟩ := List.any_eq_true.1 htable
    exact absurd hcolumn (List.find?_eq_none.1 hgroup column hmem)
  · rw [extractColumn, hnone]
    dsimp only
    rw [← Nested.extractTableName, hgroup]
    dsimp only
    rw [descend_isSome, ← hasPath_shape, shape_of_find?_matches hblock hgroup]

/-- The route of a name, as the loop of `getMissingColumns` decides it on the derived
header. -/
theorem resolutionIn_of_matches (hblock : List.Forall₂ ColumnMatches schema block)
    (import_nested : Bool) (name : String) :
    resolutionIn import_nested schema name =
      if hasColumn block name then .exact
      else if import_nested && hasColumn block (Nested.extractTableName name) &&
        (extractColumn block name).isSome then .nested
      else .missing := by
  rw [resolutionIn, ← hasColumn_of_matches hblock, ← hasColumn_of_matches hblock]
  cases hname : hasColumn block name
  · cases htable : hasColumn block (Nested.extractTableName name)
    · simp
    · rw [extractColumn_isSome_of_matches hblock hname htable]
  · rfl

theorem missingColumnsFrom_eq (session : Session)
    (hblock : List.Forall₂ ColumnMatches schema block) :
    ∀ (i : Nat) (header : List ColumnWithTypeAndName),
      session.missingColumnsFrom block i header = missingPositions i <$>
        resolveAll session.allow_missing_columns (resolutionIn session.import_nested schema)
          header
  | _, [] => rfl
  | i, column :: columns => by
    rw [Session.missingColumnsFrom, resolveAll, resolutionIn_of_matches hblock,
      missingColumnsFrom_eq session hblock (i + 1) columns]
    cases hasColumn block column.name <;>
      cases (session.import_nested && hasColumn block (Nested.extractTableName column.name) &&
        (extractColumn block column.name).isSome) <;>
      cases session.allow_missing_columns <;> first | rfl | simp [Functor.map_map]

end Header

/-- The dry run is the schema's resolution, read off as the positions with no route. -/
theorem getMissingColumns_eq (session : Session) (schema : List Field)
    {block : List ColumnWithTypeAndName}
    (hheader : arrowSchemaToCHHeader bounds schema session.format_name = .ok block) :
    session.getMissingColumns bounds schema = missingPositions 0 <$>
      resolveAll session.allow_missing_columns (resolutionIn session.import_nested schema)
        session.header := by
  rw [Session.getMissingColumns, hheader]
  exact missingColumnsFrom_eq session (arrowSchemaToCHHeader_matches bounds hheader) 0 _

/-! ## The live conversion -/

/-- The table given to the live conversion has the schema's columns in the schema's order,
and each of its `CHStringArray`s stands for a string (`chStringsTyped`). -/
structure TableConforms (schema : List Field) (name_to_column_ptr : List (String × ChunkedArray)) :
    Prop where
  names : name_to_column_ptr.map Prod.fst = schema.map Field.name
  chStringsTyped : ∀ p ∈ name_to_column_ptr, ∀ a ∈ p.2, fieldChStringsTyped (fieldByName schema p.1) a

/-- What the loop keeps of `nested_tables`: each entry is its table's column converted, so
it carries the table's name and the tuple structure of the table's field. -/
def NestedTablesValid (schema : List Field)
    (nested_tables : List (String × ColumnWithTypeAndName)) : Prop :=
  ∀ table group, nested_tables.lookup table = some group →
    group.name = table ∧ group.type.shape = fieldShape (fieldByName schema table)

theorem NestedTablesValid.cons {schema : List Field}
    {nested_tables : List (String × ColumnWithTypeAndName)}
    (hvalid : NestedTablesValid schema nested_tables) {table : String}
    {group : ColumnWithTypeAndName} (hname : group.name = table)
    (hshape : group.type.shape = fieldShape (fieldByName schema table)) :
    NestedTablesValid schema ((table, group) :: nested_tables) := by
  intro table' group' h
  by_cases htable : table' = table
  · subst htable
    rw [List.lookup_cons_self] at h
    cases h
    exact ⟨hname, hshape⟩
  · rw [List.lookup_cons, show (table' == table) = false from beq_false_of_ne htable] at h
    exact hvalid table' group' h

namespace Session

variable (session : Session) (fns : ClickHouseFunctions)
  (name_to_column_ptr : List (String × ChunkedArray)) (schema : List Field)

/-- Whether the conversion and the cast one iteration of the live loop performs succeed,
from the cache and the nested tables it starts with: the conversion of the table column of
the header column's name and the cast of the result; or the conversion of the nested table
the name's prefix names, when it is not converted yet, and the cast of what is extracted
from it. -/
def stepSucceeds (header_column : ColumnWithTypeAndName)
    (nested_tables : List (String × ColumnWithTypeAndName))
    (dictionary_values : DictionaryValues) : Bool :=
  match lookupColumn name_to_column_ptr header_column.name with
  | some arrow_column =>
    match ((readColumnFromArrowColumn bounds (fieldByName schema header_column.name) arrow_column
        session.format_name true).run.run dictionary_values).1 with
    | .ok column => (fns.castColumn column header_column.type).isOk
    | .error _ => false
  | none =>
    match ((session.readFromNested bounds name_to_column_ptr schema header_column.name
        nested_tables).run.run dictionary_values).1 with
    | .ok (_, some column) => (fns.castColumn column header_column.type).isOk
    | .ok (_, none) => true
    | .error _ => false

/-- Whether the conversions and casts the live loop performs over the header succeed, each
from the cache and the nested tables the loop has reached. -/
def loopSucceeds (num_rows : Nat) : List ColumnWithTypeAndName →
    List (String × ColumnWithTypeAndName) → DictionaryValues → Bool
  | [], _, _ => true
  | header_column :: header, nested_tables, dictionary_values =>
    session.stepSucceeds bounds fns name_to_column_ptr schema header_column nested_tables
        dictionary_values &&
      match (session.resolveColumn bounds fns name_to_column_ptr schema num_rows header_column
          nested_tables).run.run dictionary_values with
      | (.ok (_, nested_tables'), dictionary_values') =>
        loopSucceeds num_rows header nested_tables' dictionary_values'
      | (.error _, _) => true

/-- Whether the conversions and casts `arrowColumnsToCHChunk` performs succeed. -/
def conversionsSucceed (dictionary_values : DictionaryValues) : Bool :=
  match name_to_column_ptr with
  | [] => true
  | (_, first) :: _ =>
    session.loopSucceeds bounds fns name_to_column_ptr schema first.length session.header []
      dictionary_values

end Session

section Table

variable (session : Session) (fns : ClickHouseFunctions)
  {name_to_column_ptr : List (String × ChunkedArray)} {schema : List Field}

theorem lookupColumn_isSome (hnames : name_to_column_ptr.map Prod.fst = schema.map Field.name)
    (name : String) :
    (lookupColumn name_to_column_ptr name).isSome = schema.any (·.name == name) := by
  have h : name ∈ name_to_column_ptr.map Prod.fst ↔ name ∈ schema.map Field.name := by
    rw [hnames]
  rw [Bool.eq_iff_iff]
  simpa [lookupColumn] using h

theorem mem_of_lookupColumn {name : String} {arrow_column : ChunkedArray}
    (h : lookupColumn name_to_column_ptr name = some arrow_column) :
    (name, arrow_column) ∈ name_to_column_ptr := by
  simp only [lookupColumn, Option.map_eq_some'] at h
  obtain ⟨p, hp, rfl⟩ := h
  have hname : p.1 = name := by simpa using List.find?_some hp
  simpa [← hname] using List.mem_of_find?_eq_some hp

/-- A column of a conforming table converts, when it returns, to a column of its name and
of its field's tuple structure. -/
theorem TableConforms.shape (htable : TableConforms schema name_to_column_ptr) {name : String}
    {arrow_column : ChunkedArray} (hmem : (name, arrow_column) ∈ name_to_column_ptr)
    (format_name : String) :
    Keeps (fun _ => True) (fun column : ColumnWithTypeAndName => column.name = name ∧
        column.type.shape = fieldShape (fieldByName schema name))
      (readColumnFromArrowColumn bounds (fieldByName schema name) arrow_column format_name true) :=
  (readColumnFromArrowColumn_shape bounds _ arrow_column format_name true).mono fun _ h =>
    ⟨h.1.trans (name_fieldByName schema name), h.2 (htable.chStringsTyped _ hmem)⟩

theorem castToHeader_ok {column header_column : ColumnWithTypeAndName}
    (h : (fns.castColumn column header_column.type).isOk) :
    ∃ cast, Session.castToHeader fns column header_column = .ok cast := by
  cases hcast : fns.castColumn column header_column.type with
  | error e => rw [hcast] at h; cases h
  | ok cast => exact ⟨cast, by rw [Session.castToHeader, hcast]⟩

theorem resolutionIn_ne_exact (htable : TableConforms schema name_to_column_ptr)
    {name : String} (hname : lookupColumn name_to_column_ptr name = none) :
    resolutionIn session.import_nested schema name ≠ .exact := by
  rw [resolutionIn, ← lookupColumn_isSome htable.names, hname, Option.isSome_none,
    if_neg Bool.false_ne_true]
  split_ifs <;> simp

/-- The nested-table route returns, when it returns, a column exactly when the schema's
resolution is nested, and keeps the cache of nested tables valid. -/
theorem readFromNested_spec (htable : TableConforms schema name_to_column_ptr)
    {nested_tables : List (String × ColumnWithTypeAndName)}
    (hvalid : NestedTablesValid schema nested_tables) {name : String}
    (hname : lookupColumn name_to_column_ptr name = none) :
    Keeps (fun _ => True) (fun r : List (String × ColumnWithTypeAndName) ×
        Option ColumnWithTypeAndName => NestedTablesValid schema r.1 ∧
          (r.2.isSome ↔ resolutionIn session.import_nested schema name = .nested))
      (session.readFromNested bounds name_to_column_ptr schema name nested_tables) := by
  have hexact : schema.any (·.name == name) = false := by
    rw [← lookupColumn_isSome htable.names, hname]; rfl
  rw [Session.readFromNested]
  cases session.import_nested
  · exact Keeps.pure ⟨hvalid, by simp [resolutionIn, hexact]⟩
  rw [if_pos rfl]
  dsimp only
  cases hlookup : lookupColumn name_to_column_ptr (Nested.extractTableName name) with
  | none =>
    have htable' : schema.any (·.name == Nested.extractTableName name) = false := by
      rw [← lookupColumn_isSome htable.names, hlookup]; rfl
    exact Keeps.pure ⟨hvalid, by simp [resolutionIn, hexact, htable']⟩
  | some arrow_column =>
    have htable' : schema.any (·.name == Nested.extractTableName name) = true := by
      rw [← lookupColumn_isSome htable.names, hlookup]; rfl
    have hne : Nested.extractTableName name ≠ name := fun h => by
      rw [h, hname] at hlookup; cases hlookup
    have hroute : resolutionIn true schema name = .nested ↔
        hasPath (fieldShape (fieldByName schema (Nested.extractTableName name)))
          (nestedPath name) := by
      simp [resolutionIn, hexact, htable']
    have hfound : ∀ group : ColumnWithTypeAndName, group.name = Nested.extractTableName name →
        group.type.shape = fieldShape (fieldByName schema (Nested.extractTableName name)) →
        ((extractColumn [group] name).isSome ↔ resolutionIn true schema name = .nested) :=
      fun _ hgroup hshape => by
        rw [extractColumn_group_isSome hgroup (hgroup ▸ hne), hshape, hroute]
    dsimp only
    split
    · rename_i group hcached
      obtain ⟨hgroup, hshape⟩ := hvalid _ _ hcached
      exact (Keeps.pure (P := fun r => r = (nested_tables, group)) rfl).bind fun _ hr => by
        subst hr
        exact Keeps.pure ⟨hvalid, hfound _ hgroup hshape⟩
    · refine (htable.shape bounds (mem_of_lookupColumn hlookup) _).bind fun group ⟨hgroup, hshape⟩ =>
        (Keeps.pure (P := fun r => r = ((Nested.extractTableName name, group) :: nested_tables, group))
          rfl).bind fun _ hr => ?_
      subst hr
      exact Keeps.pure ⟨hvalid.cons hgroup hshape, hfound _ hgroup hshape⟩

/-- One iteration of the live loop whose conversion and cast succeed: it fails exactly where
the schema's resolution fails the strict policy, and otherwise returns a column with the
schema's route. -/
theorem resolveColumn_spec (htable : TableConforms schema name_to_column_ptr)
    {nested_tables : List (String × ColumnWithTypeAndName)}
    (hvalid : NestedTablesValid schema nested_tables) (num_rows : Nat)
    (header_column : ColumnWithTypeAndName) (dictionary_values : DictionaryValues)
    (hstep : session.stepSucceeds bounds fns name_to_column_ptr schema header_column nested_tables
      dictionary_values) :
    if resolutionIn session.import_nested schema header_column.name = .missing ∧
        session.allow_missing_columns = false then
      ∃ dictionary_values', (session.resolveColumn bounds fns name_to_column_ptr schema num_rows
        header_column nested_tables).run.run dictionary_values =
        (.error (noColumnError header_column.name), dictionary_values')
    else
      ∃ column nested_tables' dictionary_values', (session.resolveColumn bounds fns
          name_to_column_ptr schema num_rows header_column nested_tables).run.run
          dictionary_values = (.ok ((resolutionIn session.import_nested schema header_column.name,
          column), nested_tables'), dictionary_values') ∧
        NestedTablesValid schema nested_tables' := by
  rw [Session.stepSucceeds] at hstep
  rw [Session.resolveColumn]
  cases hlookup : lookupColumn name_to_column_ptr header_column.name with
  | some arrow_column =>
    have hexact : resolutionIn session.import_nested schema header_column.name = .exact := by
      rw [resolutionIn, ← lookupColumn_isSome htable.names, hlookup]; rfl
    rw [hexact, if_neg (by simp)]
    dsimp only
    rw [ConvM.run_bind]
    rcases hrun : (readColumnFromArrowColumn bounds (fieldByName schema header_column.name)
      arrow_column session.format_name true).run.run dictionary_values with
      ⟨_ | column, dictionary_values'⟩ <;> simp only [hlookup, hrun, Bool.false_eq_true] at hstep
    obtain ⟨cast, hcast⟩ := castToHeader_ok fns hstep
    dsimp only
    rw [ConvM.run_bind, ConvM.ofExcept_run, hcast]
    exact ⟨cast, nested_tables, dictionary_values', rfl, hvalid⟩
  | none =>
    dsimp only
    rw [ConvM.run_bind]
    rcases hrun : (session.readFromNested bounds name_to_column_ptr schema header_column.name
      nested_tables).run.run dictionary_values with
      ⟨_ | ⟨nested_tables', found⟩, dictionary_values'⟩ <;>
      simp only [hlookup, hrun, Bool.false_eq_true] at hstep
    obtain ⟨hvalid', hfound⟩ :=
      (readFromNested_spec bounds session htable hvalid hlookup dictionary_values trivial).2 _
        (congrArg Prod.fst hrun)
    dsimp only
    cases found with
    | some column =>
      obtain ⟨cast, hcast⟩ := castToHeader_ok fns hstep
      rw [hfound.1 rfl, if_neg (by simp)]
      dsimp only
      rw [ConvM.run_bind, ConvM.ofExcept_run, hcast]
      exact ⟨cast, nested_tables', dictionary_values', rfl, hvalid'⟩
    | none =>
      have hmissing : resolutionIn session.import_nested schema header_column.name = .missing := by
        have hexact := resolutionIn_ne_exact session htable hlookup
        have hnested := mt hfound.2 (by simp)
        revert hexact hnested
        cases resolutionIn session.import_nested schema header_column.name <;> simp
      rw [hmissing]
      cases session.allow_missing_columns
      · exact ⟨dictionary_values', rfl⟩
      · exact ⟨_, nested_tables', dictionary_values', rfl, hvalid'⟩

/-- The live loop over the header computes the schema's resolution, from any cache of
nested tables the loop keeps valid, when the conversions and casts it performs succeed. -/
theorem resolveColumns_spec (htable : TableConforms schema name_to_column_ptr) (num_rows : Nat) :
    ∀ (header : List ColumnWithTypeAndName)
      (nested_tables : List (String × ColumnWithTypeAndName))
      (dictionary_values : DictionaryValues), NestedTablesValid schema nested_tables →
      session.loopSucceeds bounds fns name_to_column_ptr schema num_rows header nested_tables
        dictionary_values →
      List.map Prod.fst <$> ((session.resolveColumns bounds fns name_to_column_ptr schema
        num_rows header nested_tables).run.run dictionary_values).1 =
      resolveAll session.allow_missing_columns (resolutionIn session.import_nested schema) header
  | [], _, _, _, _ => rfl
  | header_column :: header, nested_tables, dictionary_values, hvalid, hsucceeds => by
    rw [Session.loopSucceeds, Bool.and_eq_true] at hsucceeds
    have hstep := resolveColumn_spec bounds session fns htable hvalid num_rows header_column
      dictionary_values hsucceeds.1
    rw [Session.resolveColumns, ConvM.run_bind, resolveAll]
    split_ifs at hstep ⊢
    · obtain ⟨dictionary_values', hrun⟩ := hstep
      rw [hrun]
      rfl
    · obtain ⟨column, nested_tables', dictionary_values', hrun, hvalid'⟩ := hstep
      have hrest := hsucceeds.2
      rw [hrun] at hrest ⊢
      dsimp only
      rw [ConvM.run_bind, ← resolveColumns_spec htable num_rows header nested_tables'
        dictionary_values' hvalid' hrest]
      rcases (session.resolveColumns bounds fns name_to_column_ptr schema num_rows header
        nested_tables').run.run dictionary_values' with ⟨_ | _, _⟩ <;> rfl

end Table

/-! ## Agreement -/

/-- For a non-empty table that has the schema's columns and whose `CHStringArray`s stand
for strings, a schema whose header derives without error, and a cache from which the
conversions and casts the live conversion performs succeed, the dry run throws
`THERE_IS_NO_COLUMN` exactly when the live conversion does, and otherwise returns the
positions the live conversion fills with `cloneResized`. -/
theorem getMissingColumns_agrees_with_conversion (session : Session) (fns : ClickHouseFunctions)
    (schema : List Field) (name_to_column_ptr : List (String × ChunkedArray))
    (htable : TableConforms schema name_to_column_ptr) (hne : name_to_column_ptr ≠ [])
    (hheader : ∃ block, arrowSchemaToCHHeader bounds schema session.format_name = .ok block)
    (dictionary_values : DictionaryValues)
    (hsucceeds : session.conversionsSucceed bounds fns name_to_column_ptr schema dictionary_values) :
    ((∃ e, session.getMissingColumns bounds schema = .error e ∧ e.code = .THERE_IS_NO_COLUMN) ↔
      (∃ e, ((session.arrowColumnsToCHChunk bounds fns name_to_column_ptr schema).run.run
        dictionary_values).1 = .error e ∧ e.code = .THERE_IS_NO_COLUMN)) ∧
    ∀ positions chunk, session.getMissingColumns bounds schema = .ok positions →
      ((session.arrowColumnsToCHChunk bounds fns name_to_column_ptr schema).run.run
        dictionary_values).1 = .ok chunk →
      positions = missingPositions 0 (chunk.columns.map Prod.fst) := by
  obtain ⟨block, hblock⟩ := hheader
  obtain ⟨⟨_, first⟩, rest, rfl⟩ := List.exists_cons_of_ne_nil hne
  have hloop := resolveColumns_spec bounds session fns htable first.length session.header []
    dictionary_values (fun _ _ h => nomatch h) hsucceeds
  rw [getMissingColumns_eq bounds session schema hblock, ← hloop, Session.arrowColumnsToCHChunk,
    ConvM.run_bind]
  rcases (session.resolveColumns bounds fns _ schema first.length session.header []).run.run
    dictionary_values with ⟨e | columns, _⟩
  · simp
  · dsimp only
    rw [ConvM.ofExcept_run]
    cases hset : Chunk.setColumns fns.columnName columns first.length with
    | error e =>
      obtain ⟨_, _, _, rfl⟩ := Chunk.setColumns_eq_error hset
      simp
    | ok chunk =>
      cases Chunk.setColumns_eq_ok hset
      simp
/-- A session importing nested columns and allowing missing ones, whose header asks for
a column, a member of a struct, and a column the table lacks. -/
def sampleSession : Session :=
  ⟨[⟨.vector 4 [], .int32, "a"⟩, ⟨.string [] [], .string, "s.x"⟩, ⟨.vector 4 [], .int32, "b"⟩],
    "Parquet", true, true⟩

/-- An `Int32` column and a struct with one string member. -/
def sampleSchema : List Field :=
  [.mk "a" .int32 false, .mk "s" (.struct [.mk "x" .string false]) false]

/-- A one-row table of `sampleSchema`. -/
def sampleTable : List (String × ChunkedArray) :=
  [("a", [.primitive 1 0 none [7, 0, 0, 0]]),
    ("s", [.struct 1 0 none [.binary 1 0 none [0, 1] [97]]])]

/-- ClickHouse functions whose cast keeps the column, and whose `cloneResized` pads or
cuts a fixed-width column with zeros. -/
def keepingFunctions : ClickHouseFunctions where
  castColumn column _ := .ok column.column
  cloneResized column num_rows :=
    match column with
    | .vector width data => .vector width ((data ++ List.replicate num_rows 0).take num_rows)
    | column => column
  typeName _ := ""
  backQuote := id
  columnName _ := ""

theorem sampleTable_conforms : TableConforms sampleSchema sampleTable where
  names := rfl
  chStringsTyped := by decide

theorem getMissingColumns_agrees_with_conversion_sample :
    sampleSession.getMissingColumns sampleDateBounds sampleSchema = .ok [2] ∧
      ((sampleSession.arrowColumnsToCHChunk sampleDateBounds keepingFunctions sampleTable
        sampleSchema).run.run fun _ => none).1.map (·.columns.map Prod.fst) =
        .ok [.exact, .nested, .missing] ∧
      ∀ positions chunk, sampleSession.getMissingColumns sampleDateBounds sampleSchema =
          .ok positions →
        ((sampleSession.arrowColumnsToCHChunk sampleDateBounds keepingFunctions sampleTable
          sampleSchema).run.run fun _ => none).1 = .ok chunk →
        positions = missingPositions 0 (chunk.columns.map Prod.fst) :=
  ⟨rfl, rfl, (getMissingColumns_agrees_with_conversion sampleDateBounds sampleSession
    keepingFunctions sampleSchema sampleTable sampleTable_conforms (List.cons_ne_nil _ _)
    ⟨_, rfl⟩ _ rfl).2⟩

/-- A strict session whose header has one column. -/
def strictSession : Session := ⟨[⟨.vector 4 [], .int32, "a"⟩], "Parquet", false, false⟩

/-- On the empty table, of the empty schema, the dry run reports the header's column as
missing while the live conversion refuses the table as empty. -/
theorem getMissingColumns_empty_table_disagrees :
    strictSession.getMissingColumns sampleDateBounds [] = .error (noColumnError "a") ∧
      ((strictSession.arrowColumnsToCHChunk sampleDateBounds keepingFunctions [] []).run.run
        fun _ => none).1 = .error ⟨.INCORRECT_NUMBER_OF_COLUMNS, "Columns is empty"⟩ :=
  ⟨rfl, rfl⟩

end GlutenBridge
