import Mathlib.Data.List.Basic
import Mathlib.Data.List.Sort
import Mathlib.Data.List.GetD
import Mathlib.Algebra.Order.BigOperators.Group.List
import Mathlib.Algebra.Order.Ring.Nat

/-!
# ClickHouse columns

The internal side of the converter: the data types it produces (`IDataType`), the
columns (`IColumn`) and `ColumnWithTypeAndName`, and the exception it throws.

A column is a tagged tree, one constructor per column class the converter builds.
Fixed-width columns (`ColumnVector<T>`, `ColumnDecimal<T>`) keep the raw bit
pattern of every element together with the element width in bytes; the type says
how the bits are read. `ColumnUnique`, the dictionary of a `LowCardinality` column,
is kept as the list of its rows. `Column.get` reads one row as a `Value`, which is
what "the value of a row" means in the properties.

## Main definitions

* `DB.DataType`, `DB.Column`, `DB.ColumnWithTypeAndName`.
* `Column.size`, `Column.get` — the row count and the value of a row.
* `ColumnUnique.create`, `ColumnUnique.uniqueInsertRangeFrom` — the dictionary of a
  `LowCardinality` column.
* `Column.WellFormed` — the invariant a converted column keeps.
* `DataTypeNullable.create`, `DataTypeLowCardinality.create`, `DataTypeMap.create`,
  `DataTypeTuple.create`, `ColumnArray.create`, `ColumnMap.create` — ClickHouse's
  constructors the converter calls, with the checks by which they throw.
-/

set_option autoImplicit false

namespace GlutenBridge.DB

/-- The ClickHouse data types the converter produces. `decimal` is `DataTypeDecimal`
with the backing width `createDecimal` picks from the precision. -/
inductive DataType where
  | uint8 | uint16 | uint32 | uint64 | int8 | int16 | int32 | int64 | float32 | float64
  | date | date32 | dateTime
  | dateTime64 (scale : Nat) (timezone : String)
  | decimal (precision scale : Nat)
  | string
  | nullable (nested : DataType)
  | array (nested : DataType)
  | map (key value : DataType)
  | tuple (elems : List DataType) (names : List String)
  | lowCardinality (dictionary : DataType)

/-- The value of one row (`DB::Field`): fixed-width values are their bit pattern. -/
inductive Value where
  | null
  | number (bits : Nat)
  | string (bytes : List UInt8)
  | array (items : List Value)
  | tuple (items : List Value)

mutual
/-- Equality of row values, as `IColumn::compareAt` tests it: bit patterns and bytes
compared exactly. -/
def Value.beq : Value → Value → Bool
  | .null, .null => true
  | .number a, .number b => a == b
  | .string a, .string b => a == b
  | .array a, .array b => Value.beqList a b
  | .tuple a, .tuple b => Value.beqList a b
  | _, _ => false

def Value.beqList : List Value → List Value → Bool
  | [], [] => true
  | a :: as, b :: bs => Value.beq a b && Value.beqList as bs
  | _, _ => false
end

instance : BEq Value := ⟨Value.beq⟩

mutual
/-- `IDataType::getDefault()`, the value `ColumnUnique` reserves a row for. -/
def DataType.defaultValue : DataType → Value
  | .string => .string []
  | .nullable _ => .null
  | .array _ => .array []
  | .map _ _ => .array []
  | .tuple elems _ => .tuple (DataType.defaultValues elems)
  | .lowCardinality t => t.defaultValue
  | _ => .number 0

def DataType.defaultValues : List DataType → List Value
  | [] => []
  | t :: ts => t.defaultValue :: DataType.defaultValues ts
end

/-- The columns the converter builds. -/
inductive Column where
  /-- `ColumnVector<T>` or `ColumnDecimal<T>`: elements of `width` bytes. -/
  | vector (width : Nat) (data : List Nat)
  /-- `ColumnString`: every row's bytes followed by a zero byte; `offsets[r]` is the
  end of row `r`. -/
  | string (chars : List UInt8) (offsets : List Nat)
  | nullable (nested : Column) (nullMap : List Bool)
  /-- `ColumnArray`: `offsets[r]` is the end of row `r` in `data`. -/
  | array (data : Column) (offsets : List Nat)
  /-- `ColumnMap`: an array of key/value pairs. -/
  | map (keys values : Column) (offsets : List Nat)
  | tuple (elements : List Column)
  | lowCardinality (dictionary : Column) (indexes : List Nat)
  /-- `ColumnUnique`: its rows; the first one or two are reserved. -/
  | unique (isNullable : Bool) (values : List Value)

/-- `ColumnWithTypeAndName`. -/
structure ColumnWithTypeAndName where
  column : Column
  type : DataType
  name : String

/-- The error codes of `ErrorCodes` the converter throws; `other` stands for a code
raised by a ClickHouse function it calls (a failed cast, say). -/
inductive ErrorCode where
  | UNKNOWN_TYPE | VALUE_IS_OUT_OF_RANGE_OF_DATA_TYPE | BAD_ARGUMENTS | DUPLICATE_COLUMN
  | THERE_IS_NO_COLUMN | UNKNOWN_EXCEPTION | INCORRECT_NUMBER_OF_COLUMNS
  | ARGUMENT_OUT_OF_BOUND | ILLEGAL_TYPE_OF_ARGUMENT | LOGICAL_ERROR
  | other (name : String)
deriving DecidableEq, Repr

/-- `DB::Exception`: a code and its message. -/
structure Exception where
  code : ErrorCode
  message : String
deriving DecidableEq, Repr

namespace Column

/-- The start of row `r` in a column of `offsets` (`offsets[-1]` is zero). -/
def rowStart (offsets : List Nat) (r : Nat) : Nat :=
  if r = 0 then 0 else offsets.getD (r - 1) 0

mutual
/-- `IColumn::size()`. -/
def size : Column → Nat
  | .vector _ data => data.length
  | .string _ offsets => offsets.length
  | .nullable _ nullMap => nullMap.length
  | .array _ offsets => offsets.length
  | .map _ _ offsets => offsets.length
  | .tuple elements => sizeOfFirst elements
  | .lowCardinality _ indexes => indexes.length
  | .unique _ values => values.length

/-- The size of a tuple: that of its first element, zero for an empty tuple. -/
def sizeOfFirst : List Column → Nat
  | [] => 0
  | c :: _ => c.size
end

mutual
/-- The value of row `r`. -/
def get : Column → Nat → Value
  | .vector _ data, r => .number (data.getD r 0)
  | .string chars offsets, r =>
    .string ((chars.take (offsets.getD r 0 - 1)).drop (rowStart offsets r))
  | .nullable nested nullMap, r => if nullMap.getD r false then .null else nested.get r
  | .array data offsets, r =>
    .array ((List.range (offsets.getD r 0 - rowStart offsets r)).map fun k =>
      data.get (rowStart offsets r + k))
  | .map keys values offsets, r =>
    .array ((List.range (offsets.getD r 0 - rowStart offsets r)).map fun k =>
      .tuple [keys.get (rowStart offsets r + k), values.get (rowStart offsets r + k)])
  | .tuple elements, r => .tuple (getAll elements r)
  | .lowCardinality dictionary indexes, r => dictionary.get (indexes.getD r 0)
  | .unique isNullable values, r =>
    if isNullable && r == 0 then .null else values.getD r .null

/-- Row `r` of every element of a tuple. -/
def getAll : List Column → Nat → List Value
  | [], _ => []
  | c :: cs, r => c.get r :: getAll cs r
end

/-- The values of all rows. -/
def rows (c : Column) : List Value := (List.range c.size).map c.get

@[simp] theorem length_rows (c : Column) : c.rows.length = c.size := by
  simp [rows]

theorem getD_rows {c : Column} {r : Nat} (h : r < c.size) : c.rows.getD r .null = c.get r := by
  simp [rows, h]

theorem getAll_eq_map (elements : List Column) (r : Nat) :
    getAll elements r = elements.map (·.get r) := by
  induction elements with
  | nil => rfl
  | cons c cs ih => rw [getAll, ih, List.map_cons]

@[simp] theorem rows_vector (width : Nat) (data : List Nat) :
    (Column.vector width data).rows = data.map .number := by
  refine List.ext_getElem (by simp [size]) fun r h _ => ?_
  simp only [length_rows, size] at h
  simp [rows, get, List.getElem?_eq_getElem h]

/-- A `Nullable` column reads `NULL` where its null map is set and its nested row
elsewhere. -/
theorem rows_nullable {nested : Column} {nullMap : List Bool} (h : nested.size = nullMap.length) :
    (Column.nullable nested nullMap).rows =
      List.zipWith (fun isNull v => if isNull then .null else v) nullMap nested.rows := by
  refine List.ext_getElem (by simp [size, h]) fun r hr _ => ?_
  simp only [length_rows, size] at hr
  simp [rows, get, getD_rows (h ▸ hr : r < nested.size), hr]

/-- The values at positions `s` to `e` of a list of row values. -/
def sliceValues (values : List Value) (s e : Nat) : List Value :=
  (List.range (e - s)).map fun k => values.getD (s + k) .null

/-- An `Array` column whose offsets stay within its elements reads each row as the
slice of its element rows between the row's start and end. -/
theorem rows_array {data : Column} {offsets : List Nat} (h : ∀ x ∈ offsets, x ≤ data.size) :
    (Column.array data offsets).rows = (List.range offsets.length).map fun r =>
      .array (sliceValues data.rows (rowStart offsets r) (offsets.getD r 0)) := by
  refine List.map_congr_left fun r hr => ?_
  have hr' := List.mem_range.1 hr
  have hend : offsets.getD r 0 ≤ data.size := by
    rw [List.getD_eq_getElem?_getD, List.getElem?_eq_getElem hr']
    exact h _ (List.getElem_mem hr')
  simp only [get, sliceValues, Value.array.injEq]
  exact List.map_congr_left fun k hk => (getD_rows (by have := List.mem_range.1 hk; omega)).symm

/-- A `Map` column reads as the `Array` of its key and value tuples. -/
theorem rows_map (keys values : Column) (offsets : List Nat) :
    (Column.map keys values offsets).rows = (Column.array (.tuple [keys, values]) offsets).rows :=
  rfl

/-- A `Tuple` column whose elements have `n` rows reads row `r` as the tuple of its
elements' rows `r`. -/
theorem rows_tuple {elements : List Column} {n : Nat} (hne : elements ≠ [])
    (h : ∀ e ∈ elements, e.size = n) :
    (Column.tuple elements).rows = (List.range n).map fun r =>
      .tuple (elements.map fun e => e.rows.getD r .null) := by
  obtain ⟨e, es, rfl⟩ := List.exists_cons_of_ne_nil hne
  have hsize : (Column.tuple (e :: es)).size = n := h e (List.mem_cons_self _ _)
  rw [rows, hsize]
  refine List.map_congr_left fun r hr => ?_
  rw [get, getAll_eq_map]
  exact congrArg Value.tuple (List.map_congr_left fun c hc =>
    (getD_rows ((h c hc).symm ▸ List.mem_range.1 hr)).symm)

/-- The elements of a `ColumnVector`, as `ColumnLowCardinality` takes its indexes. -/
def vectorData : Column → List Nat
  | .vector _ data => data
  | _ => []

/-! ## Well-formed columns -/

mutual
/-- The invariants ClickHouse keeps of a composite column: a `Nullable` column has a
null flag per nested row; an `Array` or `Map` column has one offset per row, the
offsets non-decreasing and, when there is a row, the last one the size of its elements
(the keys and the values of a map having one size); the elements of a `Tuple` have the
tuple's size. An array without rows may keep elements: `ColumnArray::create` checks the
last offset only when there is one. -/
def WellFormed : Column → Prop
  | .vector _ _ | .string _ _ | .unique _ _ => True
  | .nullable nested nullMap => nested.size = nullMap.length ∧ nested.WellFormed
  | .array data offsets =>
    offsets.Sorted (· ≤ ·) ∧ (offsets = [] ∨ offsets.getLastD 0 = data.size) ∧ data.WellFormed
  | .map keys values offsets =>
    offsets.Sorted (· ≤ ·) ∧ (offsets = [] ∨ offsets.getLastD 0 = keys.size) ∧
      values.size = keys.size ∧ keys.WellFormed ∧ values.WellFormed
  | .tuple elements => ElementsWellFormed (sizeOfFirst elements) elements
  | .lowCardinality dictionary _ => dictionary.WellFormed

/-- Every element of a tuple has `n` rows and is well-formed. -/
def ElementsWellFormed (n : Nat) : List Column → Prop
  | [] => True
  | c :: cs => c.size = n ∧ c.WellFormed ∧ ElementsWellFormed n cs
end

theorem elementsWellFormed_iff (n : Nat) (cs : List Column) :
    ElementsWellFormed n cs ↔ ∀ c ∈ cs, c.size = n ∧ c.WellFormed := by
  induction cs with
  | nil => simp [ElementsWellFormed]
  | cons c cs ih => simp [ElementsWellFormed, ih, and_assoc]

/-- Element `i` of a tuple column (`ColumnTuple::getColumnPtr(i)`). -/
def tupleElement (c : Column) (i : Nat) : Column :=
  match c with
  | .tuple elements => elements.getD i (.tuple [])
  | _ => .tuple []

end Column

/-- Element `i` of a tuple type (`DataTypeTuple::getElements()[i]`). -/
def DataType.tupleElement (t : DataType) (i : Nat) : DataType :=
  match t with
  | .tuple elems _ => elems.getD i (.tuple [] [])
  | _ => .tuple [] []

/-! ## The dictionary of a `LowCardinality` column -/

namespace ColumnUnique

/-- `ColumnUnique::create(type)`: `NULL` and the default for a nullable type, the
default alone otherwise. -/
def create : DataType → Column
  | .nullable t => .unique true [t.defaultValue, t.defaultValue]
  | t => .unique false [t.defaultValue]

/-- The number of reserved rows. -/
def numSpecialValues (isNullable : Bool) : Nat := if isNullable then 2 else 1

/-- The reserved row of the default value. -/
def getNestedTypeDefaultValueIndex (isNullable : Bool) : Nat := if isNullable then 1 else 0

/-- Insert one value: `NULL` and the default go to their reserved rows, a value
already present to its row, any other value is appended. Returns the new rows and
the position of the value. -/
def uniqueInsert (isNullable : Bool) (values : List Value) (v : Value) : List Value × Nat :=
  if isNullable && v == .null then (values, 0)
  else if values.getD (getNestedTypeDefaultValueIndex isNullable) .null == v then
    (values, getNestedTypeDefaultValueIndex isNullable)
  else match ((values.drop (numSpecialValues isNullable)).findIdx? (· == v)) with
    | some i => (values, numSpecialValues isNullable + i)
    | none => (values ++ [v], values.length)

/-- Insert a list of values, collecting their positions. -/
def uniqueInsertAll (isNullable : Bool) : List Value → List Value → List Value × List Nat
  | values, [] => (values, [])
  | values, v :: vs =>
    let (values', i) := uniqueInsert isNullable values v
    let (values'', is) := uniqueInsertAll isNullable values' vs
    (values'', i :: is)

/-- `IColumnUnique::uniqueInsertRangeFrom(src, 0, src.size())`: the dictionary with
every row of `src` inserted, and the position of each row. -/
def uniqueInsertRangeFrom (dict src : Column) : Column × List Nat :=
  match dict with
  | .unique isNullable values =>
    let (values', positions) :=
      uniqueInsertAll isNullable values src.rows
    (.unique isNullable values', positions)
  | other => (other, [])

end ColumnUnique


/-! ## ClickHouse's checked constructors

The converter builds its types and columns with ClickHouse's constructors, and several of
them check their arguments and throw: `DataTypeNullable` refuses a type that cannot be
inside `Nullable` (an array, a map, a tuple, a `LowCardinality` or a `Nullable` type),
`DataTypeLowCardinality` a dictionary type other than a number, a string or a date,
`DataTypeMap` a key type neither represented by an integer nor a string, `DataTypeTuple` an
empty or a repeated element name, and `ColumnArray::create` (also under `ColumnMap`) a last
offset other than the size of the elements, unless the offsets or the elements are empty.
The messages name types with `IDataType::getName`.
-/

/-- `isWordCharASCII(c)`. -/
def isWordCharASCII (c : Char) : Bool := c.isAlphanum || c == '_'

/-- `isValidIdentifier(s)`: a letter or `_`, then letters, digits and `_`, and not `NULL`
in any case. -/
def isValidIdentifier (s : String) : Bool :=
  match s.toList with
  | [] => false
  | c :: cs => (c.isAlpha || c == '_') && cs.all isWordCharASCII &&
      s.toList.map Char.toLower != "null".toList

/-- The characters of a quoted string, the quote and the backslash escaped with a
backslash. -/
def escapeQuoted (quote : Char) (s : String) : String :=
  String.mk (s.toList.flatMap fun c => if c == quote || c == '\\' then ['\\', c] else [c])

/-- `backQuoteIfNeed(s)`: an identifier as it is, any other name between backquotes. -/
def backQuoteIfNeed (s : String) : String :=
  if isValidIdentifier s then s else "\x60" ++ escapeQuoted '\x60' s ++ "\x60"

/-- `quoteString(s)`: between single quotes. -/
def quoteString (s : String) : String := "\x27" ++ escapeQuoted '\x27' s ++ "\x27"

mutual
/-- `IDataType::getName()`. -/
def DataType.getName : DataType → String
  | .uint8 => "UInt8"
  | .uint16 => "UInt16"
  | .uint32 => "UInt32"
  | .uint64 => "UInt64"
  | .int8 => "Int8"
  | .int16 => "Int16"
  | .int32 => "Int32"
  | .int64 => "Int64"
  | .float32 => "Float32"
  | .float64 => "Float64"
  | .date => "Date"
  | .date32 => "Date32"
  | .dateTime => "DateTime"
  | .dateTime64 scale timezone =>
    if timezone.isEmpty then "DateTime64(" ++ toString scale ++ ")"
    else "DateTime64(" ++ toString scale ++ ", " ++ quoteString timezone ++ ")"
  | .decimal precision scale => "Decimal(" ++ toString precision ++ ", " ++ toString scale ++ ")"
  | .string => "String"
  | .nullable nested => "Nullable(" ++ nested.getName ++ ")"
  | .array nested => "Array(" ++ nested.getName ++ ")"
  | .map key value => "Map(" ++ key.getName ++ ", " ++ value.getName ++ ")"
  | .tuple elems names => "Tuple(" ++ ", ".intercalate (DataType.getElementNames elems names) ++ ")"
  | .lowCardinality dictionary => "LowCardinality(" ++ dictionary.getName ++ ")"

/-- The elements of a tuple type's name: each element's name, back-quoted if needed, and
its type. -/
def DataType.getElementNames : List DataType → List String → List String
  | [], _ => []
  | elem :: elems, names =>
    (backQuoteIfNeed (names.headD "") ++ " " ++ elem.getName) ::
      DataType.getElementNames elems names.tail
end

/-- `IDataType::canBeInsideNullable()`. -/
def DataType.canBeInsideNullable : DataType → Bool
  | .nullable _ | .array _ | .map _ _ | .tuple _ _ | .lowCardinality _ => false
  | _ => true

/-- `IDataType::canBeInsideLowCardinality()`: numbers, strings and dates. -/
def DataType.canBeInsideLowCardinality : DataType → Bool
  | .uint8 | .uint16 | .uint32 | .uint64 | .int8 | .int16 | .int32 | .int64
  | .float32 | .float64 | .date | .date32 | .dateTime | .string => true
  | _ => false

/-- `IDataType::isValueRepresentedByInteger()`: integers, dates and decimals. -/
def DataType.isValueRepresentedByInteger : DataType → Bool
  | .uint8 | .uint16 | .uint32 | .uint64 | .int8 | .int16 | .int32 | .int64
  | .date | .date32 | .dateTime | .dateTime64 _ _ | .decimal _ _ => true
  | _ => false

/-- `std::make_shared<DataTypeNullable>(nested)`. -/
def DataTypeNullable.create (nested : DataType) : Except Exception DataType :=
  if nested.canBeInsideNullable then .ok (.nullable nested)
  else .error ⟨.ILLEGAL_TYPE_OF_ARGUMENT,
    "Nested type " ++ nested.getName ++ " cannot be inside Nullable type"⟩

/-- `removeNullable(type)`. -/
def DataType.removeNullable : DataType → DataType
  | .nullable nested => nested
  | type => type

/-- `DataTypeLowCardinality(dictionary_type)`: the dictionary type, without its
`Nullable`, must be able to be inside `LowCardinality`. -/
def DataTypeLowCardinality.create (dictionary_type : DataType) : Except Exception DataType :=
  if dictionary_type.removeNullable.canBeInsideLowCardinality then .ok (.lowCardinality dictionary_type)
  else .error ⟨.ILLEGAL_TYPE_OF_ARGUMENT, "DataTypeLowCardinality is supported only for " ++
    "numbers, strings, Date or DateTime, but got " ++ dictionary_type.getName⟩

/-- `DataTypeMap::checkKeyType(key_type)`: a type represented by an integer, `String`, or
`LowCardinality(String)`. -/
def DataTypeMap.checkKeyType : DataType → Bool
  | .lowCardinality .string | .string => true
  | .lowCardinality _ => false
  | key_type => key_type.isValueRepresentedByInteger

/-- `std::make_shared<DataTypeMap>(key_type, value_type)`. -/
def DataTypeMap.create (key_type value_type : DataType) : Except Exception DataType :=
  if DataTypeMap.checkKeyType key_type then .ok (.map key_type value_type)
  else .error ⟨.BAD_ARGUMENTS, "Type of Map key must be a type, that can be represented by " ++
    "integer or String or FixedString (possibly LowCardinality) or UUID or IPv6, but " ++
    key_type.getName ++ " given"⟩

/-- `checkTupleNames(names)`, after the names `seen`: the exception for the first name
that is empty or repeats an earlier one. -/
def checkTupleNames (seen : List String) : List String → Option Exception
  | [] => none
  | name :: names =>
    if name.isEmpty then some ⟨.BAD_ARGUMENTS, "Names of tuple elements cannot be empty"⟩
    else if name ∈ seen then some ⟨.DUPLICATE_COLUMN, "Names of tuple elements must be unique"⟩
    else checkTupleNames (name :: seen) names

/-- `std::make_shared<DataTypeTuple>(elems, names)`. -/
def DataTypeTuple.create (elems : List DataType) (names : List String) :
    Except Exception DataType :=
  match checkTupleNames [] names with
  | some e => .error e
  | none => .ok (.tuple elems names)

/-- `ColumnArray::create(data, offsets)`: the last offset must be the size of the
elements, unless the offsets or the elements are empty. -/
def ColumnArray.create (data : Column) (offsets : List Nat) : Except Exception Column :=
  if offsets ≠ [] ∧ data.size ≠ 0 ∧ data.size ≠ offsets.getLastD 0 then
    .error ⟨.LOGICAL_ERROR, "offsets_column has data inconsistent with nested_column. " ++
      "Data size: " ++ toString data.size ++ ", last offset: " ++ toString (offsets.getLastD 0)⟩
  else .ok (.array data offsets)

/-- `ColumnMap::create(keys, values, offsets)`: the array of the tuples of keys and values,
with the array's check. -/
def ColumnMap.create (keys values : Column) (offsets : List Nat) : Except Exception Column :=
  match ColumnArray.create (.tuple [keys, values]) offsets with
  | .ok _ => .ok (.map keys values offsets)
  | .error e => .error e

theorem DataTypeNullable.create_eq_ok {nested type : DataType}
    (h : DataTypeNullable.create nested = .ok type) : type = .nullable nested := by
  unfold DataTypeNullable.create at h
  split at h <;> cases h
  rfl

theorem DataTypeLowCardinality.create_eq_ok {dictionary_type type : DataType}
    (h : DataTypeLowCardinality.create dictionary_type = .ok type) :
    type = .lowCardinality dictionary_type := by
  unfold DataTypeLowCardinality.create at h
  split at h <;> cases h
  rfl

theorem DataTypeMap.create_eq_ok {key_type value_type type : DataType}
    (h : DataTypeMap.create key_type value_type = .ok type) : type = .map key_type value_type := by
  unfold DataTypeMap.create at h
  split at h <;> cases h
  rfl

theorem DataTypeTuple.create_eq_ok {elems : List DataType} {names : List String}
    {type : DataType} (h : DataTypeTuple.create elems names = .ok type) :
    type = .tuple elems names := by
  unfold DataTypeTuple.create at h
  split at h <;> cases h
  rfl

/-- An array ClickHouse accepts: its offsets are empty, or its elements are, or the last
offset is the size of the elements. -/
theorem ColumnArray.create_eq_ok {data column : Column} {offsets : List Nat}
    (h : ColumnArray.create data offsets = .ok column) :
    column = .array data offsets ∧
      (offsets = [] ∨ data.size = 0 ∨ data.size = offsets.getLastD 0) := by
  unfold ColumnArray.create at h
  split at h
  · cases h
  · cases h
    refine ⟨rfl, ?_⟩
    rename_i hcheck
    by_cases h₁ : offsets = []
    · exact .inl h₁
    · by_cases h₂ : data.size = 0
      · exact .inr (.inl h₂)
      · exact .inr (.inr (Decidable.of_not_not fun h₃ => hcheck ⟨h₁, h₂, h₃⟩))

theorem ColumnMap.create_eq_ok {keys values column : Column} {offsets : List Nat}
    (h : ColumnMap.create keys values offsets = .ok column) :
    column = .map keys values offsets ∧
      (offsets = [] ∨ keys.size = 0 ∨ keys.size = offsets.getLastD 0) := by
  unfold ColumnMap.create at h
  split at h
  · rename_i harray
    cases h
    exact ⟨rfl, (ColumnArray.create_eq_ok harray).2⟩
  · cases h

end GlutenBridge.DB
