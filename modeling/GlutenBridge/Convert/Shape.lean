import GlutenBridge.Convert.Keeps

/-!
# The tuple structure of a converted column

A nested-column lookup follows the element names of tuples. In a converted column these
depend only on the field: a non-nullable struct becomes a tuple named by its members and
made of its converted members, and every other field becomes a column the lookup cannot
enter. `readColumnFromArrowColumn_shape` proves it of every conversion, from any cache
and with either date flag: when every `CHStringArray` of the chunks stands for a `STRING`
or `BINARY` array and holds a column whose type is not a tuple (`chStringsTyped`), the
column's type has the tuple structure `fieldShape` computes from the field alone, and the
column always carries the field's name.

Off the fast path, a list, a map, a struct or a dictionary converts to an array, a map, a
tuple or a `LowCardinality` column (`readNonNullable_refused`), none of which `Nullable`
accepts, so the nullable wrapper over such a column throws (`readNullable_refused`).
-/

set_option autoImplicit false

namespace GlutenBridge

open Arrow DB

/-! ## Tuple structures -/

mutual
/-- The tuple structure of a ClickHouse type: its tuples with their element names, every
other type reduced to `String`. -/
def DB.DataType.shape : DB.DataType → DB.DataType
  | .tuple elems names => .tuple (DB.DataType.shapes elems) names
  | _ => .string

def DB.DataType.shapes : List DB.DataType → List DB.DataType
  | [] => []
  | t :: ts => t.shape :: DB.DataType.shapes ts
end

theorem DB.DataType.shape_getD (elems : List DB.DataType) (i : Nat) :
    (elems.getD i (.tuple [] [])).shape = (DB.DataType.shapes elems).getD i (.tuple [] []) := by
  induction elems generalizing i with
  | nil => rfl
  | cons t ts ih =>
    cases i with
    | zero => rfl
    | succ i => exact ih i

mutual
/-- The tuple structure of the column the converter gives a non-nullable field of this
type. -/
def typeShape : Arrow.DataType → DB.DataType
  | .struct fields => .tuple (fieldsShape fields) (fields.map Field.name)
  | _ => .string

def fieldShape : Field → DB.DataType
  | .mk _ type is_nullable => if is_nullable then .string else typeShape type

def fieldsShape : List Field → List DB.DataType
  | [] => []
  | field :: fields => fieldShape field :: fieldsShape fields
end

/-! ## Chunks without a `CHStringArray` -/

mutual
/-- No `CHStringArray` anywhere in the array. -/
def Arrow.Array.noCHString : Arrow.Array → Bool
  | .chString .. => false
  | .list _ _ _ _ values => values.noCHString
  | .struct _ _ _ children => Arrow.Array.allNoCHString children
  | .dictEncoded indices dictionary => indices.noCHString && dictionary.noCHString
  | .primitive .. | .binary .. => true

def Arrow.Array.allNoCHString : List Arrow.Array → Bool
  | [] => true
  | a :: as => a.noCHString && Arrow.Array.allNoCHString as
end

theorem Arrow.Array.noCHString_Slice (off len : Nat) :
    ∀ a : Arrow.Array, (a.Slice off len).noCHString = a.noCHString
  | .primitive .. | .binary .. | .list .. | .struct .. | .chString .. => rfl
  | .dictEncoded indices dictionary => by
    simp only [Arrow.Array.Slice, Arrow.Array.noCHString, noCHString_Slice off len indices]

theorem Arrow.Array.noCHString_getD {children : List Arrow.Array}
    (h : Arrow.Array.allNoCHString children) (i : Nat) :
    (children.getD i (.primitive 0 0 none [])).noCHString := by
  induction children generalizing i with
  | nil => rfl
  | cons a as ih =>
    simp only [Arrow.Array.allNoCHString, Bool.and_eq_true] at h
    cases i
    · exact h.1
    · exact ih h.2 _

theorem Arrow.Array.noCHString_field {a : Arrow.Array} (h : a.noCHString) (i : Nat) :
    (a.field i).noCHString := by
  cases a with
  | struct l o v children =>
    rw [Arrow.Array.field, noCHString_Slice]
    exact noCHString_getD h i
  | _ => rfl

/-! ## Where a `CHStringArray` may stand -/

/-- A tuple type. -/
def DB.DataType.isTuple : DB.DataType → Bool
  | .tuple _ _ => true
  | _ => false

theorem DB.DataType.shape_of_not_isTuple {type : DB.DataType} (h : type.isTuple = false) :
    type.shape = .string := by
  cases type
  case tuple => cases h
  all_goals rfl

mutual
/-- Every `CHStringArray` of an array of type `type` stands for a `STRING` or `BINARY`
array, and holds a column whose type is not a tuple. -/
def chStringsTyped : Arrow.DataType → Arrow.Array → Bool
  | .string, .chString column _ _ _ | .binary, .chString column _ _ _ => !column.type.isTuple
  | _, .chString .. => false
  | .list value_field, a | .map value_field, a => fieldChStringsTyped value_field a.values
  | .struct fields, a => membersChStringsTyped fields 0 a
  | _, _ => true

def fieldChStringsTyped : Field → Arrow.Array → Bool
  | .mk _ type _, a => chStringsTyped type a

/-- The members `i`, `i + 1`, … of a struct array. -/
def membersChStringsTyped : List Field → Nat → Arrow.Array → Bool
  | [], _, _ => true
  | field :: fields, i, a =>
    fieldChStringsTyped field (a.field i) && membersChStringsTyped fields (i + 1) a
end

theorem Arrow.Array.noCHString_values {a : Arrow.Array} (h : a.noCHString) :
    a.values.noCHString := by
  cases a with
  | list _ _ _ _ child => exact h
  | _ => rfl

mutual
/-- An array without a `CHStringArray` has none out of place. -/
theorem chStringsTyped_of_noCHString : ∀ (type : Arrow.DataType) (a : Arrow.Array),
    a.noCHString → chStringsTyped type a
  | .list value_field, a, h | .map value_field, a, h => by
    cases a
    case chString => cases h
    all_goals exact fieldChStringsTyped_of_noCHString value_field _ (Arrow.Array.noCHString_values h)
  | .struct fields, a, h => by
    cases a
    case chString => cases h
    all_goals exact membersChStringsTyped_of_noCHString fields 0 _ h
  | .bool, a, h | .uint8, a, h | .int8, a, h | .uint16, a, h | .int16, a, h | .uint32, a, h
  | .int32, a, h | .uint64, a, h | .int64, a, h | .halfFloat, a, h | .float, a, h
  | .double, a, h | .string, a, h | .binary, a, h | .date32, a, h | .date64, a, h
  | .timestamp _ _, a, h | .decimal128 _ _, a, h | .decimal256 _ _, a, h
  | .dictionary _ _, a, h | .other _, a, h => by
    cases a
    case chString => cases h
    all_goals rfl

theorem fieldChStringsTyped_of_noCHString : ∀ (field : Field) (a : Arrow.Array),
    a.noCHString → fieldChStringsTyped field a
  | .mk _ type _, a, h => chStringsTyped_of_noCHString type a h

theorem membersChStringsTyped_of_noCHString : ∀ (fields : List Field) (i : Nat) (a : Arrow.Array),
    a.noCHString → membersChStringsTyped fields i a
  | [], _, _, _ => rfl
  | field :: fields, i, a, h => by
    rw [membersChStringsTyped, fieldChStringsTyped_of_noCHString field _ (Arrow.Array.noCHString_field h i),
      membersChStringsTyped_of_noCHString fields (i + 1) a h, Bool.and_self]
end

theorem membersChStringsTyped_of_struct {fields : List Field} {a : Arrow.Array}
    (h : chStringsTyped (.struct fields) a) : membersChStringsTyped fields 0 a := by
  cases a
  case chString => exact absurd h Bool.false_ne_true
  all_goals exact h

/-- A `CHStringArray` stands only for a `STRING` or `BINARY` array, with a column whose
type is not a tuple. -/
theorem not_isTuple_of_chStringsTyped {type : Arrow.DataType} {column : ColumnWithTypeAndName}
    {length offset : Nat} {validity : Bitmap}
    (h : chStringsTyped type (.chString column length offset validity)) :
    (type = .string ∨ type = .binary) ∧ column.type.isTuple = false := by
  cases type
  case string | binary =>
    have h' : (!column.type.isTuple) = true := h
    exact ⟨by simp, by simpa using h'⟩
  all_goals exact absurd h Bool.false_ne_true

/-! ## The converter -/

/-- What the fast path leaves of the postcondition: the field's name, and a type whose tuple
structure is that of `STRING`, the only type at which `chStringsTyped` lets a
`CHStringArray` stand. -/
theorem fastPath_shape {column_name : String} {type : Arrow.DataType}
    {arrow_column : ChunkedArray} {body : ConvM ColumnWithTypeAndName}
    (hbody : Keeps (fun _ => True) (fun column => column.name = column_name ∧
      ((∀ a ∈ arrow_column, chStringsTyped type a) → column.type.shape = typeShape type)) body) :
    Keeps (fun _ => True) (fun column => column.name = column_name ∧
        ((∀ a ∈ arrow_column, chStringsTyped type a) → column.type.shape = typeShape type))
      (match arrow_column.head? with
        | some (.chString column _ _ _) => Pure.pure { column with name := column_name }
        | _ => body) := by
  refine Keeps.fastPath (fun column _ _ _ h => ⟨rfl, fun htyped => ?_⟩) hbody
  obtain ⟨htype, htuple⟩ := not_isTuple_of_chStringsTyped (htyped _ (List.mem_of_mem_head? h))
  rcases htype with rfl | rfl <;> exact DB.DataType.shape_of_not_isTuple htuple

/-- The `LowCardinality` column of a dictionary field is not a tuple. -/
theorem lowCardinality_shape (column_name : String) (index_type : Arrow.DataType)
    (arrow_column : ChunkedArray) (dict_values : ColumnWithTypeAndName) :
    Keeps (fun _ => True) (fun column : ColumnWithTypeAndName => column.name = column_name ∧
        column.type.shape = .string)
      (pure dict_values >>= fun dict_values => do
        let indexes_column ← ConvM.ofExcept
          (readColumnWithIndexesData index_type (arrow_column.map Arrow.Array.indices))
        let lc_type ← ConvM.ofExcept (DataTypeLowCardinality.create dict_values.type)
        pure (⟨.lowCardinality dict_values.column indexes_column.vectorData, lc_type,
          column_name⟩ : ColumnWithTypeAndName)) :=
  (Keeps.triv _).bind fun _ _ => (Keeps.triv _).bind fun _ _ =>
    (Keeps.ofExcept fun _ h => DataTypeLowCardinality.create_eq_ok h).bind fun _ htype =>
      Keeps.pure ⟨rfl, by rw [htype]; rfl⟩

/-! ## What `Nullable` refuses -/

/-- A list, a map, a struct or a dictionary: the types whose column `Nullable` refuses. -/
def Arrow.DataType.isNested : Arrow.DataType → Bool
  | .list _ | .map _ | .struct _ | .dictionary _ _ => true
  | _ => false

/-- The nullable wrapper over a column `Nullable` refuses throws. -/
theorem readNullable_refused {column_name : String} {arrow_column : ChunkedArray}
    {nested : ConvM ColumnWithTypeAndName}
    (h : Keeps (fun _ => True) (fun column => column.type.canBeInsideNullable = false) nested) :
    Keeps (fun _ => True) (fun _ => False) (readNullable column_name arrow_column nested) :=
  h.bind fun _ hcolumn => (Keeps.ofExcept (P := fun _ => False) fun _ hcreate => by
    rw [DataTypeNullable.create, if_neg (by simp [hcolumn])] at hcreate
    cases hcreate).bind fun _ hfalse => hfalse.elim

variable (bounds : DateBounds)

/-- The `LowCardinality` column of the dictionary case is one `Nullable` refuses. -/
theorem lowCardinality_refused (column_name : String) (index_type : Arrow.DataType)
    (arrow_column : ChunkedArray) (dict_values : ColumnWithTypeAndName) :
    Keeps (fun _ => True) (fun column : ColumnWithTypeAndName =>
        column.type.canBeInsideNullable = false)
      (pure dict_values >>= fun dict_values => do
        let indexes_column ← ConvM.ofExcept
          (readColumnWithIndexesData index_type (arrow_column.map Arrow.Array.indices))
        let lc_type ← ConvM.ofExcept (DataTypeLowCardinality.create dict_values.type)
        pure (⟨.lowCardinality dict_values.column indexes_column.vectorData, lc_type,
          column_name⟩ : ColumnWithTypeAndName)) :=
  (Keeps.triv _).bind fun _ _ => (Keeps.triv _).bind fun _ _ =>
    (Keeps.ofExcept fun _ h => DataTypeLowCardinality.create_eq_ok h).bind fun _ htype =>
      Keeps.pure (by rw [htype]; rfl)

/-- Off the fast path, a list, a map, a struct or a dictionary converts to an array, a map, a
tuple or a `LowCardinality` column, none of which `Nullable` accepts. -/
theorem readNonNullable_refused (column_name : String) (type : Arrow.DataType)
    (htype : type.isNested) (arrow_column : ChunkedArray)
    (hhead : ∀ c l o v, arrow_column.head? ≠ some (.chString c l o v)) (format_name : String)
    (read_ints_as_dates : Bool) :
    Keeps (fun _ => True) (fun column => column.type.canBeInsideNullable = false)
      (readNonNullable bounds column_name type arrow_column format_name read_ints_as_dates) := by
  cases type
  all_goals try (cases htype; done)
  all_goals rw [readNonNullable]; refine Keeps.fastPath (fun _ _ _ _ h => absurd h (hhead _ _ _ _)) ?_
  case list => exact (Keeps.triv _).bind fun _ _ => (Keeps.triv _).bind fun _ _ => Keeps.pure rfl
  case map =>
    exact (Keeps.triv _).bind fun _ _ => (Keeps.triv _).bind fun _ _ =>
      (Keeps.ofExcept fun _ h => DataTypeMap.create_eq_ok h).bind fun _ htype =>
        Keeps.pure (by rw [htype]; rfl)
  case struct =>
    exact (Keeps.triv _).bind fun _ _ =>
      (Keeps.ofExcept fun _ h => DataTypeTuple.create_eq_ok h).bind fun _ htype =>
        Keeps.pure (by rw [htype]; rfl)
  case dictionary index_type _ =>
    refine Keeps.get_bind fun _ _ => ?_
    dsimp only
    split
    · exact lowCardinality_refused column_name index_type arrow_column _
    · exact (Keeps.triv _).bind fun _ _ => (Keeps.triv _).bind fun _ _ =>
        (Keeps.triv _).bind fun _ _ => lowCardinality_refused column_name index_type arrow_column _

mutual
/-- Every conversion returns a column of the field's name and, over chunks whose
`CHStringArray`s stand for strings, of the field's tuple structure. -/
theorem readColumnFromArrowColumn_shape : ∀ (field : Field) (arrow_column : ChunkedArray)
    (format_name : String) (read_ints_as_dates : Bool),
    Keeps (fun _ => True) (fun column => column.name = field.name ∧
        ((∀ a ∈ arrow_column, fieldChStringsTyped field a) → column.type.shape = fieldShape field))
      (readColumnFromArrowColumn bounds field arrow_column format_name read_ints_as_dates)
  | .mk column_name type is_nullable, arrow_column, format_name, read_ints_as_dates => by
    have h := readNonNullable_shape column_name type arrow_column format_name read_ints_as_dates
    rw [readColumnFromArrowColumn]
    cases is_nullable
    · exact h
    · exact Keeps.readNullable h fun _ _ => ⟨rfl, fun _ => rfl⟩

theorem readNonNullable_shape (column_name : String) : ∀ (type : Arrow.DataType)
    (arrow_column : ChunkedArray) (format_name : String) (read_ints_as_dates : Bool),
    Keeps (fun _ => True) (fun column => column.name = column_name ∧
        ((∀ a ∈ arrow_column, chStringsTyped type a) → column.type.shape = typeShape type))
      (readNonNullable bounds column_name type arrow_column format_name read_ints_as_dates)
  | .struct fields, arrow_column, format_name, read_ints_as_dates => by
    rw [readNonNullable]
    refine fastPath_shape ((readStructFields_shape fields 0 arrow_column format_name
      read_ints_as_dates).bind fun elements ⟨hnames, hshapes⟩ =>
        (Keeps.ofExcept fun _ h => DataTypeTuple.create_eq_ok h).bind fun _ htype =>
          Keeps.pure ⟨rfl, fun htyped => ?_⟩)
    simp only [htype, DB.DataType.shape, typeShape, ← hnames,
      hshapes fun a ha => membersChStringsTyped_of_struct (htyped a ha)]
  | .list _, _, _, _ => by
    rw [readNonNullable]
    exact fastPath_shape ((Keeps.triv _).bind fun _ _ => (Keeps.triv _).bind fun _ _ =>
      Keeps.pure ⟨rfl, fun _ => rfl⟩)
  | .map _, _, _, _ => by
    rw [readNonNullable]
    exact fastPath_shape ((Keeps.triv _).bind fun _ _ => (Keeps.triv _).bind fun _ _ =>
      (Keeps.ofExcept fun _ h => DataTypeMap.create_eq_ok h).bind fun _ htype =>
        Keeps.pure ⟨rfl, fun _ => by rw [htype]; rfl⟩)
  | .dictionary index_type _, arrow_column, _, _ => by
    rw [readNonNullable]
    refine fastPath_shape (Keeps.get_bind fun cache _ => ?_)
    dsimp only
    split
    · exact (lowCardinality_shape column_name index_type arrow_column _).mono
        fun _ h => ⟨h.1, fun _ => h.2⟩
    · exact (Keeps.triv _).bind fun _ _ => (Keeps.triv _).bind fun _ _ =>
        (Keeps.triv _).bind fun _ _ => (lowCardinality_shape column_name index_type
          arrow_column _).mono fun _ h => ⟨h.1, fun _ => h.2⟩
  | .uint16, _, _, read_ints_as_dates | .uint32, _, _, read_ints_as_dates => by
    rw [readNonNullable]
    exact fastPath_shape (Keeps.pure (by cases read_ints_as_dates <;> exact ⟨rfl, fun _ => rfl⟩))
  | .bool, _, _, _ | .uint8, _, _, _ | .int8, _, _, _ | .int16, _, _, _ | .int32, _, _, _
  | .uint64, _, _, _ | .int64, _, _, _ | .halfFloat, _, _, _ | .float, _, _, _
  | .double, _, _, _ | .string, _, _, _ | .binary, _, _, _ | .date64, _, _, _
  | .timestamp _ _, _, _, _ => by
    rw [readNonNullable]
    exact fastPath_shape (Keeps.pure ⟨rfl, fun _ => rfl⟩)
  | .date32, _, _, _ => by
    rw [readNonNullable]
    exact fastPath_shape (Keeps.ofExcept fun _ h => by
      obtain rfl := readColumnWithDate32Data_eq_ok h
      exact ⟨rfl, fun _ => rfl⟩)
  | .decimal128 _ _, _, _, _ | .decimal256 _ _, _, _, _ => by
    rw [readNonNullable]
    exact fastPath_shape (Keeps.ofExcept fun _ h => by
      obtain ⟨_, rfl⟩ := readColumnWithDecimalData_eq_ok h
      exact ⟨rfl, fun _ => rfl⟩)
  | .other _, _, _, _ => by
    rw [readNonNullable]
    exact fastPath_shape (Keeps.throw _)

theorem readStructFields_shape : ∀ (fields : List Field) (i : Nat) (arrow_column : ChunkedArray)
    (format_name : String) (read_ints_as_dates : Bool),
    Keeps (fun _ => True) (fun elements : List ColumnWithTypeAndName =>
        elements.map (·.name) = fields.map Field.name ∧
          ((∀ a ∈ arrow_column, membersChStringsTyped fields i a) →
            DB.DataType.shapes (elements.map (·.type)) = fieldsShape fields))
      (readStructFields bounds fields i arrow_column format_name read_ints_as_dates)
  | [], _, _, _, _ => by
    rw [readStructFields]
    exact Keeps.pure ⟨rfl, fun _ => rfl⟩
  | field :: fields, i, arrow_column, format_name, read_ints_as_dates => by
    rw [readStructFields]
    refine (readColumnFromArrowColumn_shape field _ format_name read_ints_as_dates).bind
      fun element ⟨hname, hshape⟩ => (readStructFields_shape fields (i + 1) arrow_column
        format_name read_ints_as_dates).bind fun elements ⟨hnames, hshapes⟩ =>
          Keeps.pure ⟨by simp [hname, hnames], fun htyped => ?_⟩
    have hmembers := fun a ha => (Bool.and_eq_true _ _).mp (htyped a ha)
    have hmember : ∀ a ∈ arrow_column.map (·.field i), fieldChStringsTyped field a := by
      simp only [List.mem_map]
      rintro _ ⟨a, ha, rfl⟩
      exact (hmembers a ha).1
    simp only [List.map_cons, DB.DataType.shapes, fieldsShape, hshape hmember,
      hshapes fun a ha => (hmembers a ha).2]
end

end GlutenBridge
