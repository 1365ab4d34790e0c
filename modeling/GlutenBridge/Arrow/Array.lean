import GlutenBridge.DB.Column

/-!
# Arrow arrays

The external side of the converter: Arrow data types and fields, arrays and chunked
arrays, with the accessors the converter calls.

An array keeps what its `ArrayData` holds: its length, its offset into its buffers
(non-zero after slicing), its validity bitmap, and its buffers. Fixed-width values
(`buffers[1]` of a primitive, boolean or decimal array) are kept as bytes, since the
converter reads some of them as raw memory. A `CHStringArray` is the array Gluten's
Parquet reader builds around an already converted ClickHouse column.

A chunked array is its list of chunks. Its type is that of its chunks and, for every
chunked array the converter is given, that of the field it is converted with; the
model reads types from the field.
-/

set_option autoImplicit false

namespace GlutenBridge.Arrow

/-- `arrow::TimeUnit::type`. -/
inductive TimeUnit where
  | SECOND | MILLI | MICRO | NANO

/-- The enumerator's value, which `readColumnWithTimestampData` multiplies by 3. -/
def TimeUnit.toNat : TimeUnit → Nat
  | .SECOND => 0
  | .MILLI => 1
  | .MICRO => 2
  | .NANO => 3

mutual
/-- Arrow data types; `other` is any type id the converter has no case for. -/
inductive DataType where
  | bool | uint8 | int8 | uint16 | int16 | uint32 | int32 | uint64 | int64
  | halfFloat | float | double | string | binary | date32 | date64
  | timestamp (unit : TimeUnit) (timezone : String)
  | decimal128 (precision : Nat) (scale : Int)
  | decimal256 (precision : Nat) (scale : Int)
  | list (valueField : Field)
  | map (entries : Field)
  | struct (fields : List Field)
  | dictionary (indexType valueType : DataType)
  | other (name : String)

/-- `arrow::Field`. -/
inductive Field where
  | mk (name : String) (type : DataType) (nullable : Bool)
end

namespace Field

def name : Field → String
  | .mk n _ _ => n

def type : Field → DataType
  | .mk _ t _ => t

def nullable : Field → Bool
  | .mk _ _ b => b

end Field

/-- `arrow::DataType::name()`. -/
def DataType.name : DataType → String
  | .bool => "bool"
  | .uint8 => "uint8"
  | .int8 => "int8"
  | .uint16 => "uint16"
  | .int16 => "int16"
  | .uint32 => "uint32"
  | .int32 => "int32"
  | .uint64 => "uint64"
  | .int64 => "int64"
  | .halfFloat => "halffloat"
  | .float => "float"
  | .double => "double"
  | .string => "utf8"
  | .binary => "binary"
  | .date32 => "date32"
  | .date64 => "date64"
  | .timestamp _ _ => "timestamp"
  | .decimal128 _ _ => "decimal128"
  | .decimal256 _ _ => "decimal256"
  | .list _ => "list"
  | .map _ => "map"
  | .struct _ => "struct"
  | .dictionary _ _ => "dictionary"
  | .other n => n

/-- The validity bitmap `buffers[0]`, one bit per slot; `none` when every slot is valid. -/
abbrev Bitmap := Option (List Bool)

/-- An Arrow array. -/
inductive Array where
  /-- A fixed-width array (primitive, boolean, decimal): `values` is `buffers[1]`,
  bit-packed for booleans. -/
  | primitive (length offset : Nat) (validity : Bitmap) (values : List UInt8)
  /-- A `BinaryArray` (or `StringArray`): the value offsets and the value bytes. -/
  | binary (length offset : Nat) (validity : Bitmap) (valueOffsets : List Nat)
      (valueData : List UInt8)
  /-- A `ListArray` (or `MapArray`): the value offsets and the values child. -/
  | list (length offset : Nat) (validity : Bitmap) (valueOffsets : List Nat) (values : Array)
  | struct (length offset : Nat) (validity : Bitmap) (children : List Array)
  /-- A `DictionaryArray`: its indices (which carry its length, offset and validity) and
  its dictionary. -/
  | dictEncoded (indices : Array) (dictionary : Array)
  /-- A `CHStringArray`: the ClickHouse column it already holds. -/
  | chString (column : DB.ColumnWithTypeAndName) (length offset : Nat) (validity : Bitmap)

/-- A `ChunkedArray`: its chunks, in order. -/
abbrev ChunkedArray := List Array

/-- Little-endian value of a list of bytes. -/
def decodeLE : List UInt8 → Nat
  | [] => 0
  | b :: bs => b.toNat + 256 * decodeLE bs

/-- The `width`-byte element `i` of a buffer, read from the buffer's start. -/
def readElement (buffer : List UInt8) (width i : Nat) : Nat :=
  decodeLE ((buffer.drop (i * width)).take width)

/-- The two's-complement value of an `n`-bit pattern. -/
def toSigned (n bits : Nat) : Int :=
  if bits < 2 ^ (n - 1) then bits else (bits : Int) - (2 ^ n : Nat)

namespace Array

/-- `Array::length()`. -/
def length : Array → Nat
  | .primitive l _ _ _ | .binary l _ _ _ _ | .list l _ _ _ _ | .struct l _ _ _ => l
  | .dictEncoded indices _ => indices.length
  | .chString _ l _ _ => l

/-- `Array::offset()`. -/
def offset : Array → Nat
  | .primitive _ o _ _ | .binary _ o _ _ _ | .list _ o _ _ _ | .struct _ o _ _ => o
  | .dictEncoded indices _ => indices.offset
  | .chString _ _ o _ => o

/-- The validity bitmap. -/
def validity : Array → Bitmap
  | .primitive _ _ v _ | .binary _ _ v _ _ | .list _ _ v _ _ | .struct _ _ v _ => v
  | .dictEncoded indices _ => indices.validity
  | .chString _ _ _ v => v

/-- `Array::IsNull(i)`: the validity bit of slot `offset + i` is clear. -/
def IsNull (a : Array) (i : Nat) : Bool :=
  match a.validity with
  | none => false
  | some bits => !(bits.getD (a.offset + i) true)

/-- `data()->buffers[1]` of a fixed-width array. -/
def valuesBuffer : Array → List UInt8
  | .primitive _ _ _ values => values
  | _ => []

/-- `Value(i)` of a fixed-width array of `width`-byte elements, as a bit pattern. -/
def Value (a : Array) (width i : Nat) : Nat :=
  readElement a.valuesBuffer width (a.offset + i)

/-- `BooleanArray::Value(i)`: bit `offset + i` of the bit-packed values. -/
def boolValue (a : Array) (i : Nat) : Bool :=
  (a.valuesBuffer.getD ((a.offset + i) / 8) 0).toNat.testBit ((a.offset + i) % 8)

/-- `BinaryArray::value_offset(i)`. -/
def value_offset (a : Array) (i : Nat) : Nat :=
  match a with
  | .binary _ o _ offs _ => offs.getD (o + i) 0
  | _ => 0

/-- `BinaryArray::value_length(i)`. -/
def value_length (a : Array) (i : Nat) : Nat :=
  match a with
  | .binary _ o _ offs _ => offs.getD (o + i + 1) 0 - offs.getD (o + i) 0
  | _ => 0

/-- `BinaryArray::value_data()`. -/
def value_data : Array → List UInt8
  | .binary _ _ _ _ data => data
  | _ => []

/-- `ListArray::offsets()->Value(i)` for `i ≤ length`: the raw offsets from the
array's offset on, so the first is non-zero after slicing. -/
def offsets (a : Array) : List Nat :=
  match a with
  | .list l o _ offs _ => (List.range (l + 1)).map fun i => offs.getD (o + i) 0
  | _ => []

/-- `ListArray::values()`: the whole values child, not sliced to the array's rows. -/
def values : Array → Array
  | .list _ _ _ _ child => child
  | _ => .primitive 0 0 none []

/-- `Array::Slice(off, len)`. -/
def Slice (off len : Nat) : Array → Array
  | .primitive l o v b => .primitive (min len (l - off)) (o + off) v b
  | .binary l o v offs data => .binary (min len (l - off)) (o + off) v offs data
  | .list l o v offs child => .list (min len (l - off)) (o + off) v offs child
  | .struct l o v children => .struct (min len (l - off)) (o + off) v children
  | .dictEncoded indices dict => .dictEncoded (indices.Slice off len) dict
  | .chString c l o v => .chString c (min len (l - off)) (o + off) v

/-- `StructArray::field(i)`: child `i` sliced to the struct's rows. -/
def field (a : Array) (i : Nat) : Array :=
  match a with
  | .struct l o _ children => (children.getD i (.primitive 0 0 none [])).Slice o l
  | _ => .primitive 0 0 none []

/-- `DictionaryArray::indices()`. -/
def indices : Array → Array
  | .dictEncoded indices _ => indices
  | _ => .primitive 0 0 none []

/-- `DictionaryArray::dictionary()`. -/
def dictionary : Array → Array
  | .dictEncoded _ dict => dict
  | _ => .primitive 0 0 none []

/-- A fixed-width array: what Arrow's primitive, boolean and decimal arrays are. -/
def isPrimitive : Array → Bool
  | .primitive .. => true
  | _ => false

/-- A `ListArray` or `MapArray`. -/
def isList : Array → Bool
  | .list .. => true
  | _ => false

/-- A `StructArray`. -/
def isStruct : Array → Bool
  | .struct .. => true
  | _ => false

/-- A `DictionaryArray`. -/
def isDictEncoded : Array → Bool
  | .dictEncoded .. => true
  | _ => false

/-- A `CHStringArray`, which the converter's first `dynamic_cast` looks for. -/
def isCHString : Array → Bool
  | .chString .. => true
  | _ => false

end Array

/-- `ChunkedArray::num_chunks()`. -/
def ChunkedArray.num_chunks (c : ChunkedArray) : Nat := List.length c

/-- `ChunkedArray::length()`: the total length of the chunks. -/
def ChunkedArray.length (c : ChunkedArray) : Nat := (c.map Array.length).sum

@[simp] theorem ChunkedArray.length_nil : ChunkedArray.length [] = 0 := rfl

@[simp] theorem ChunkedArray.length_cons (a : Array) (c : ChunkedArray) :
    ChunkedArray.length (a :: c) = a.length + ChunkedArray.length c :=
  List.sum_cons

end GlutenBridge.Arrow
