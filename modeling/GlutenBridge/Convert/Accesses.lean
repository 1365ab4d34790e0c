import GlutenBridge.Convert.Column

/-!
# What the converter reads of its input

`readColumnFromArrowColumn` and its helpers reach their input in two ways the C++ does
not check: `arrow_column->chunk(i)`, and raw reads of a chunk's `buffers[1]` through a
pointer cast to the C++ type of the dispatch. `accesses` lists both, in the order the
converter makes them, by a recursion on the field that follows the converter's
dispatch: the loops over the chunks (`chunkLoop`), the raw reads of the numeric,
`Date32` and decimal readers, and the recursive calls. It lists a dictionary's values
as if the cache held none, and the accesses after a throw as if there had been none, so
a run makes some of the accesses listed, in that order.

Every loop stays below `num_chunks()`, but the `CHStringArray` test reads `chunk(0)`
before any loop, also of a chunked array without chunks. The numeric and `Date32` readers
read `length` elements of the dispatch's C++ type from the start of the buffer, which
a buffer holding the array's `offset + length` elements of that width covers; the
dispatch reads `HALF_FLOAT` as 4-byte `Float32` from a buffer of 2-byte elements
(`readColumnFromArrowColumn_reads_outside_input`). Without these two,
`accesses_inBounds` proves every access in bounds, for every field and every chunked
array of at least one chunk whose buffers hold their elements, with Arrow's bound of 38
digits on a `Decimal128Type`.

The model of the readers takes buffers as lists and cannot read past their end; the
footprint is what says that the C++ does not either.
-/

set_option autoImplicit false

namespace GlutenBridge

open Arrow DB

/-! ## Accesses -/

/-- An access of the converter to its input. -/
inductive Access where
  /-- `arrow_column->chunk(index)` of a chunked array of `num_chunks` chunks. -/
  | chunk (index num_chunks : Nat)
  /-- A raw read of `len` bytes at byte `start` of a `buffers[1]` of `size` bytes. -/
  | raw (size start len : Nat)
deriving DecidableEq, Repr

/-- The access stays inside the input. -/
def Access.inBounds : Access → Bool
  | .chunk index num_chunks => index < num_chunks
  | .raw size start len => start + len ≤ size

@[simp] theorem Access.inBounds_chunk {index num_chunks : Nat} :
    (Access.chunk index num_chunks).inBounds ↔ index < num_chunks := by
  simp [Access.inBounds]

@[simp] theorem Access.inBounds_raw {size start len : Nat} :
    (Access.raw size start len).inBounds ↔ start + len ≤ size := by
  simp [Access.inBounds]

/-- Every access of the list stays inside the input. -/
def AllInBounds (l : List Access) : Prop := ∀ a ∈ l, a.inBounds

instance : DecidablePred AllInBounds := fun l =>
  inferInstanceAs (Decidable (∀ a ∈ l, a.inBounds))

theorem AllInBounds.nil : AllInBounds [] := fun _ h => nomatch h

theorem AllInBounds.append {l₁ l₂ : List Access} (h₁ : AllInBounds l₁) (h₂ : AllInBounds l₂) :
    AllInBounds (l₁ ++ l₂) :=
  List.forall_mem_append.2 ⟨h₁, h₂⟩

theorem AllInBounds.cons {a : Access} {l : List Access} (ha : a.inBounds) (h : AllInBounds l) :
    AllInBounds (a :: l) :=
  List.forall_mem_cons.2 ⟨ha, h⟩

/-- A loop over the chunks from `chunk_i` on: `arrow_column->chunk(chunk_i)`, then what
`body` reads of that chunk. -/
def chunkLoopFrom (num_chunks : Nat) (body : Arrow.Array → List Access) :
    Nat → List Arrow.Array → List Access
  | _, [] => []
  | chunk_i, chunk :: chunks =>
    .chunk chunk_i num_chunks :: body chunk ++ chunkLoopFrom num_chunks body (chunk_i + 1) chunks

/-- `for (chunk_i = 0; chunk_i < num_chunks; ++chunk_i)`, the loop of every helper. -/
def chunkLoop (arrow_column : ChunkedArray) (body : Arrow.Array → List Access) : List Access :=
  chunkLoopFrom arrow_column.num_chunks body 0 arrow_column

/-- The raw read of `length` elements of `width` bytes from the start of `buffers[1]`. -/
def rawPrefix (width : Nat) (chunk : Arrow.Array) : Access :=
  .raw chunk.valuesBuffer.length 0 (chunk.length * width)

/-- `readColumnWithNumericData<T>` with `sizeof(T) = width`: every chunk, and the raw read
of each non-empty one. -/
def numericAccesses (width : Nat) (arrow_column : ChunkedArray) : List Access :=
  chunkLoop arrow_column fun chunk => if chunk.length = 0 then [] else [rawPrefix width chunk]

/-- `readColumnWithDate32Data`: every chunk and its raw read, also of an empty one. -/
def date32Accesses (arrow_column : ChunkedArray) : List Access :=
  chunkLoop arrow_column fun chunk => [rawPrefix 4 chunk]

/-- `readColumnWithDecimalData`: nothing when `createDecimal` throws; otherwise every
chunk, and for each non-null row the `sizeof(DecimalType)` bytes at `Value(i)`. -/
def decimalAccesses (sourceWidth precision : Nat) (scale : Int) (arrow_column : ChunkedArray) :
    List Access :=
  match createDecimal precision scale with
  | .error _ => []
  | .ok _ => chunkLoop arrow_column fun chunk =>
    (List.range chunk.length).flatMap fun i =>
      if chunk.IsNull i then []
      else [.raw chunk.valuesBuffer.length ((chunk.offset + i) * sourceWidth)
        (decimalWidth precision)]

/-- `readColumnWithIndexesData`: the numeric reader of the index width, nothing for an
index type without a case (it throws). -/
def indexesAccesses (index_type : Arrow.DataType) (arrow_column : ChunkedArray) :
    List Access :=
  match indexWidth index_type with
  | some width => numericAccesses width arrow_column
  | none => []

mutual
/-- The accesses of `readColumnFromArrowColumn(field, arrow_column, …)`; the nullable
branch reads the chunks again for the byte map. -/
def accesses : Field → ChunkedArray → List Access
  | .mk _ type is_nullable, arrow_column =>
    if is_nullable then nonNullableAccesses type arrow_column ++ chunkLoop arrow_column fun _ => []
    else nonNullableAccesses type arrow_column

/-- The accesses after the nullable branch: `chunk(0)` for the `CHStringArray` test, then
those of the type's case. -/
def nonNullableAccesses : Arrow.DataType → ChunkedArray → List Access
  | type, arrow_column =>
    .chunk 0 arrow_column.num_chunks ::
      match arrow_column.head? with
      | some (.chString ..) => []
      | _ =>
        match type with
        | .string | .binary =>
          chunkLoop arrow_column (fun _ => []) ++ chunkLoop arrow_column fun _ => []
        | .bool | .date64 | .timestamp _ _ => chunkLoop arrow_column fun _ => []
        | .date32 => date32Accesses arrow_column
        | .uint16 => numericAccesses 2 arrow_column
        | .uint32 => numericAccesses 4 arrow_column
        | .decimal128 precision scale => decimalAccesses 16 precision scale arrow_column
        | .decimal256 precision scale => decimalAccesses 32 precision scale arrow_column
        | .map value_field | .list value_field =>
          chunkLoop arrow_column (fun _ => []) ++
            accesses value_field (getNestedArrowColumn arrow_column) ++
            chunkLoop arrow_column fun _ => []
        | .struct fields =>
          chunkLoop arrow_column (fun _ => []) ++ membersAccesses fields 0 arrow_column
        | .dictionary index_type value_type =>
          chunkLoop arrow_column (fun _ => []) ++
            nonNullableAccesses value_type (arrow_column.map Arrow.Array.dictionary) ++
            chunkLoop (arrow_column.map Arrow.Array.dictionary) (fun _ => []) ++
            chunkLoop arrow_column (fun _ => []) ++
            indexesAccesses index_type (arrow_column.map Arrow.Array.indices)
        | .uint8 | .int8 => numericAccesses 1 arrow_column
        | .int16 => numericAccesses 2 arrow_column
        | .int32 => numericAccesses 4 arrow_column
        | .uint64 | .int64 => numericAccesses 8 arrow_column
        | .halfFloat | .float => numericAccesses 4 arrow_column
        | .double => numericAccesses 8 arrow_column
        | .other _ => []

/-- The accesses of the struct members from member `i` on. -/
def membersAccesses : List Field → Nat → ChunkedArray → List Access
  | [], _, _ => []
  | field :: fields, i, arrow_column =>
    accesses field (arrow_column.map (·.field i)) ++ membersAccesses fields (i + 1) arrow_column
end

/-! ## Arrays that hold their elements -/

/-- The byte width of the elements of `buffers[1]` of a fixed-width Arrow type. -/
def elementWidth : Arrow.DataType → Option Nat
  | .uint8 | .int8 => some 1
  | .uint16 | .int16 | .halfFloat => some 2
  | .uint32 | .int32 | .float | .date32 => some 4
  | .uint64 | .int64 | .double | .date64 | .timestamp _ _ => some 8
  | .decimal128 _ _ => some 16
  | .decimal256 _ _ => some 32
  | _ => none

/-- The `buffers[1]` of the array has room for its `offset + length` elements of
`width` bytes. -/
def holdsElements (width : Nat) (a : Arrow.Array) : Bool :=
  decide ((a.offset + a.length) * width ≤ a.valuesBuffer.length)

mutual
/-- A chunk as Arrow lays out a value of the type: a fixed-width array's `buffers[1]`
holds its elements, recursively through the values of a list or map, the members of a
struct and the indices and dictionary of a dictionary; an Arrow `Decimal128Type` has at
most 38 digits. -/
def buffersValid : Arrow.DataType → Arrow.Array → Bool
  | .list value_field, a | .map value_field, a => fieldBuffersValid value_field a.values
  | .struct fields, a => membersBuffersValid fields 0 a
  | .dictionary index_type value_type, a =>
    buffersValid index_type a.indices && buffersValid value_type a.dictionary
  | .decimal128 precision _, a => decide (precision ≤ maxPrecision128) && holdsElements 16 a
  | type, a =>
    match elementWidth type with
    | some width => holdsElements width a
    | none => true

def fieldBuffersValid : Field → Arrow.Array → Bool
  | .mk _ type _, a => buffersValid type a

/-- The members `i`, `i + 1`, … of a struct chunk hold their elements. -/
def membersBuffersValid : List Field → Nat → Arrow.Array → Bool
  | [], _, _ => true
  | field :: fields, i, a => fieldBuffersValid field (a.field i) && membersBuffersValid fields (i + 1) a
end

mutual
/-- No `HALF_FLOAT` in the type. -/
def noHalfFloat : Arrow.DataType → Bool
  | .halfFloat => false
  | .list value_field | .map value_field => fieldNoHalfFloat value_field
  | .struct fields => fieldsNoHalfFloat fields
  | .dictionary index_type value_type => noHalfFloat index_type && noHalfFloat value_type
  | _ => true

def fieldNoHalfFloat : Field → Bool
  | .mk _ type _ => noHalfFloat type

def fieldsNoHalfFloat : List Field → Bool
  | [] => true
  | field :: fields => fieldNoHalfFloat field && fieldsNoHalfFloat fields
end

/-! ## Every access in bounds -/

/-- A loop that starts at `chunk_i` with `chunks` left stays below `num_chunks`. -/
theorem chunkLoopFrom_inBounds {num_chunks : Nat} {body : Arrow.Array → List Access} :
    ∀ (chunk_i : Nat) (chunks : List Arrow.Array), chunk_i + chunks.length ≤ num_chunks →
      (∀ chunk ∈ chunks, AllInBounds (body chunk)) →
      AllInBounds (chunkLoopFrom num_chunks body chunk_i chunks)
  | _, [], _, _ => .nil
  | chunk_i, chunk :: chunks, hlen, hbody => by
    rw [List.length_cons] at hlen
    rw [List.forall_mem_cons] at hbody
    rw [chunkLoopFrom]
    exact .cons (Access.inBounds_chunk.2 (by omega))
      (hbody.1.append (chunkLoopFrom_inBounds (chunk_i + 1) chunks (by omega) hbody.2))

theorem chunkLoop_inBounds {arrow_column : ChunkedArray} {body : Arrow.Array → List Access}
    (hbody : ∀ chunk ∈ arrow_column, AllInBounds (body chunk)) :
    AllInBounds (chunkLoop arrow_column body) :=
  chunkLoopFrom_inBounds 0 arrow_column (Nat.zero_add _).le hbody

theorem chunkLoop_empty_inBounds (arrow_column : ChunkedArray) :
    AllInBounds (chunkLoop arrow_column fun _ => []) :=
  chunkLoop_inBounds fun _ _ => .nil

theorem rawPrefix_inBounds {width : Nat} {chunk : Arrow.Array} (h : holdsElements width chunk) :
    (rawPrefix width chunk).inBounds := by
  rw [holdsElements, decide_eq_true_eq] at h
  rw [rawPrefix, Access.inBounds_raw, Nat.zero_add]
  exact (Nat.mul_le_mul_right width (Nat.le_add_left _ _)).trans h

theorem numericAccesses_inBounds {width : Nat} {arrow_column : ChunkedArray}
    (h : ∀ chunk ∈ arrow_column, holdsElements width chunk) :
    AllInBounds (numericAccesses width arrow_column) :=
  chunkLoop_inBounds fun chunk hchunk => by
    split
    · exact .nil
    · exact .cons (rawPrefix_inBounds (h chunk hchunk)) .nil

theorem date32Accesses_inBounds {arrow_column : ChunkedArray}
    (h : ∀ chunk ∈ arrow_column, holdsElements 4 chunk) :
    AllInBounds (date32Accesses arrow_column) :=
  chunkLoop_inBounds fun chunk hchunk => .cons (rawPrefix_inBounds (h chunk hchunk)) .nil

/-- The value of row `i < length` ends by the end of the array's elements, when the
decimal it is read as is no wider than the source. -/
theorem decimalValue_inBounds {sourceWidth precision : Nat} {chunk : Arrow.Array} {i : Nat}
    (hw : decimalWidth precision ≤ sourceWidth) (h : holdsElements sourceWidth chunk)
    (hi : i < chunk.length) :
    (Access.raw chunk.valuesBuffer.length ((chunk.offset + i) * sourceWidth)
      (decimalWidth precision)).inBounds := by
  rw [holdsElements, decide_eq_true_eq] at h
  rw [Access.inBounds_raw]
  calc (chunk.offset + i) * sourceWidth + decimalWidth precision
      ≤ (chunk.offset + i + 1) * sourceWidth := by rw [Nat.add_one_mul]; omega
    _ ≤ (chunk.offset + chunk.length) * sourceWidth := Nat.mul_le_mul_right _ (by omega)
    _ ≤ chunk.valuesBuffer.length := h

theorem decimalAccesses_inBounds {sourceWidth precision : Nat} {scale : Int}
    {arrow_column : ChunkedArray} (hw : decimalWidth precision ≤ sourceWidth)
    (h : ∀ chunk ∈ arrow_column, holdsElements sourceWidth chunk) :
    AllInBounds (decimalAccesses sourceWidth precision scale arrow_column) := by
  unfold decimalAccesses
  split
  · exact .nil
  · refine chunkLoop_inBounds fun chunk hchunk a ha => ?_
    obtain ⟨i, hi, ha⟩ := List.mem_flatMap.1 ha
    split at ha
    · exact absurd ha (List.not_mem_nil a)
    · rw [List.mem_singleton.1 ha]
      exact decimalValue_inBounds hw (h chunk hchunk) (List.mem_range.1 hi)

/-- An index type's elements are of its index width. -/
theorem holdsElements_of_indexWidth {index_type : Arrow.DataType} {width : Nat}
    {a : Arrow.Array} (hw : indexWidth index_type = some width)
    (h : buffersValid index_type a) : holdsElements width a := by
  cases index_type <;> first | (cases hw; exact h) | cases hw

theorem indexesAccesses_inBounds {index_type : Arrow.DataType} {arrow_column : ChunkedArray}
    (h : ∀ chunk ∈ arrow_column, buffersValid index_type chunk) :
    AllInBounds (indexesAccesses index_type arrow_column) := by
  unfold indexesAccesses
  split
  · next width hw =>
    exact numericAccesses_inBounds fun chunk hchunk => holdsElements_of_indexWidth hw (h chunk hchunk)
  · exact .nil

/-- The `chunk(0)` of the `CHStringArray` test, on a chunked array with a chunk, and
the type's case. -/
theorem chStringTest_inBounds {arrow_column : ChunkedArray} {body : List Access}
    (hne : arrow_column ≠ []) (hbody : AllInBounds body) :
    AllInBounds (.chunk 0 arrow_column.num_chunks ::
      match arrow_column.head? with
      | some (.chString ..) => []
      | _ => body) := by
  refine .cons (Access.inBounds_chunk.2 (List.length_pos.2 hne)) ?_
  split
  · exact .nil
  · exact hbody

theorem map_ne_nil {arrow_column : ChunkedArray} (f : Arrow.Array → Arrow.Array)
    (hne : arrow_column ≠ []) : arrow_column.map f ≠ [] := by
  simpa using hne

mutual
/-- Every access of a conversion stays inside its input: on a chunked array of at least
one chunk whose buffers hold their elements, and a field without `HALF_FLOAT`. -/
theorem accesses_inBounds : ∀ (field : Field) (arrow_column : ChunkedArray),
    arrow_column ≠ [] → fieldNoHalfFloat field →
    (∀ chunk ∈ arrow_column, fieldBuffersValid field chunk) →
    AllInBounds (accesses field arrow_column)
  | .mk _ type is_nullable, arrow_column, hne, hhalf, hvalid => by
    have h := nonNullableAccesses_inBounds type arrow_column hne hhalf hvalid
    rw [accesses]
    cases is_nullable
    · exact h
    · exact h.append (chunkLoop_empty_inBounds arrow_column)

theorem nonNullableAccesses_inBounds : ∀ (type : Arrow.DataType) (arrow_column : ChunkedArray),
    arrow_column ≠ [] → noHalfFloat type → (∀ chunk ∈ arrow_column, buffersValid type chunk) →
    AllInBounds (nonNullableAccesses type arrow_column)
  | type, arrow_column, hne, hhalf, hvalid => by
    cases type <;> rw [nonNullableAccesses] <;> refine chStringTest_inBounds hne ?_
    case string | binary =>
      exact (chunkLoop_empty_inBounds arrow_column).append (chunkLoop_empty_inBounds arrow_column)
    case bool | date64 | timestamp => exact chunkLoop_empty_inBounds arrow_column
    case date32 => exact date32Accesses_inBounds hvalid
    case uint8 | int8 | uint16 | int16 | uint32 | int32 | uint64 | int64 | float | double =>
      exact numericAccesses_inBounds hvalid
    case halfFloat => exact nomatch hhalf
    case decimal128 =>
      obtain ⟨chunk, hchunk⟩ := List.exists_mem_of_ne_nil arrow_column hne
      have hprecision := of_decide_eq_true (Bool.and_eq_true_iff.1 (hvalid chunk hchunk)).1
      exact decimalAccesses_inBounds (decimalWidth_le_16 hprecision)
        fun chunk hchunk => (Bool.and_eq_true_iff.1 (hvalid chunk hchunk)).2
    case decimal256 precision _ => exact decimalAccesses_inBounds (decimalWidth_le_32 precision) hvalid
    case list value_field | map value_field =>
      have h := accesses_inBounds value_field (getNestedArrowColumn arrow_column)
        (map_ne_nil _ hne) hhalf (List.forall_mem_map.2 hvalid)
      exact ((chunkLoop_empty_inBounds arrow_column).append h).append
        (chunkLoop_empty_inBounds arrow_column)
    case struct fields =>
      exact (chunkLoop_empty_inBounds arrow_column).append
        (membersAccesses_inBounds fields 0 arrow_column hne hhalf hvalid)
    case dictionary index_type value_type =>
      have hvalid' := fun chunk hchunk => Bool.and_eq_true_iff.1 (hvalid chunk hchunk)
      have hdictionary := nonNullableAccesses_inBounds value_type
        (arrow_column.map Arrow.Array.dictionary) (map_ne_nil _ hne) (Bool.and_eq_true_iff.1 hhalf).2
        (List.forall_mem_map.2 fun chunk hchunk => (hvalid' chunk hchunk).2)
      exact ((((chunkLoop_empty_inBounds arrow_column).append hdictionary).append
        (chunkLoop_empty_inBounds _)).append (chunkLoop_empty_inBounds arrow_column)).append
        (indexesAccesses_inBounds (List.forall_mem_map.2 fun chunk hchunk => (hvalid' chunk hchunk).1))
    case other => exact .nil

theorem membersAccesses_inBounds : ∀ (fields : List Field) (i : Nat) (arrow_column : ChunkedArray),
    arrow_column ≠ [] → fieldsNoHalfFloat fields →
    (∀ chunk ∈ arrow_column, membersBuffersValid fields i chunk) →
    AllInBounds (membersAccesses fields i arrow_column)
  | [], _, _, _, _, _ => by
    rw [membersAccesses]
    exact .nil
  | field :: fields, i, arrow_column, hne, hhalf, hvalid => by
    have hhalf' := Bool.and_eq_true_iff.1 hhalf
    have hvalid' := fun chunk hchunk => Bool.and_eq_true_iff.1 (hvalid chunk hchunk)
    rw [membersAccesses]
    exact (accesses_inBounds field _ (map_ne_nil _ hne) hhalf'.1
      (List.forall_mem_map.2 fun chunk hchunk => (hvalid' chunk hchunk).1)).append
      (membersAccesses_inBounds fields (i + 1) arrow_column hne hhalf'.2
        fun chunk hchunk => (hvalid' chunk hchunk).2)
end

/-! ## Reads outside the input -/

/-- One `HALF_FLOAT` row, the half-precision `1.0`, in a buffer of its 2 bytes. -/
def halfFloatRow : ChunkedArray :=
  [.primitive 1 0 none [0x00, 0x3C]]

/-- Two conversions read outside their input. A non-nullable `INT32` field over a chunked
array without chunks reads `chunk(0)` of none. A `HALF_FLOAT` chunk whose buffer holds
its row's 2 bytes is read as a 4-byte `Float32`, and the model's column takes the two
bytes as the low half of a 4-byte value. -/
theorem readColumnFromArrowColumn_reads_outside_input :
    accesses (.mk "i" .int32 false) [] = [.chunk 0 0] ∧
      (∀ chunk ∈ halfFloatRow, buffersValid .halfFloat chunk) ∧
      accesses (.mk "h" .halfFloat false) halfFloatRow = [.chunk 0 1, .chunk 0 1, .raw 2 0 4] ∧
      (((readColumnFromArrowColumn sampleDateBounds (.mk "h" .halfFloat false) halfFloatRow
        "Parquet" true).run.run fun _ => none).1.map fun column => column.column) =
        .ok (.vector 4 [0x3C00]) :=
  ⟨by decide, by decide, by decide, rfl⟩

end GlutenBridge
