import GlutenBridge.Convert.Column

/-!
# The offsets of list and map columns

`readOffsetsFromArrowListColumn` walks the chunks and adds each chunk's Arrow offsets,
after the first, to the last offset produced so far. The element column is converted
from the whole values children of the chunks (`getNestedArrowColumn`), so chunk `k`'s
elements start at `B k`, the total size of the earlier values children.

The running start is the sum of the earlier chunks' last Arrow offsets
(`readOffsetsFromArrowListColumn_eq`), not `B k`, and a chunk's first Arrow offset is
never subtracted. Both agree with the element positions when every chunk's offsets
start at 0 and end at the size of its values child (`…_of_unsliced`); a sliced chunk,
or one whose values child extends past its last offset, shifts the rows after it.
-/

set_option autoImplicit false

namespace GlutenBridge

open Arrow DB

/-- The last Arrow offset of a list chunk, 0 for a chunk without rows. -/
def lastArrowOffset (chunk : Arrow.Array) : Nat := (chunk.offsets.drop 1).getLastD 0

/-- The offsets of the chunks when chunk `k` starts at `s` plus the `step`s of the
chunks before it. -/
def listOffsetsFrom (step : Arrow.Array → Nat) : Nat → ChunkedArray → List Nat
  | _, [] => []
  | s, chunk :: chunks =>
    (chunk.offsets.drop 1).map (s + ·) ++ listOffsetsFrom step (s + step chunk) chunks

theorem getLastD_append_map_add (xs ys : List Nat) (s : Nat) :
    (xs ++ ys.map (s + ·)).getLastD 0 = if ys = [] then xs.getLastD 0 else s + ys.getLastD 0 := by
  rcases List.eq_nil_or_concat ys with rfl | ⟨l, a, rfl⟩
  · simp
  · simp [List.getLastD_eq_getLast?]

/-- The loop of `readOffsetsFromArrowListColumn` from an accumulator `acc`. -/
theorem foldl_appendListOffsets (chunks : ChunkedArray) (acc : List Nat) :
    chunks.foldl appendListOffsets acc =
      acc ++ listOffsetsFrom lastArrowOffset (acc.getLastD 0) chunks := by
  induction chunks generalizing acc with
  | nil => simp [listOffsetsFrom]
  | cons chunk chunks ih =>
    rw [List.foldl_cons, ih, appendListOffsets, getLastD_append_map_add, listOffsetsFrom,
      List.append_assoc]
    congr 3
    unfold lastArrowOffset
    split <;> simp_all

/-- What `readOffsetsFromArrowListColumn` computes: chunk `k`'s offsets shifted by the
sum of the last Arrow offsets of the chunks before it. -/
theorem readOffsetsFromArrowListColumn_eq (chunks : ChunkedArray) :
    readOffsetsFromArrowListColumn chunks = listOffsetsFrom lastArrowOffset 0 chunks := by
  simpa using foldl_appendListOffsets chunks []

/-- On chunks whose offsets start at 0 and end at the size of their values child, the
offsets are those of the concatenated values children: chunk `k` starts at `B k`. -/
theorem readOffsetsFromArrowListColumn_of_unsliced (chunks : ChunkedArray)
    (hlast : ∀ chunk ∈ chunks, lastArrowOffset chunk = chunk.values.length) :
    readOffsetsFromArrowListColumn chunks =
      listOffsetsFrom (fun chunk => chunk.values.length) 0 chunks := by
  rw [readOffsetsFromArrowListColumn_eq]
  generalize 0 = s
  induction chunks generalizing s with
  | nil => rfl
  | cons chunk chunks ih =>
    simp only [listOffsetsFrom, hlast chunk (by simp),
      ih (fun c hc => hlast c (List.mem_cons_of_mem _ hc))]

/-! ## Row count, order and last offset -/

theorem length_listOffsetsFrom (step : Arrow.Array → Nat) (s : Nat) (chunks : ChunkedArray) :
    (listOffsetsFrom step s chunks).length =
      (chunks.map fun chunk => (chunk.offsets.drop 1).length).sum := by
  induction chunks generalizing s with
  | nil => rfl
  | cons chunk chunks ih => simp [listOffsetsFrom, ih]

theorem le_of_mem_listOffsetsFrom {step : Arrow.Array → Nat} {s x : Nat} {chunks : ChunkedArray}
    (hx : x ∈ listOffsetsFrom step s chunks) : s ≤ x := by
  induction chunks generalizing s with
  | nil => simp [listOffsetsFrom] at hx
  | cons chunk chunks ih =>
    simp only [listOffsetsFrom, List.mem_append, List.mem_map] at hx
    rcases hx with ⟨y, -, rfl⟩ | hx
    · omega
    · exact le_trans (by omega) (ih hx)

/-- In a sorted list every element is at most the last one. -/
theorem le_getLastD_of_sorted {l : List Nat} (hl : l.Sorted (· ≤ ·)) {x : Nat} (hx : x ∈ l) :
    x ≤ l.getLastD 0 := by
  induction l generalizing x with
  | nil => simp at hx
  | cons a l ih =>
    cases l with
    | nil => simp_all
    | cons b l =>
      show x ≤ (b :: l).getLastD 0
      rcases List.mem_cons.mp hx with rfl | hx
      · exact le_trans (List.rel_of_sorted_cons hl b (List.mem_cons_self _ _))
          (ih hl.of_cons (List.mem_cons_self _ _))
      · exact ih hl.of_cons hx

/-- The offsets of chunks with sorted Arrow offsets are sorted. -/
theorem sorted_listOffsetsFrom (s : Nat) (chunks : ChunkedArray)
    (hsorted : ∀ chunk ∈ chunks, chunk.offsets.Sorted (· ≤ ·)) :
    (listOffsetsFrom lastArrowOffset s chunks).Sorted (· ≤ ·) := by
  induction chunks generalizing s with
  | nil => exact List.sorted_nil
  | cons chunk chunks ih =>
    have hdrop : (chunk.offsets.drop 1).Sorted (· ≤ ·) :=
      (hsorted chunk (List.mem_cons_self _ _)).sublist (List.drop_sublist _ _)
    refine List.pairwise_append.mpr ⟨hdrop.map _ fun _ _ h => by omega,
      ih _ fun c hc => hsorted c (List.mem_cons_of_mem _ hc), ?_⟩
    simp only [List.mem_map]
    rintro _ ⟨y, hy, rfl⟩ z hz
    have := le_getLastD_of_sorted hdrop hy
    have := le_of_mem_listOffsetsFrom hz
    unfold lastArrowOffset at *
    omega

theorem getLastD_append_listOffsetsFrom (chunks : ChunkedArray) (acc : List Nat) :
    (acc ++ listOffsetsFrom lastArrowOffset (acc.getLastD 0) chunks).getLastD 0 =
      acc.getLastD 0 + (chunks.map lastArrowOffset).sum := by
  induction chunks generalizing acc with
  | nil => simp [listOffsetsFrom]
  | cons chunk chunks ih =>
    have hlast : (acc ++ (chunk.offsets.drop 1).map (acc.getLastD 0 + ·)).getLastD 0 =
        acc.getLastD 0 + lastArrowOffset chunk := by
      rw [getLastD_append_map_add, lastArrowOffset]
      split <;> simp_all
    rw [listOffsetsFrom, ← List.append_assoc, ← hlast, ih, hlast, List.map_cons, List.sum_cons,
      Nat.add_assoc]

/-- A list column has one offset per row. -/
theorem length_readOffsetsFromArrowListColumn (chunks : ChunkedArray)
    (hlist : ∀ chunk ∈ chunks, chunk.isList) :
    (readOffsetsFromArrowListColumn chunks).length = ChunkedArray.length chunks := by
  rw [readOffsetsFromArrowListColumn_eq, length_listOffsetsFrom, ChunkedArray.length]
  congr 1
  refine List.map_congr_left fun chunk hchunk => ?_
  have := hlist chunk hchunk
  cases chunk with
  | list => simp [Arrow.Array.offsets, Arrow.Array.length]
  | _ => simp [Arrow.Array.isList] at this

theorem sorted_readOffsetsFromArrowListColumn (chunks : ChunkedArray)
    (hsorted : ∀ chunk ∈ chunks, chunk.offsets.Sorted (· ≤ ·)) :
    (readOffsetsFromArrowListColumn chunks).Sorted (· ≤ ·) := by
  rw [readOffsetsFromArrowListColumn_eq]
  exact sorted_listOffsetsFrom 0 chunks hsorted

/-- The last offset is the sum of the chunks' last Arrow offsets. -/
theorem getLastD_readOffsetsFromArrowListColumn (chunks : ChunkedArray) :
    (readOffsetsFromArrowListColumn chunks).getLastD 0 = (chunks.map lastArrowOffset).sum := by
  rw [readOffsetsFromArrowListColumn_eq]
  simpa using getLastD_append_listOffsetsFrom chunks []

/-- Two `LIST<INT32>` chunks: the first holds `[5]`; the second is sliced to its second
row, `[20]`, over a values child `[10, 20]`. -/
def slicedListColumn : ChunkedArray :=
  [.list 1 0 none [0, 1] (.primitive 1 0 none [5, 0, 0, 0]),
   .list 1 1 none [0, 1, 2] (.primitive 2 0 none [10, 0, 0, 0, 20, 0, 0, 0])]

/-- On `slicedListColumn` the second row's offsets are 1 and 3, so it holds `[10, 20]`;
its elements are at positions 2 to 2 of the element column (`B 1 + o[0] = 1 + 1`). -/
theorem readColumnFromArrowColumn_sliced_list :
    ((slicedListColumn.getD 1 (.primitive 0 0 none [])).offsets = [1, 2]) ∧
      ((readColumnFromArrowColumn sampleDateBounds
        (.mk "l" (.list (.mk "item" .int32 false)) false) slicedListColumn
        "Parquet" true).run.run fun _ => none).1.map (fun column => column.column) =
        .ok (.array (.vector 4 [5, 10, 20]) [1, 3]) ∧
      (Column.array (.vector 4 [5, 10, 20]) [1, 3]).get 1 = .array [.number 10, .number 20] :=
  ⟨rfl, rfl, rfl⟩

end GlutenBridge
