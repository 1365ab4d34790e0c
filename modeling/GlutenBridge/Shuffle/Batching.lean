import GlutenBridge.Shuffle.Reader

/-!
# Re-batching: what one call gathers, and what a run returns

One call of `read` gathers a run of blocks: the loop invariant `Gathering` says the
run is made of non-empty blocks with the tags of its first block, and that each of
its proper prefixes stayed below every enabled threshold. The call stops only for
one of the three reasons of `Stopped`. `gather_spec` is the one-call lemma; the run
theorems follow from it by induction on the number of calls.
-/

set_option autoImplicit false

namespace GlutenBridge.Shuffle

variable {R : Type}

open Block

/-- Both totals of `blocks` are below every enabled threshold. -/
def Below (maxRows maxBytes : Int) (blocks : List (Block R)) : Prop :=
  (maxRows < 0 ∨ (totalRows blocks : Int) < maxRows) ∧
    (maxBytes < 0 ∨ (totalBytes blocks : Int) < maxBytes)

/-- The loop invariant of `readLoop` on the blocks gathered so far. -/
structure Gathering (maxRows maxBytes : Int) (blocks : List (Block R)) : Prop where
  rows_pos : ∀ b ∈ blocks, 0 < b.rows
  same_identity : ∀ b ∈ blocks, ∀ first ∈ blocks.head?, b.info = first.info
  prefix_below : ∀ k, 0 < k → k < blocks.length → Below maxRows maxBytes (blocks.take k)

/-- Why a call stopped gathering `blocks`, with `left` the blocks not yet returned:
the stream is exhausted, the next block has other tags, or a threshold is reached. -/
def Stopped (maxRows maxBytes : Int) (blocks left : List (Block R)) : Prop :=
  left = [] ∨ (∃ b ∈ left.head?, ∃ first ∈ blocks.head?, b.info ≠ first.info) ∨
    (blocks ≠ [] ∧ ¬Below maxRows maxBytes blocks)

theorem keepReading_eq_true {maxRows maxBytes : Int} {rows bytes : Nat} :
    keepReading maxRows maxBytes rows bytes = true ↔
      rows = 0 ∨ ((maxRows < 0 ∨ (rows : Int) < maxRows) ∧
        (maxBytes < 0 ∨ (bytes : Int) < maxBytes)) := by
  simp [keepReading]

theorem identityDiffers_eq_true {first block : Block R} :
    identityDiffers first block = true ↔ block.info ≠ first.info := by
  obtain ⟨_, _, ⟨o, n⟩⟩ := first
  obtain ⟨_, _, ⟨o', n'⟩⟩ := block
  simp only [identityDiffers, Bool.or_eq_true, bne_iff_ne, ne_eq, BlockInfo.mk.injEq]
  tauto

theorem totalRows_pos {blocks : List (Block R)} (hpos : ∀ b ∈ blocks, 0 < b.rows)
    (hne : blocks ≠ []) : 0 < totalRows blocks := by
  obtain ⟨b, t, rfl⟩ := List.exists_cons_of_ne_nil hne
  simpa using Nat.add_pos_left (hpos b (by simp)) _

/-- While blocks are gathered, the loop guard is the threshold test. -/
theorem keepReading_iff_below {maxRows maxBytes : Int} {blocks : List (Block R)}
    (hpos : ∀ b ∈ blocks, 0 < b.rows) (hne : blocks ≠ []) :
    keepReading maxRows maxBytes (totalRows blocks) (totalBytes blocks) = true ↔
      Below maxRows maxBytes blocks := by
  rw [keepReading_eq_true, Below]
  have := totalRows_pos hpos hne
  omega

namespace Gathering

variable {maxRows maxBytes : Int}

theorem nil : Gathering maxRows maxBytes ([] : List (Block R)) :=
  ⟨by simp, by simp, by simp⟩

theorem singleton {b : Block R} (hb : 0 < b.rows) : Gathering maxRows maxBytes [b] :=
  ⟨by simpa using hb, by simp, fun k hk hk' => by simp at hk'; omega⟩

/-- Appending a block of the same tags to a run that is still below the thresholds. -/
theorem snoc {blocks : List (Block R)} {b : Block R} (h : Gathering maxRows maxBytes blocks)
    (hb : 0 < b.rows) (hsame : ∀ first ∈ blocks.head?, b.info = first.info)
    (hbelow : blocks ≠ [] → Below maxRows maxBytes blocks) :
    Gathering maxRows maxBytes (blocks ++ [b]) := by
  cases blocks with
  | nil => simpa using singleton hb
  | cons a l =>
    refine ⟨?_, ?_, ?_⟩
    · simpa [or_imp, forall_and, and_assoc] using And.intro h.rows_pos hb
    · simpa [or_imp, forall_and] using And.intro h.same_identity hsame
    · intro k hk hk'
      rcases Nat.lt_or_ge k (a :: l).length with hlt | hge
      · rw [List.take_append_of_le_length hlt.le]
        exact h.prefix_below k hk hlt
      · have hk : k = (a :: l).length := by simp at hk' hge ⊢; omega
        rw [hk, List.take_left]
        exact hbelow (List.cons_ne_nil a l)

end Gathering

/-! ## One iteration of the loop -/

section Loop

variable {maxRows maxBytes : Int} {blocks : List (Block R)} {rows bytes : Nat}

theorem readLoop_of_stop (h : keepReading maxRows maxBytes rows bytes = false)
    (input : List (Block R)) :
    readLoop maxRows maxBytes blocks rows bytes input = (blocks, none, input) := by
  cases input <;> simp [readLoop, h]

theorem readLoop_nil (h : keepReading maxRows maxBytes rows bytes = true) :
    readLoop maxRows maxBytes blocks rows bytes [] = (blocks, none, []) := by
  simp [readLoop, h]

theorem readLoop_pending {first b : Block R} {t rest : List (Block R)}
    (h : keepReading maxRows maxBytes rows bytes = true) (hb : 0 < b.rows)
    (hd : b.info ≠ first.info) :
    readLoop maxRows maxBytes (first :: t) rows bytes (b :: rest) =
      (first :: t, some b, rest) := by
  have hd' : identityDiffers first b = true := identityDiffers_eq_true.2 hd
  simp [readLoop, h, hd', Nat.pos_iff_ne_zero.1 hb]

theorem readLoop_append {b : Block R} {rest : List (Block R)}
    (h : keepReading maxRows maxBytes rows bytes = true) (hb : 0 < b.rows)
    (hsame : ∀ first ∈ blocks.head?, b.info = first.info) :
    readLoop maxRows maxBytes blocks rows bytes (b :: rest) =
      readLoop maxRows maxBytes (blocks ++ [b]) (rows + b.rows) (bytes + b.bytes) rest := by
  cases blocks with
  | nil => simp [readLoop, h, Nat.pos_iff_ne_zero.1 hb]
  | cons first t =>
    have hd : identityDiffers first b = false :=
      Bool.eq_false_iff.2 fun hd => identityDiffers_eq_true.1 hd (hsame first rfl)
    conv_lhs => rw [readLoop]
    simp [h, hd, Nat.pos_iff_ne_zero.1 hb]

/-- The loop keeps its invariant and stops only for a reason of `Stopped`; what it
gathered and what it left are, together, what it started from. -/
theorem readLoop_spec :
    ∀ {input blocks : List (Block R)} {out : List (Block R)} {pend : Option (Block R)}
      {rest : List (Block R)}, (∀ b ∈ input, 0 < b.rows) → Gathering maxRows maxBytes blocks →
    readLoop maxRows maxBytes blocks (totalRows blocks) (totalBytes blocks) input =
      (out, pend, rest) →
    out ++ (pend.toList ++ rest) = blocks ++ input ∧ Gathering maxRows maxBytes out ∧
      Stopped maxRows maxBytes out (pend.toList ++ rest)
  | [], blocks, out, pend, rest, _, hinv, h => by
    have heq : (blocks, none, []) = (out, pend, rest) := by
      rw [← h]
      cases hk : keepReading maxRows maxBytes (totalRows blocks) (totalBytes blocks)
      · exact (readLoop_of_stop hk []).symm
      · exact (readLoop_nil hk).symm
    simp only [Prod.mk.injEq] at heq
    obtain ⟨rfl, rfl, rfl⟩ := heq
    exact ⟨by simp, hinv, Or.inl rfl⟩
  | b :: input, blocks, out, pend, rest, hin, hinv, h => by
    have hb : 0 < b.rows := hin b (by simp)
    cases hk : keepReading maxRows maxBytes (totalRows blocks) (totalBytes blocks) with
    | false =>
      have hne : blocks ≠ [] := by rintro rfl; simp [keepReading] at hk
      rw [readLoop_of_stop hk] at h
      simp only [Prod.mk.injEq] at h
      obtain ⟨rfl, rfl, rfl⟩ := h
      refine ⟨by simp, hinv, Or.inr (Or.inr ⟨hne, ?_⟩)⟩
      rw [← keepReading_iff_below hinv.rows_pos hne, hk]
      simp
    | true =>
      by_cases hsame : ∀ first ∈ blocks.head?, b.info = first.info
      · rw [readLoop_append hk hb hsame] at h
        have hbelow : blocks ≠ [] → Below maxRows maxBytes blocks := fun hne =>
          (keepReading_iff_below hinv.rows_pos hne).1 hk
        have hinv' := hinv.snoc hb hsame hbelow
        have := readLoop_spec (fun x hx => hin x (List.mem_cons_of_mem _ hx)) hinv'
          (by simpa using h)
        simpa using this
      · obtain ⟨first, hfirst, hd⟩ : ∃ first ∈ blocks.head?, b.info ≠ first.info := by
          simpa using hsame
        obtain ⟨t, rfl⟩ : ∃ t, blocks = first :: t := by
          cases blocks <;> simp_all
        rw [readLoop_pending hk hb hd] at h
        simp only [Prod.mk.injEq] at h
        obtain ⟨rfl, rfl, rfl⟩ := h
        exact ⟨by simp, hinv, Or.inr (Or.inl ⟨b, by simp, first, by simp, hd⟩)⟩

end Loop

@[simp] theorem rows_finalBlock (blocks : List (Block R)) :
    (finalBlock blocks).rows = totalRows blocks := by
  cases blocks with
  | nil => rfl
  | cons b t => exact rows_concatenateBlocks (b :: t)

theorem info_finalBlock {first : Block R} {blocks : List (Block R)}
    (h : first ∈ blocks.head?) : (finalBlock blocks).info = first.info := by
  cases blocks with
  | nil => simp at h
  | cons b t => simp at h; subst h; rfl

namespace ShuffleReader

/-- Every block not yet returned has rows: the decoder's blocks are non-empty. -/
def Wf (r : ShuffleReader R) : Prop := ∀ b ∈ r.remaining, 0 < b.rows

/-- One call of `read`: the blocks it gathers are a prefix of those not yet returned,
they form a `Gathering`, the call stopped for a reason of `Stopped`, and the
thresholds are unchanged. -/
theorem gather_spec {r r' : ShuffleReader R} {blocks : List (Block R)} (hwf : r.Wf)
    (h : r.gather = (blocks, r')) :
    blocks ++ r'.remaining = r.remaining ∧
      Gathering r.max_shuffle_read_rows r.max_shuffle_read_bytes blocks ∧
      Stopped r.max_shuffle_read_rows r.max_shuffle_read_bytes blocks r'.remaining ∧
      r'.max_shuffle_read_rows = r.max_shuffle_read_rows ∧
      r'.max_shuffle_read_bytes = r.max_shuffle_read_bytes := by
  have hseed : Gathering r.max_shuffle_read_rows r.max_shuffle_read_bytes
      r.pending_block.toList := by
    cases hp : r.pending_block with
    | none => exact Gathering.nil
    | some p => exact Gathering.singleton (hwf p (by simp [remaining, hp]))
  have hin : ∀ b ∈ r.input_stream, 0 < b.rows := fun b hb =>
    hwf b (List.mem_append_right _ hb)
  rcases hl : readLoop r.max_shuffle_read_rows r.max_shuffle_read_bytes r.pending_block.toList
    (totalRows r.pending_block.toList) (totalBytes r.pending_block.toList) r.input_stream
    with ⟨out, pend, rest⟩
  simp only [gather, hl, Prod.mk.injEq] at h
  obtain ⟨rfl, rfl⟩ := h
  obtain ⟨happ, hinv, hstop⟩ := readLoop_spec hin hseed hl
  exact ⟨happ, hinv, hstop, rfl, rfl⟩

theorem Wf.of_append {r : ShuffleReader R} {blocks rest : List (Block R)} (hwf : r.Wf)
    (h : blocks ++ rest = r.remaining) : ∀ b ∈ rest, 0 < b.rows := fun b hb =>
  hwf b (h ▸ List.mem_append_right _ hb)

/-- After any number of calls, the blocks not yet returned are a suffix of those of
the start, and the thresholds are those of the start. -/
theorem after_spec : ∀ (n : Nat) {r : ShuffleReader R}, r.Wf →
    ∃ before, r.remaining = before ++ (r.after n).remaining ∧ (r.after n).Wf ∧
      (r.after n).max_shuffle_read_rows = r.max_shuffle_read_rows ∧
      (r.after n).max_shuffle_read_bytes = r.max_shuffle_read_bytes
  | 0, r, hwf => ⟨[], rfl, hwf, rfl, rfl⟩
  | n + 1, r, hwf => by
    obtain ⟨happ, -, -, hrows, hbytes⟩ := gather_spec hwf (Prod.mk.eta (p := r.gather)).symm
    obtain ⟨before, hb, hwf', hr, hy⟩ := after_spec n (Wf.of_append hwf happ)
    refine ⟨r.gather.1 ++ before, ?_, hwf', hr.trans hrows, hy.trans hbytes⟩
    rw [← happ, List.append_assoc, hb]
    rfl

/-- An exhausted reader returns the empty chunk on every call. -/
theorem chunks_of_remaining_nil : ∀ (n : Nat) {r : ShuffleReader R}, r.remaining = [] →
    r.chunks n = List.replicate n Block.empty
  | 0, _, _ => rfl
  | n + 1, r, hr => by
    have hwf : r.Wf := by simp [Wf, hr]
    obtain ⟨happ, -⟩ := gather_spec hwf (Prod.mk.eta (p := r.gather)).symm
    rw [hr, List.append_eq_nil] at happ
    simp only [chunks, read, happ.1, finalBlock, List.replicate_succ, List.cons.injEq,
      true_and]
    exact chunks_of_remaining_nil n happ.2

theorem take_append_replicate_succ {α : Type} (l : List α) (a : α) (n : Nat) :
    (l ++ List.replicate (n + 1) a).take n = (l ++ List.replicate n a).take n := by
  simp only [List.take_append_eq_append_take, List.take_replicate]
  congr 2
  omega

/-- From any state whose blocks have rows, the calls return the chunks of a
partition of the blocks not yet returned into non-empty runs, then empty chunks. -/
theorem chunks_partition (r : ShuffleReader R) (hwf : r.Wf) :
    ∃ runs : List (List (Block R)), runs.flatten = r.remaining ∧
      (∀ run ∈ runs, run ≠ [] ∧ 0 < (finalBlock run).rows) ∧
      ∀ n, r.chunks n = (runs.map finalBlock ++ List.replicate n Block.empty).take n := by
  obtain ⟨len, hlen⟩ : ∃ len, r.remaining.length = len := ⟨_, rfl⟩
  induction len using Nat.strong_induction_on generalizing r with
  | _ len ih =>
    rcases hrem : r.remaining with _ | ⟨b, t⟩
    · exact ⟨[], by simp, by simp, fun n => by simp [chunks_of_remaining_nil n hrem]⟩
    obtain ⟨happ, hinv, hstop, -⟩ := gather_spec hwf (Prod.mk.eta (p := r.gather)).symm
    have hne : r.gather.1 ≠ [] := by
      intro h0
      rw [h0] at hstop happ
      rcases hstop with h | ⟨_, _, _, h, _⟩ | ⟨h, _⟩
      · rw [List.nil_append, h, hrem] at happ
        cases happ
      · cases h
      · exact h rfl
    have hshort : r.gather.2.remaining.length < len := by
      have := congrArg List.length happ
      simp only [List.length_append] at this
      have := List.length_pos.2 hne
      omega
    obtain ⟨runs, hflat, hruns, hchunks⟩ :=
      ih _ hshort r.gather.2 (Wf.of_append hwf happ) rfl
    refine ⟨r.gather.1 :: runs, by simp [hflat, happ, hrem], ?_, ?_⟩
    · simp only [List.mem_cons, forall_eq_or_imp]
      exact ⟨⟨hne, by simpa using totalRows_pos hinv.rows_pos hne⟩, hruns⟩
    · intro n
      cases n with
      | zero => rfl
      | succ n =>
        simp only [chunks, read, hchunks n, List.map_cons, List.cons_append,
          List.take_succ_cons, take_append_replicate_succ]

theorem create_wf {input : List (Block R)} (hin : ∀ b ∈ input, 0 < b.rows)
    (maxRows maxBytes : Int) : (create input maxRows maxBytes).Wf := by
  simpa [Wf, remaining, create] using hin

end ShuffleReader

/-! ## Runs of the reader over a decoder -/

open ShuffleReader

/-- The spec's three-block stream: two 5-row blocks of bucket 0, then one of bucket 1. -/
def sampleStream : List (Block Unit) :=
  [⟨List.replicate 5 (), 5, ⟨false, 0⟩⟩, ⟨List.replicate 5 (), 5, ⟨false, 0⟩⟩,
    ⟨List.replicate 5 (), 5, ⟨false, 1⟩⟩]

/-- No chunk mixes identities: every call, the ones seeded from a pending block
included, returns the concatenation of input blocks that all carry the chunk's
`(is_overflows, bucket_num)`. -/
theorem read_chunk_single_identity (input : List (Block R)) (hin : ∀ b ∈ input, 0 < b.rows)
    (maxRows maxBytes : Int) (n : Nat) :
    let r := (create input maxRows maxBytes).after n
    ∃ blocks, r.read.1 = finalBlock blocks ∧ ∀ b ∈ blocks, b ∈ input ∧ b.info = r.read.1.info := by
  intro r
  obtain ⟨before, hpre, hwf, -⟩ := after_spec n (create_wf hin maxRows maxBytes)
  obtain ⟨happ, hinv, -⟩ := gather_spec hwf (Prod.mk.eta (p := r.gather)).symm
  refine ⟨r.gather.1, rfl, fun b hb => ⟨?_, ?_⟩⟩
  · have hinput : input = before ++ (r.gather.1 ++ r.gather.2.remaining) := by
      rw [happ]; exact hpre
    rw [hinput]
    simp [hb]
  · obtain ⟨first, hfirst⟩ : ∃ first, first ∈ r.gather.1.head? := by
      cases h : r.gather.1 with
      | nil => simp [h] at hb
      | cons a _ => exact ⟨a, rfl⟩
    rw [show r.read.1 = finalBlock r.gather.1 from rfl, info_finalBlock hfirst]
    exact hinv.same_identity b hb first hfirst

theorem read_chunk_single_identity_sampleStream :
    (∀ b ∈ sampleStream, 0 < b.rows) ∧
      let r := (create sampleStream 100 (-1)).after 1
      ∃ blocks, r.read.1 = finalBlock blocks ∧
        ∀ b ∈ blocks, b ∈ sampleStream ∧ b.info = r.read.1.info :=
  ⟨by decide, read_chunk_single_identity sampleStream (by decide) 100 (-1) 1⟩

/-- Re-batching loses, duplicates, splits and reorders nothing: the calls return the
chunks of a partition of the input into non-empty runs of whole blocks, in order,
and then only empty chunks. -/
theorem read_chunks_partition_input (input : List (Block R))
    (hin : ∀ b ∈ input, 0 < b.rows) (maxRows maxBytes : Int) :
    ∃ runs : List (List (Block R)), runs.flatten = input ∧
      (∀ run ∈ runs, run ≠ [] ∧ 0 < (finalBlock run).rows) ∧
      ∀ n, (create input maxRows maxBytes).chunks n =
        (runs.map finalBlock ++ List.replicate n Block.empty).take n := by
  simpa [remaining, create] using chunks_partition _ (create_wf hin maxRows maxBytes)

theorem read_chunks_partition_input_sampleStream :
    (∀ b ∈ sampleStream, 0 < b.rows) ∧
      ∃ runs : List (List (Block Unit)), runs.flatten = sampleStream ∧
        (∀ run ∈ runs, run ≠ [] ∧ 0 < (finalBlock run).rows) ∧
        ∀ n, (create sampleStream 100 (-1)).chunks n =
          (runs.map finalBlock ++ List.replicate n Block.empty).take n :=
  ⟨by decide, read_chunks_partition_input sampleStream (by decide) 100 (-1)⟩

/-- The spec's example: with `max_rows = 100` the stream gives chunks of 10 and 5 rows. -/
example : ((create sampleStream 100 (-1)).chunks 3).map Block.rows = [10, 5, 0] := by
  decide

/-- Chunks are cut exactly by the greedy rule: every proper prefix of a chunk's run is
below every enabled threshold, and the run ends at the end of the stream, before a
block of other tags, or once a total reaches an enabled threshold. -/
theorem read_chunk_greedy_cut (input : List (Block R)) (hin : ∀ b ∈ input, 0 < b.rows)
    (maxRows maxBytes : Int) (n : Nat) :
    let r := (create input maxRows maxBytes).after n
    (∃ before, input = before ++ r.gather.1 ++ r.read.2.remaining) ∧
      r.read.1 = finalBlock r.gather.1 ∧
      (∀ k, 0 < k → k < r.gather.1.length → Below maxRows maxBytes (r.gather.1.take k)) ∧
      (r.read.2.remaining = [] ∨
        (∃ b ∈ r.read.2.remaining.head?, ∃ first ∈ r.gather.1.head?, b.info ≠ first.info) ∨
        ¬Below maxRows maxBytes r.gather.1) := by
  intro r
  obtain ⟨before, hpre, hwf, hrows, hbytes⟩ := after_spec n (create_wf hin maxRows maxBytes)
  obtain ⟨happ, hinv, hstop, -⟩ := gather_spec hwf (Prod.mk.eta (p := r.gather)).symm
  rw [show r.max_shuffle_read_rows = maxRows from hrows,
    show r.max_shuffle_read_bytes = maxBytes from hbytes] at hinv hstop
  refine ⟨⟨before, ?_⟩, rfl, hinv.prefix_below, ?_⟩
  · rw [List.append_assoc]
    exact hpre.trans (congrArg _ happ.symm)
  · rcases hstop with h | h | ⟨-, h⟩
    exacts [Or.inl h, Or.inr (Or.inl h), Or.inr (Or.inr h)]

theorem read_chunk_greedy_cut_sampleStream :
    (∀ b ∈ sampleStream, 0 < b.rows) ∧
      let r := (create sampleStream 8 (-1)).after 0
      (∃ before, sampleStream = before ++ r.gather.1 ++ r.read.2.remaining) ∧
        r.read.1 = finalBlock r.gather.1 ∧
        (∀ k, 0 < k → k < r.gather.1.length → Below 8 (-1) (r.gather.1.take k)) ∧
        (r.read.2.remaining = [] ∨
          (∃ b ∈ r.read.2.remaining.head?, ∃ first ∈ r.gather.1.head?, b.info ≠ first.info) ∨
          ¬Below 8 (-1) r.gather.1) :=
  ⟨by decide, read_chunk_greedy_cut sampleStream (by decide) 8 (-1) 0⟩

end GlutenBridge.Shuffle
