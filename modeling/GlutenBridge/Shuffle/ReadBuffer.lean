import GlutenBridge.Shuffle.Block

/-!
# `ReadBufferFromByteArray::nextImpl`

The read buffer over a Java byte array, on which the shuffle reader's decoder reads. Its
state is the array `array_` of `array_size_` bytes, the working memory of
`memory.m_capacity` bytes, the working buffer the last call filled, and `read_pos_`, the
position of the next byte to copy. A call of `nextImpl` returns `false` once `read_pos_`
has reached `array_size_`; otherwise it copies the next `min(m_capacity, array_size_ -
read_pos_)` bytes with `GetByteArrayRegion` into the working buffer, advances `read_pos_`
past them and returns `true`.

`array_size_` is the length of the array, so the copied region always lies within it:
the state carries `read_pos_ ≤ array_size_`, which every call keeps.

`drain_flatten` is the round trip: a consumer calling `nextImpl` until it returns `false`
receives the array from the position on, in pieces of `m_capacity` bytes but for a last,
shorter one. `drain_zero_capacity` is the edge: with no working memory and bytes left,
every call returns `true` with an empty buffer and the position never moves.

`ReadBufferFromJavaInputStream::nextImpl` asks the Java stream to write at most
`m_capacity` bytes into the working memory and returns whether the count it answers is
positive, the working buffer then being the first `count` bytes of the memory. A consumer
receives what the stream wrote up to its first answer that is not positive
(`drain_javaAnswers`): an answer of 0 ends the data as `-1` does, and the answers after it
are never read.
-/

set_option autoImplicit false

namespace GlutenBridge.Shuffle

/-- The state of a `ReadBufferFromByteArray`. -/
structure ReadBufferFromByteArray where
  /-- The Java array `array_`; `array_size_` is its length. -/
  array : List UInt8
  /-- `memory.m_capacity`. -/
  capacity : Nat
  /-- The bytes the last successful call copied. -/
  working_buffer : List UInt8
  read_pos : Nat
  read_pos_le : read_pos ≤ array.length

namespace ReadBufferFromByteArray

/-- `ReadBufferFromByteArray::nextImpl`: whether bytes were copied, and the state after. -/
def nextImpl (buf : ReadBufferFromByteArray) : Bool × ReadBufferFromByteArray :=
  if buf.array.length ≤ buf.read_pos then (false, buf)
  else
    let read_size := min buf.capacity (buf.array.length - buf.read_pos)
    (true, { buf with
      working_buffer := (buf.array.drop buf.read_pos).take read_size
      read_pos := buf.read_pos + read_size
      read_pos_le := by have := buf.read_pos_le; omega })

/-- The working buffers of successive calls of `nextImpl`, at most `fuel` of them, up to
the first call that returns `false`; and the state after the last call. -/
def drain : Nat → ReadBufferFromByteArray → List (List UInt8) × ReadBufferFromByteArray
  | 0, buf => ([], buf)
  | fuel + 1, buf =>
    match nextImpl buf with
    | (false, buf') => ([], buf')
    | (true, buf') =>
      let (pieces, last) := drain fuel buf'
      (buf'.working_buffer :: pieces, last)

section Step

variable (buf : ReadBufferFromByteArray)

theorem nextImpl_of_le (h : buf.array.length ≤ buf.read_pos) : nextImpl buf = (false, buf) :=
  if_pos h

/-- A call with bytes left copies the next `min(capacity, rest)` of them and moves the
position past them; the array and the capacity stay. -/
theorem nextImpl_of_lt (h : buf.read_pos < buf.array.length) :
    ∃ buf', nextImpl buf = (true, buf') ∧ buf'.array = buf.array ∧
      buf'.capacity = buf.capacity ∧
      buf'.working_buffer = (buf.array.drop buf.read_pos).take
        (min buf.capacity (buf.array.length - buf.read_pos)) ∧
      buf'.read_pos = buf.read_pos + min buf.capacity (buf.array.length - buf.read_pos) :=
  ⟨_, if_neg (Nat.not_le.2 h), rfl, rfl, rfl, rfl⟩

theorem drain_of_le (h : buf.array.length ≤ buf.read_pos) (fuel : Nat) :
    drain fuel buf = ([], buf) := by
  cases fuel <;> simp [drain, nextImpl_of_le buf h]

end Step

/-- Reading until `nextImpl` returns `false` delivers the array from the position on: the
pieces concatenate to the unread bytes, none is empty, all but the last fill the working
memory, and the buffer ends exhausted. `fuel` bounds the number of calls; one per unread
byte, and one more for the final `false`, is enough. -/
theorem drain_flatten : ∀ (fuel : Nat) (buf : ReadBufferFromByteArray),
    0 < buf.capacity → buf.array.length - buf.read_pos < fuel →
      (drain fuel buf).1.flatten = buf.array.drop buf.read_pos ∧
        (∀ piece ∈ (drain fuel buf).1, piece ≠ []) ∧
        (∀ piece ∈ (drain fuel buf).1.dropLast, piece.length = buf.capacity) ∧
        (drain fuel buf).2.read_pos = buf.array.length
  | 0, _, _, hfuel => absurd hfuel (Nat.not_lt_zero _)
  | fuel + 1, buf, hcap, hfuel => by
    by_cases h : buf.array.length ≤ buf.read_pos
    · have hpos : buf.read_pos = buf.array.length := le_antisymm buf.read_pos_le h
      simp only [drain, nextImpl_of_le buf h]
      exact ⟨(List.drop_eq_nil_of_le h).symm, by simp, by simp, hpos⟩
    · obtain ⟨buf', hnext, harray, hcap', hwork, hpos⟩ := nextImpl_of_lt buf (Nat.not_le.1 h)
      have ⟨hflat, hne, hfull, hlast⟩ := drain_flatten fuel buf' (hcap' ▸ hcap)
        (by rw [harray, hpos]; omega)
      simp only [drain, hnext]
      rw [harray, hpos] at hflat
      rw [harray] at hlast
      refine ⟨?_, ?_, ?_, hlast⟩
      · rw [List.flatten_cons, hflat, hwork, ← List.drop_drop, List.take_append_drop]
      · simp only [List.mem_cons, forall_eq_or_imp]
        refine ⟨?_, hne⟩
        rw [hwork, ← List.length_pos, List.length_take, List.length_drop]
        omega
      · cases hpieces : (drain fuel buf').1 with
        | nil => simp
        | cons piece pieces =>
          have hlt : buf'.read_pos < buf.array.length := by
            by_contra hle
            rw [drain_of_le buf' (harray ▸ Nat.not_lt.1 hle)] at hpieces
            cases hpieces
          rw [hpieces] at hfull
          simp only [List.dropLast_cons₂, List.mem_cons, forall_eq_or_imp]
          refine ⟨?_, fun p hp => hcap' ▸ hfull p hp⟩
          rw [hwork, List.length_take, List.length_drop]
          omega

/-- Five bytes read through a working memory of two bytes. -/
def sampleByteArray : ReadBufferFromByteArray := ⟨[1, 2, 3, 4, 5], 2, [], 0, by decide⟩

example : (drain 4 sampleByteArray).1 = [[1, 2], [3, 4], [5]] := rfl

theorem drain_flatten_sampleByteArray :
    (0 < sampleByteArray.capacity ∧
      sampleByteArray.array.length - sampleByteArray.read_pos < 6) ∧
      (drain 6 sampleByteArray).1.flatten =
          sampleByteArray.array.drop sampleByteArray.read_pos ∧
        (∀ piece ∈ (drain 6 sampleByteArray).1, piece ≠ []) ∧
        (∀ piece ∈ (drain 6 sampleByteArray).1.dropLast,
          piece.length = sampleByteArray.capacity) ∧
        (drain 6 sampleByteArray).2.read_pos = sampleByteArray.array.length :=
  ⟨⟨by decide, by decide⟩, drain_flatten 6 sampleByteArray (by decide) (by decide)⟩

/-- With no working memory and bytes left, every call returns `true` with an empty
working buffer and leaves the position where it was: a consumer calling `nextImpl` until
it returns `false` never stops. -/
theorem drain_zero_capacity : ∀ (fuel : Nat) (buf : ReadBufferFromByteArray),
    buf.capacity = 0 → buf.read_pos < buf.array.length →
      drain fuel buf = (List.replicate fuel [], (drain fuel buf).2) ∧
        (drain fuel buf).2.read_pos = buf.read_pos
  | 0, _, _, _ => ⟨rfl, rfl⟩
  | fuel + 1, buf, hcap, hleft => by
    obtain ⟨buf', hnext, harray, hcap', hwork, hpos⟩ := nextImpl_of_lt buf hleft
    rw [hcap, Nat.zero_min, Nat.add_zero] at hpos
    rw [hcap, Nat.zero_min, List.take_zero] at hwork
    have ⟨hpieces, hlast⟩ := drain_zero_capacity fuel buf' (hcap'.trans hcap)
      (by rw [harray, hpos]; exact hleft)
    simp only [drain, hnext]
    rw [hpieces, hwork]
    exact ⟨rfl, hlast.trans hpos⟩

end ReadBufferFromByteArray

/-! ## `ReadBufferFromJavaInputStream` -/

/-- An answer of the Java stream's `read(address, size)`: the count it returns and the
bytes it writes at `address`. -/
structure JavaRead where
  count : Int
  written : List UInt8

/-- The state of a `ReadBufferFromJavaInputStream`: the working memory (`memory.m_capacity`
bytes), the working buffer, and the answers of the Java stream to the calls to come; past
them, the stream is at its end and answers `-1`. -/
structure ReadBufferFromJavaInputStream where
  memory : List UInt8
  working_buffer : List UInt8
  answers : List JavaRead

namespace ReadBufferFromJavaInputStream

/-- `readFromJava()`: the count the stream answers, the memory after it wrote its bytes
at the start, and the answers left. -/
def readFromJava (buf : ReadBufferFromJavaInputStream) :
    Int × List UInt8 × List JavaRead :=
  match buf.answers with
  | [] => (-1, buf.memory, [])
  | answer :: answers =>
    (answer.count, answer.written ++ buf.memory.drop answer.written.length, answers)

/-- `ReadBufferFromJavaInputStream::nextImpl`: whether the count is positive, and the
state after, whose working buffer is resized to the count when it is. -/
def nextImpl (buf : ReadBufferFromJavaInputStream) : Bool × ReadBufferFromJavaInputStream :=
  let (count, memory, answers) := readFromJava buf
  if 0 < count then (true, ⟨memory, memory.take count.toNat, answers⟩)
  else (false, { buf with memory := memory, answers := answers })

/-- The working buffers of successive calls of `nextImpl`, at most `fuel` of them, up to
the first call that returns `false`. -/
def drain : Nat → ReadBufferFromJavaInputStream → List (List UInt8)
  | 0, _ => []
  | fuel + 1, buf =>
    match nextImpl buf with
    | (false, _) => []
    | (true, buf') => buf'.working_buffer :: drain fuel buf'

/-- An answer that writes its count of bytes, no more than the working memory holds. -/
def AnswerFits (capacity : Nat) (answer : JavaRead) : Prop :=
  answer.written.length = answer.count.toNat ∧ answer.written.length ≤ capacity

instance (capacity : Nat) (answer : JavaRead) : Decidable (AnswerFits capacity answer) :=
  inferInstanceAs (Decidable (_ ∧ _))

/-- A consumer calling `nextImpl` until it returns `false` receives the bytes the stream
wrote, answer after answer, up to its first answer that is not positive, when each
earlier answer writes its count of bytes into the working memory. -/
theorem drain_javaAnswers : ∀ (fuel : Nat) (buf : ReadBufferFromJavaInputStream),
    (∀ answer ∈ buf.answers.takeWhile (0 < ·.count), AnswerFits buf.memory.length answer) →
      buf.answers.length < fuel →
      drain fuel buf = (buf.answers.takeWhile (0 < ·.count)).map (·.written)
  | 0, _, _, hfuel => absurd hfuel (Nat.not_lt_zero _)
  | fuel + 1, ⟨memory, working_buffer, []⟩, _, _ => by
    simp [drain, nextImpl, readFromJava]
  | fuel + 1, ⟨memory, working_buffer, answer :: answers⟩, hfits, hfuel => by
    dsimp only at hfits hfuel ⊢
    by_cases hpos : 0 < answer.count
    · have ⟨hcount, hcap⟩ := hfits answer (by simp [hpos])
      have hmemory : (answer.written ++ memory.drop answer.written.length).length =
          memory.length := by
        rw [List.length_append, List.length_drop]
        omega
      have hrest := drain_javaAnswers fuel
        ⟨answer.written ++ memory.drop answer.written.length,
          (answer.written ++ memory.drop answer.written.length).take answer.count.toNat, answers⟩
        (fun a ha => hmemory ▸ hfits a (by simp [hpos, ha]))
        (by dsimp only; simp only [List.length_cons] at hfuel; omega)
      dsimp only at hrest
      simp only [drain, nextImpl, readFromJava, if_pos hpos, List.takeWhile_cons, hpos,
        decide_True, if_true, List.map_cons]
      rw [hrest, ← hcount, List.take_left]
    · simp [drain, nextImpl, readFromJava, hpos]

/-- A stream that answers two bytes, then 0, then a byte that is never read. -/
def stalledJavaStream : ReadBufferFromJavaInputStream :=
  ⟨[0, 0, 0, 0], [], [⟨2, [1, 2]⟩, ⟨0, []⟩, ⟨1, [3]⟩]⟩

example : drain 5 stalledJavaStream = [[1, 2]] := rfl

theorem drain_javaAnswers_stalledJavaStream :
    ((∀ answer ∈ stalledJavaStream.answers.takeWhile (0 < ·.count),
        AnswerFits stalledJavaStream.memory.length answer) ∧
      stalledJavaStream.answers.length < 5) ∧
      drain 5 stalledJavaStream =
        (stalledJavaStream.answers.takeWhile (0 < ·.count)).map (·.written) :=
  ⟨⟨by decide, by decide⟩, drain_javaAnswers 5 stalledJavaStream (by decide) (by decide)⟩

end ReadBufferFromJavaInputStream

end GlutenBridge.Shuffle
