import GlutenBridge.Convert.Column

/-!
# Rules for the converter's steps

`Keeps I P x` says that a step `x` of the converter, started from a cache satisfying
`I`, leaves a cache satisfying `I` and, when it returns, returns a value satisfying `P`.
Each way the converter builds a step (`pure`, `throw`, `ConvM.ofExcept`, a read or an
update of the cache, `bind`, the `CHStringArray` fast path, the nullable wrapper) has its
rule here, so that a property of `readColumnFromArrowColumn` is proved by following its
recursion on the field's type and citing one rule per step, never unfolding the monad.
-/

set_option autoImplicit false

namespace GlutenBridge

open Arrow DB

/-- A step keeps the cache invariant `I` and returns only values satisfying `P`. -/
def Keeps {α : Type} (I : DictionaryValues → Prop) (P : α → Prop) (x : ConvM α) : Prop :=
  ∀ dictionary_values, I dictionary_values →
    I (x.run.run dictionary_values).2 ∧ ∀ a, (x.run.run dictionary_values).1 = .ok a → P a

namespace Keeps

variable {I : DictionaryValues → Prop} {α β : Type} {P : α → Prop} {Q : β → Prop}

/-- Every step keeps the trivial invariant and returns a value. -/
theorem triv (x : ConvM α) : Keeps (fun _ => True) (fun _ => True) x :=
  fun _ _ => ⟨trivial, fun _ _ => trivial⟩

theorem pure {a : α} (h : P a) : Keeps I P (Pure.pure a : ConvM α) :=
  fun _ hc => ⟨hc, fun _ ha => Except.ok.inj ha ▸ h⟩

theorem throw (e : Exception) : Keeps I P (MonadExcept.throw e : ConvM α) :=
  fun _ hc => ⟨hc, fun _ ha => nomatch ha⟩

theorem ofExcept {x : Except Exception α} (h : ∀ a, x = .ok a → P a) :
    Keeps I P (ConvM.ofExcept x) := by
  cases x with
  | error e => exact throw e
  | ok a => exact pure (h a rfl)

theorem mono {P' : α → Prop} {x : ConvM α} (hx : Keeps I P x) (h : ∀ a, P a → P' a) :
    Keeps I P' x :=
  fun c hc => ⟨(hx c hc).1, fun a ha => h a ((hx c hc).2 a ha)⟩

theorem bind {x : ConvM α} {f : α → ConvM β} (hx : Keeps I P x)
    (hf : ∀ a, P a → Keeps I Q (f a)) : Keeps I Q (x >>= f) := by
  intro c hc
  have hxc := hx c hc
  rw [ConvM.run_bind]
  revert hxc
  rcases x.run.run c with ⟨_ | a, c'⟩ <;> intro ⟨hc', hP⟩
  · exact ⟨hc', fun _ h => nomatch h⟩
  · exact hf a (hP a rfl) c' hc'

theorem get_bind {f : DictionaryValues → ConvM β}
    (hf : ∀ cache, I cache → Keeps I Q (f cache)) : Keeps I Q (get >>= f) :=
  fun c hc => hf c hc c hc

theorem modify {f : DictionaryValues → DictionaryValues} (hf : ∀ cache, I cache → I (f cache)) :
    Keeps I (fun _ => True) (modify f : ConvM PUnit) :=
  fun c hc => ⟨hf c hc, fun _ _ => trivial⟩

/-- The `CHStringArray` fast path: its column satisfies `Q`, or the body does. -/
theorem fastPath {column_name : String} {arrow_column : ChunkedArray}
    {Q : ColumnWithTypeAndName → Prop} {body : ConvM ColumnWithTypeAndName}
    (hch : ∀ column length offset validity,
      arrow_column.head? = some (.chString column length offset validity) →
        Q { column with name := column_name })
    (hbody : Keeps I Q body) :
    Keeps I Q (match arrow_column.head? with
      | some (.chString column _ _ _) => Pure.pure { column with name := column_name }
      | _ => body) := by
  split
  · exact pure (hch _ _ _ _ ‹_›)
  · exact hbody

/-- The nullable wrapper: the nested column, wrapped with the byte map, when it returns. -/
theorem readNullable {column_name : String} {arrow_column : ChunkedArray}
    {P Q : ColumnWithTypeAndName → Prop} {nested : ConvM ColumnWithTypeAndName}
    (h : Keeps I P nested)
    (hQ : ∀ column, P column → Q ⟨.nullable column.column
      (readByteMapFromArrowColumn arrow_column), .nullable column.type, column_name⟩) :
    Keeps I Q (GlutenBridge.readNullable column_name arrow_column nested) :=
  h.bind fun column hcolumn => (ofExcept (P := fun t => t = .nullable column.type)
    fun _ => DataTypeNullable.create_eq_ok).bind fun _ htype => pure (htype ▸ hQ column hcolumn)

end Keeps

end GlutenBridge
