import GlutenBridge.Convert.Dictionary

/-!
# The cache is transparent for a column's own dictionaries

The cache holds dictionaries by local field name only, so an entry stored by another
column of the same name is reused whatever it was built from
(`readColumnFromArrowColumn_reuses_cached_dictionary`). An entry the column itself would
store there is harmless: from a cache whose entry at each dictionary name of the field is
absent or the one the conversion from an empty cache stores there, the conversion returns
what it returns from an empty cache (`readColumnFromArrowColumn_eq_of_own_dictionaries`).
A hit on such an entry skips the conversion of the dictionary values, which then must not
matter: converted as the nullable field `"dict"`, values that succeed leave the cache as it
was (`readColumnFromArrowColumn_dictionary_values_keep_cache`), since `Nullable` refuses
every nested column; and values that fail must not have stored, under the dictionary's own
name, the entry the hit then uses (`noSelfCollision`).

The proof runs the conversion from the two caches side by side. `Ahead O M c₁ c₂` relates
the caches at the names `M`: `c₁` holds what `c₂` holds or, where `c₂` has nothing yet,
what the second run will have stored by its end `O`. Every step of the converter keeps the
relation and returns the same thing from both caches (`Transparent`), by one rule per way a
step is built; the dictionary lookup, where only the first run may hit, is proved apart
(`readNonNullable_dictionary_transparent`).
-/

set_option autoImplicit false

namespace GlutenBridge

open Arrow DB

variable (bounds : DateBounds)

/-! ## Dictionary values that convert leave the cache as it was -/

/-- A type that converts only through a dictionary name: a scalar type has none. -/
theorem typeDictNames_of_not_isNested (column_name : String) {type : Arrow.DataType}
    (htype : type.isNested = false) : typeDictNames column_name type = [] := by
  cases type <;> first | rfl | cases htype

/-- Dictionary values that convert, as the nullable field `"dict"`, leave the cache as it
was: a `CHStringArray` first chunk is taken as it is, a scalar type reads and writes no
dictionary, and `Nullable` refuses the column of a list, a map, a struct or a dictionary. -/
theorem readColumnFromArrowColumn_dictionary_values_keep_cache (value_type : Arrow.DataType)
    (arrow_column : ChunkedArray) (format_name : String) (read_ints_as_dates : Bool)
    (cache : DictionaryValues) {dict_column : ColumnWithTypeAndName}
    (h : ((readColumnFromArrowColumn bounds (.mk "dict" value_type true) arrow_column format_name
      read_ints_as_dates).run.run cache).1 = .ok dict_column) :
    ((readColumnFromArrowColumn bounds (.mk "dict" value_type true) arrow_column format_name
      read_ints_as_dates).run.run cache).2 = cache := by
  by_cases hhead : ∀ c l o v, arrow_column.head? ≠ some (.chString c l o v)
  · cases hnested : value_type.isNested
    · funext name
      exact readColumnFromArrowColumn_frame bounds (.mk "dict" value_type true) arrow_column
        format_name read_ints_as_dates name
        (by simp [dictNames, typeDictNames_of_not_isNested _ hnested]) cache
    · have hrefused := @readNullable_refused "dict" arrow_column _
        (readNonNullable_refused bounds "dict" value_type hnested arrow_column hhead format_name
          read_ints_as_dates) cache trivial
      rw [← readColumnFromArrowColumn_mk] at hrefused
      exact (hrefused.2 dict_column h).elim
  · push_neg at hhead
    obtain ⟨c, l, o, v, hc⟩ := hhead
    rw [readColumnFromArrowColumn_mk, readNullable_run,
      readNonNullable_of_chString bounds "dict" value_type hc]
    dsimp only
    split <;> rfl

/-! ## Fields whose dictionaries never store under their own name -/

mutual
/-- No dictionary of the field has its own name among the dictionary names of its values.
Such values, when they fail, have stored nothing under the name, so that a run from a cache
holding the entry the failed run leaves there does not hit where the failed run missed. -/
def noSelfCollision : Field → Bool
  | .mk name type _ => typeNoSelfCollision name type

/-- `noSelfCollision` of a field of name `name` and type `type`. -/
def typeNoSelfCollision (name : String) : Arrow.DataType → Bool
  | .list value_field => noSelfCollision value_field
  | .map entries => noSelfCollision entries
  | .struct fields => fieldsNoSelfCollision fields
  | .dictionary _ value_type =>
    decide (name ∉ typeDictNames "dict" value_type) && typeNoSelfCollision "dict" value_type
  | _ => true

/-- `noSelfCollision` of every member of a struct. -/
def fieldsNoSelfCollision : List Field → Bool
  | [] => true
  | field :: fields => noSelfCollision field && fieldsNoSelfCollision fields
end

/-! ## Two runs of one step -/

/-- At the names `M`, the cache `c₁` holds what `c₂` holds or, where `c₂` has no entry,
what `O` holds. -/
def Ahead (O : DictionaryValues) (M : List String) (c₁ c₂ : DictionaryValues) : Prop :=
  ∀ n ∈ M, c₁ n = c₂ n ∨ (c₂ n = none ∧ c₁ n = O n)

/-- `O` is where the run ending in `r` ends up: it holds every dictionary `r` leaves, and
it is `r`'s cache when `r` is an error, after which nothing runs. -/
def Settles {α : Type} (O : DictionaryValues) (r : Except Exception α × DictionaryValues) :
    Prop :=
  Extends r.2 O ∧ ∀ e, r.1 = .error e → r.2 = O

/-- A step is transparent at the names `N`: run from a cache `Ahead` of the cache of a
second run that ends up in `O`, it returns what the second run returns, and the two caches
it leaves are still so related, at every set of names that holds `N`. -/
def Transparent {α : Type} (N : List String) (x : ConvM α) : Prop :=
  ∀ M : List String, (∀ n ∈ N, n ∈ M) → ∀ O c₁ c₂, Ahead O M c₁ c₂ → Settles O (x.run.run c₂) →
    (x.run.run c₁).1 = (x.run.run c₂).1 ∧ Ahead O M (x.run.run c₁).2 (x.run.run c₂).2

namespace Ahead

variable {O : DictionaryValues} {M : List String} {c₁ c₂ : DictionaryValues}

/-- Both runs store the same entry under one name. -/
theorem update (h : Ahead O M c₁ c₂) (name : String) (v : Option ColumnWithTypeAndName) :
    Ahead O M (Function.update c₁ name v) (Function.update c₂ name v) := by
  intro n hn
  rcases eq_or_ne n name with rfl | hne
  · exact .inl (by simp only [Function.update_same])
  · simpa only [Function.update_noteq hne] using h n hn

/-- The second run stores the entry the first run already holds. -/
theorem update_right (h : Ahead O M c₁ c₂) {name : String} {v : Option ColumnWithTypeAndName}
    (hv : c₁ name = v) : Ahead O M c₁ (Function.update c₂ name v) := by
  simpa only [← hv, Function.update_eq_self] using h.update name v

end Ahead

namespace Transparent

variable {α β : Type} {N : List String}

theorem pure (a : α) : Transparent N (Pure.pure a : ConvM α) :=
  fun _ _ _ _ _ h _ => ⟨rfl, h⟩

theorem throw (e : Exception) : Transparent N (MonadExcept.throw e : ConvM α) :=
  fun _ _ _ _ _ h _ => ⟨rfl, h⟩

theorem ofExcept (x : Except Exception α) : Transparent N (ConvM.ofExcept x) := by
  cases x
  exacts [throw _, pure _]

theorem mono {N' : List String} {x : ConvM α} (hx : Transparent N x) (hN : ∀ n ∈ N, n ∈ N') :
    Transparent N' x :=
  fun M hM => hx M fun n hn => hM n (hN n hn)

/-- Sequencing: where the second run goes on, its continuation only adds dictionaries, so
where the first step's second run ends up is still `O`. -/
theorem bind {x : ConvM α} {f : α → ConvM β} (hx : Transparent N x)
    (hf : ∀ a, Transparent N (f a)) (hgrows : ∀ a c₀, Keeps (Extends c₀) (fun _ => True) (f a)) :
    Transparent N (x >>= f) := by
  intro M hM O c₁ c₂ h hO
  have hsettles : Settles O (x.run.run c₂) := by
    revert hO
    rw [ConvM.run_bind]
    rcases x.run.run c₂ with ⟨_ | a, d₂⟩
    · exact fun hO => ⟨hO.1, fun _ _ => hO.2 _ rfl⟩
    · exact fun hO => ⟨(hgrows a d₂ d₂ (Extends.refl d₂)).1.trans hO.1, fun _ h => nomatch h⟩
  have hx' := hx M hM O c₁ c₂ h hsettles
  revert hO hx'
  rw [ConvM.run_bind, ConvM.run_bind]
  rcases x.run.run c₂ with ⟨_ | a, d₂⟩ <;> rcases x.run.run c₁ with ⟨_ | a', d₁⟩ <;>
    intro hO ⟨hr, hc⟩ <;> cases hr
  · exact ⟨rfl, hc⟩
  · exact hf a M hM O d₁ d₂ hc hO

/-- A step that checks a value and returns. -/
theorem ofExcept_pure {γ : Type} (x : Except Exception α) (g : α → γ) :
    Transparent N (ConvM.ofExcept x >>= fun a => Pure.pure (g a)) :=
  (ofExcept x).bind (fun _ => pure _) fun _ _ => keeps_pure_true _

/-- The `CHStringArray` fast path. -/
theorem fastPath {column_name : String} {arrow_column : ChunkedArray}
    {body : ConvM ColumnWithTypeAndName} (hbody : Transparent N body) :
    Transparent N (match arrow_column.head? with
      | some (.chString column _ _ _) => Pure.pure { column with name := column_name }
      | _ => body) := by
  split
  exacts [pure _, hbody]

/-- The nullable wrapper. -/
theorem readNullable {column_name : String} {arrow_column : ChunkedArray}
    {nested : ConvM ColumnWithTypeAndName} (h : Transparent N nested) :
    Transparent N (GlutenBridge.readNullable column_name arrow_column nested) :=
  h.bind (fun _ => ofExcept_pure _ _) fun _ _ => keeps_ofExcept_pure _ _

end Transparent

/-! ## The dictionary lookup -/

section Lookup

variable {O : DictionaryValues} {column_name : String} {index_type : Arrow.DataType}
  {arrow_column : ChunkedArray}

/-- Where the dictionary case's second run ends up, its run of the values, which stored
nothing under the name, ends up too. -/
theorem Settles.of_storeDictionary {r : Except Exception ColumnWithTypeAndName × DictionaryValues}
    (hr : r.2 column_name = none)
    (h : Settles O (storeDictionary column_name index_type arrow_column r)) : Settles O r := by
  rcases r with ⟨_ | dict_column, c⟩
  · exact h
  · revert h
    dsimp only [storeDictionary]
    split
    · exact fun h => ⟨h.1, fun _ h => nomatch h⟩
    · exact fun h => ⟨((Extends.refl c).update hr _).trans h.1, fun _ h => nomatch h⟩

/-- If the second run of the dictionary case ends up holding `d` under the name, its values
converted and `d` is the dictionary it stored. -/
theorem Settles.storeDictionary_eq {r : Except Exception ColumnWithTypeAndName × DictionaryValues}
    (hr : r.2 column_name = none) {d : ColumnWithTypeAndName} (hd : O column_name = some d)
    (h : Settles O (storeDictionary column_name index_type arrow_column r)) :
    ∃ dict_column, r.1 = .ok dict_column ∧
      storeDictionary column_name index_type arrow_column r =
        (lowCardinalityColumn column_name index_type arrow_column d,
          Function.update r.2 column_name (some d)) := by
  rcases r with ⟨_ | dict_column, c⟩ <;> dsimp only at hr
  · have hO : c = O := h.2 _ rfl
    rw [← hO, hr] at hd
    cases hd
  · revert h
    dsimp only [storeDictionary]
    split
    · intro h
      have hO : c = O := h.2 _ rfl
      rw [← hO, hr] at hd
      cases hd
    · intro h
      have hstored := h.1 column_name _ (Function.update_same _ _ _)
      rw [hd] at hstored
      cases hstored
      exact ⟨dict_column, rfl, rfl⟩

/-- Two runs of the values that agree go on alike. -/
theorem storeDictionary_transparent {M : List String}
    {r₁ r₂ : Except Exception ColumnWithTypeAndName × DictionaryValues} (hr : r₁.1 = r₂.1)
    (h : Ahead O M r₁.2 r₂.2) :
    (storeDictionary column_name index_type arrow_column r₁).1 =
        (storeDictionary column_name index_type arrow_column r₂).1 ∧
      Ahead O M (storeDictionary column_name index_type arrow_column r₁).2
        (storeDictionary column_name index_type arrow_column r₂).2 := by
  rcases r₁ with ⟨r, c₁⟩
  rcases r₂ with ⟨_, c₂⟩
  cases hr
  rcases r with _ | dict_column
  · exact ⟨rfl, h⟩
  · dsimp only [storeDictionary]
    split
    · exact ⟨rfl, h⟩
    · exact ⟨rfl, h.update _ _⟩

end Lookup

/-- The dictionary case: where the second run misses and stores, the first run either
misses too and converts the same values from a related cache, or hits the very dictionary
the second run stores, whose values then converted and left the cache as it was. -/
theorem readNonNullable_dictionary_transparent (column_name : String)
    (index_type value_type : Arrow.DataType) (arrow_column : ChunkedArray) (format_name : String)
    (read_ints_as_dates : Bool) (hcollision : column_name ∉ typeDictNames "dict" value_type)
    (hvalues : Transparent (typeDictNames "dict" value_type)
      (readColumnFromArrowColumn bounds (.mk "dict" value_type true)
        (arrow_column.map Arrow.Array.dictionary) format_name read_ints_as_dates)) :
    Transparent (typeDictNames column_name (.dictionary index_type value_type))
      (readNonNullable bounds column_name (.dictionary index_type value_type) arrow_column
        format_name read_ints_as_dates) := by
  intro M hM O c₁ c₂ h hO
  by_cases hhead : ∀ c l o v, arrow_column.head? ≠ some (.chString c l o v)
  swap
  · push_neg at hhead
    obtain ⟨c, l, o, v, hc⟩ := hhead
    rw [readNonNullable_of_chString bounds _ _ hc, readNonNullable_of_chString bounds _ _ hc]
    exact ⟨rfl, h⟩
  have hn : column_name ∈ M := hM _ (List.mem_cons_self _ _)
  rcases hc₂ : c₂ column_name with _ | d
  · have hframe := (readColumnFromArrowColumn_frame bounds (.mk "dict" value_type true)
      (arrow_column.map Arrow.Array.dictionary) format_name read_ints_as_dates column_name
      hcollision c₂).trans hc₂
    rw [readNonNullable_dictionary_of_uncached bounds column_name index_type value_type
      arrow_column format_name read_ints_as_dates c₂ hhead hc₂] at hO ⊢
    rcases hc₁ : c₁ column_name with _ | d
    · -- both runs miss and convert the values
      rw [readNonNullable_dictionary_of_uncached bounds column_name index_type value_type
        arrow_column format_name read_ints_as_dates c₁ hhead hc₁]
      obtain ⟨hr, hrel⟩ := hvalues M (fun n hn' => hM n (List.mem_cons_of_mem _ hn')) O c₁ c₂ h
        (Settles.of_storeDictionary hframe hO)
      exact storeDictionary_transparent hr hrel
    · -- the first run hits the dictionary the second run stores
      have hd : O column_name = some d := by
        rcases h column_name hn with h' | ⟨-, h'⟩ <;> rw [hc₁] at h'
        · rw [hc₂] at h'
          cases h'
        · exact h'.symm
      obtain ⟨dict_column, hdict, hstore⟩ := Settles.storeDictionary_eq hframe hd hO
      have hkeep := readColumnFromArrowColumn_dictionary_values_keep_cache bounds value_type _
        format_name read_ints_as_dates c₂ hdict
      rw [readNonNullable_dictionary_of_cached bounds column_name index_type value_type
        arrow_column format_name read_ints_as_dates c₁ d hhead hc₁, hstore, hkeep]
      exact ⟨rfl, h.update_right hc₁⟩
  · -- both runs hit the same dictionary
    have hc₁ : c₁ column_name = some d := by
      rcases h column_name hn with h' | ⟨h', -⟩ <;> rw [hc₂] at h'
      · exact h'
      · cases h'
    rw [readNonNullable_dictionary_of_cached bounds column_name index_type value_type
      arrow_column format_name read_ints_as_dates c₁ d hhead hc₁,
      readNonNullable_dictionary_of_cached bounds column_name index_type value_type
      arrow_column format_name read_ints_as_dates c₂ d hhead hc₂]
    exact ⟨rfl, h⟩

mutual
/-- Converting a field is transparent at its dictionary names. -/
theorem readColumnFromArrowColumn_transparent : ∀ (field : Field) (arrow_column : ChunkedArray)
    (format_name : String) (read_ints_as_dates : Bool), noSelfCollision field →
    Transparent (dictNames field)
      (readColumnFromArrowColumn bounds field arrow_column format_name read_ints_as_dates)
  | .mk column_name type is_nullable, arrow_column, format_name, read_ints_as_dates, hc => by
    have h := readNonNullable_transparent column_name type arrow_column format_name
      read_ints_as_dates hc
    rw [readColumnFromArrowColumn, dictNames]
    split
    exacts [Transparent.readNullable h, h]

theorem readNonNullable_transparent (column_name : String) : ∀ (type : Arrow.DataType)
    (arrow_column : ChunkedArray) (format_name : String) (read_ints_as_dates : Bool),
    typeNoSelfCollision column_name type →
    Transparent (typeDictNames column_name type)
      (readNonNullable bounds column_name type arrow_column format_name read_ints_as_dates)
  | .list value_field, arrow_column, format_name, read_ints_as_dates, hc => by
    rw [readNonNullable]
    exact Transparent.fastPath
      ((readColumnFromArrowColumn_transparent value_field _ format_name read_ints_as_dates
        hc).bind (fun _ => Transparent.ofExcept_pure _ _) fun _ _ => keeps_ofExcept_pure _ _)
  | .map entries, arrow_column, format_name, read_ints_as_dates, hc => by
    rw [readNonNullable]
    exact Transparent.fastPath
      ((readColumnFromArrowColumn_transparent entries _ format_name read_ints_as_dates hc).bind
        (fun _ => (Transparent.ofExcept _).bind (fun _ => Transparent.ofExcept_pure _ _)
          fun _ _ => keeps_ofExcept_pure _ _)
        fun _ _ => (Keeps.ofExcept fun _ _ => trivial).bind fun _ _ => keeps_ofExcept_pure _ _)
  | .struct fields, arrow_column, format_name, read_ints_as_dates, hc => by
    rw [readNonNullable]
    exact Transparent.fastPath
      ((readStructFields_transparent fields 0 arrow_column format_name read_ints_as_dates
        hc).bind (fun _ => Transparent.ofExcept_pure _ _) fun _ _ => keeps_ofExcept_pure _ _)
  | .dictionary index_type value_type, arrow_column, format_name, read_ints_as_dates, hc => by
    simp only [typeNoSelfCollision, Bool.and_eq_true, decide_eq_true_eq] at hc
    exact readNonNullable_dictionary_transparent bounds column_name index_type value_type
      arrow_column format_name read_ints_as_dates hc.1
      (readNonNullable_transparent "dict" value_type _ format_name read_ints_as_dates
        hc.2).readNullable
  | .other _, _, _, _, _ => by rw [readNonNullable]; exact Transparent.fastPath (.throw _)
  | .bool, _, _, _, _ | .uint8, _, _, _, _ | .int8, _, _, _, _ | .uint16, _, _, _, _
  | .int16, _, _, _, _ | .uint32, _, _, _, _ | .int32, _, _, _, _ | .uint64, _, _, _, _
  | .int64, _, _, _, _ | .halfFloat, _, _, _, _ | .float, _, _, _, _ | .double, _, _, _, _
  | .string, _, _, _, _ | .binary, _, _, _, _ | .date64, _, _, _, _
  | .timestamp _ _, _, _, _, _ => by
    rw [readNonNullable]; exact Transparent.fastPath (.pure _)
  | .date32, _, _, _, _ | .decimal128 _ _, _, _, _, _ | .decimal256 _ _, _, _, _, _ => by
    rw [readNonNullable]; exact Transparent.fastPath (.ofExcept _)

theorem readStructFields_transparent : ∀ (fields : List Field) (i : Nat)
    (arrow_column : ChunkedArray) (format_name : String) (read_ints_as_dates : Bool),
    fieldsNoSelfCollision fields →
    Transparent (fieldsDictNames fields)
      (readStructFields bounds fields i arrow_column format_name read_ints_as_dates)
  | [], _, _, _, _, _ => by rw [readStructFields]; exact .pure _
  | field :: fields, i, arrow_column, format_name, read_ints_as_dates, hc => by
    simp only [fieldsNoSelfCollision, Bool.and_eq_true] at hc
    rw [readStructFields, fieldsDictNames]
    exact ((readColumnFromArrowColumn_transparent field _ format_name read_ints_as_dates
      hc.1).mono fun _ => List.mem_append_left _).bind
        (fun _ => ((readStructFields_transparent fields (i + 1) arrow_column format_name
          read_ints_as_dates hc.2).mono fun _ => List.mem_append_right _).bind
            (fun _ => .pure _) fun _ _ => keeps_pure_true _)
        fun _ c₀ => (readStructFields_keeps_of_stores bounds (Extends c₀) fields (i + 1)
          arrow_column format_name read_ints_as_dates (keptByStores_extends c₀ _)).bind fun _ _ =>
            keeps_pure_true _
end

/-! ## The conversion from a cache of the column's own dictionaries -/

/-- From a cache whose entry at each dictionary name of the field is absent or the
dictionary that the conversion from an empty cache stores there, a field none of whose
dictionaries has its own name among the dictionary names of its values converts to what
it converts to from an empty cache. -/
theorem readColumnFromArrowColumn_eq_of_own_dictionaries (field : Field)
    (arrow_column : ChunkedArray) (format_name : String) (read_ints_as_dates : Bool)
    (dictionary_values : DictionaryValues) (hcollision : noSelfCollision field)
    (hown : ∀ n ∈ dictNames field, dictionary_values n = none ∨
      dictionary_values n = ((readColumnFromArrowColumn bounds field arrow_column format_name
        read_ints_as_dates).run.run fun _ => none).2 n) :
    ((readColumnFromArrowColumn bounds field arrow_column format_name read_ints_as_dates).run.run
        dictionary_values).1 =
      ((readColumnFromArrowColumn bounds field arrow_column format_name read_ints_as_dates).run.run
        fun _ => none).1 :=
  (readColumnFromArrowColumn_transparent bounds field arrow_column format_name read_ints_as_dates
    hcollision (dictNames field) (fun _ h => h) _ dictionary_values (fun _ => none)
    (fun n hn => (hown n hn).imp id fun h => ⟨rfl, h⟩) ⟨Extends.refl _, fun _ _ => rfl⟩).1

/-- The column `a` converted again after its own conversion: the cache holds under `item`
the dictionary the conversion itself stores, and the column is the one converted from an
empty cache. -/
theorem readColumnFromArrowColumn_eq_of_own_dictionaries_listA :
    noSelfCollision (listOfDictionaryField "a" "item") ∧
      (∀ n ∈ dictNames (listOfDictionaryField "a" "item"), cacheAfterListA n = none ∨
        cacheAfterListA n = ((readColumnFromArrowColumn sampleDateBounds
          (listOfDictionaryField "a" "item") (listOfDictionaryColumn 112 113 120) "Parquet"
          true).run.run fun _ => none).2 n) ∧
      ((readColumnFromArrowColumn sampleDateBounds (listOfDictionaryField "a" "item")
          (listOfDictionaryColumn 112 113 120) "Parquet" true).run.run cacheAfterListA).1 =
        ((readColumnFromArrowColumn sampleDateBounds (listOfDictionaryField "a" "item")
          (listOfDictionaryColumn 112 113 120) "Parquet" true).run.run fun _ => none).1 :=
  have hown : ∀ n ∈ dictNames (listOfDictionaryField "a" "item"), cacheAfterListA n = none ∨
      cacheAfterListA n = ((readColumnFromArrowColumn sampleDateBounds
        (listOfDictionaryField "a" "item") (listOfDictionaryColumn 112 113 120) "Parquet"
        true).run.run fun _ => none).2 n :=
    fun _ _ => .inr rfl
  ⟨rfl, hown, readColumnFromArrowColumn_eq_of_own_dictionaries sampleDateBounds _ _ _ _ _ rfl
    hown⟩

/-- A one-row dictionary column whose dictionary values are the one-row dictionary column
over `["a"]`. -/
def nestedDictionaryColumn : ChunkedArray :=
  [.dictEncoded (.primitive 1 0 none [0, 0, 0, 0])
    (.dictEncoded (.primitive 1 0 none [0, 0, 0, 0]) (.binary 1 0 none [0, 1] [97]))]

/-- `noSelfCollision` is needed: the field `dict` whose dictionary values are a dictionary
stores the inner dictionary under `dict` and throws, as `Nullable` refuses the inner
`LowCardinality` column; from the cache it leaves, the outer dictionary hits that entry
and converts. -/
example : noSelfCollision (.mk "dict" (.dictionary .int32 (.dictionary .int32 .string)) false) =
      false ∧
    ((readColumnFromArrowColumn sampleDateBounds
        (.mk "dict" (.dictionary .int32 (.dictionary .int32 .string)) false)
        nestedDictionaryColumn "Parquet" true).run.run fun _ => none).1.toBool = false ∧
    ((readColumnFromArrowColumn sampleDateBounds
        (.mk "dict" (.dictionary .int32 (.dictionary .int32 .string)) false)
        nestedDictionaryColumn "Parquet" true).run.run
      ((readColumnFromArrowColumn sampleDateBounds
        (.mk "dict" (.dictionary .int32 (.dictionary .int32 .string)) false)
        nestedDictionaryColumn "Parquet" true).run.run fun _ => none).2).1.toBool = true :=
  ⟨rfl, rfl, rfl⟩

end GlutenBridge
