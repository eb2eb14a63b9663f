import MonetdbAdbc.Arrow.Hint

/-!
# Encodings that one call suggests to the next

The columns of a call suggest an encoding to the columns in their place in later calls:
HUGEINT when they are wide, the prepared encoding when their call goes by it, and else the
type that PyArrow infers for their values (`suggested`).  Later columns are undisturbed by it
(`Undisturbed`) when arrays can be built from them at the suggested types where they can at
the prepared ones, and they go by the same types and metadata.

`undisturbed_iff` connects this to the encoding of columns.
-/

namespace MonetDB

variable (A : PyArrow)

instance (values : List PyValue) (type : Option DataType) : Decidable (Builds A values type) :=
  match h : A.array values type with
  | .ok array => isTrue ⟨array, h⟩
  | .error _ => isFalse fun ⟨_, harray⟩ => by cases h.symm.trans harray

/-- The encoding asked of the column in a place. -/
def asked (encodings : Option (List Encoding)) (index : Nat) : Option Encoding :=
  encodings.bind (·[index]?)

/-- An array can be built from every column: at HUGEINT from a wide one, from another at the
type asked of it, or else at the inferred one. -/
def BuildsAt (encodings : Option (List Encoding)) (columns : List (List PyValue)) : Prop :=
  ∀ p ∈ columns.zipIdx,
    Builds A p.1 ((unhintedType p.1).or ((asked encodings p.2).map Prod.fst))

instance (encodings : Option (List Encoding)) (columns : List (List PyValue)) :
    Decidable (BuildsAt A encodings columns) :=
  inferInstanceAs (Decidable (∀ p ∈ columns.zipIdx, _))

/-- A column goes by the same encoding: the same one is asked of it, or no metadata and a type at
which PyArrow builds what it infers. -/
def SameEncoding (values : List PyValue) : Option Encoding → Option Encoding → Prop
  | some encoding, some encoding' => encoding = encoding'
  | none, none => True
  | some encoding, none | none, some encoding =>
      A.array values (some encoding.1) = A.array values none ∧ encoding.2 = none

/-- Columns that are not wide go by the same encodings at both. -/
def Alike (encodings encodings' : Option (List Encoding)) (columns : List (List PyValue)) :
    Prop :=
  ∀ p ∈ columns.zipIdx, ¬ isWide p.1 →
    SameEncoding A p.1 (asked encodings p.2) (asked encodings' p.2)

/-- The encodings that columns go by: those asked of them when one of the columns is wide or
arrays can be built from all of them so, and else none. -/
def followed (encodings : Option (List Encoding)) (columns : List (List PyValue)) :
    Option (List Encoding) :=
  if columns.any isWide ∨ BuildsAt A encodings columns then encodings else none

/-- The type that PyArrow infers for the values of a column, and no metadata. -/
def inferredEncoding (values : List PyValue) : Encoding :=
  (((A.array values none).toOption.map Column.type).getD .null, none)

/-- `decimal128(38, 0)` with the HUGEINT metadata. -/
def hugeIntEncoding : Encoding :=
  (.decimal128 38 0, some hugeIntMetadata)

/-- What columns suggest to those in their place in later calls. -/
def suggested (prepared : Option (List Encoding)) (columns : List (List PyValue)) :
    List Encoding :=
  columns.zipIdx.map fun p =>
    if isWide p.1 then hugeIntEncoding
    else (asked (followed A prepared columns) p.2).getD (inferredEncoding A p.1)

/-- Columns that can be encoded when the server prepared these encodings. -/
structure Encodable (prepared : Option (List Encoding)) (columns : List (List PyValue)) :
    Prop where
  /-- Arrays can be built from all of them without a schema. -/
  inferable : BuildsAt A none columns
  /-- If one of them is wide, they can be built as prepared. -/
  forced : columns.any isWide → BuildsAt A prepared columns
  /-- If none of them is wide, there are as many as prepared. -/
  counted : ¬ columns.any isWide → fits prepared columns

/-- The suggested encodings do not change how columns are encoded. -/
structure Undisturbed (prepared : Option (List Encoding)) (suggestion : List Encoding)
    (columns : List (List PyValue)) : Prop where
  /-- Columns that cannot be built without a schema cannot be built as suggested either, if
  one of them is wide or there are as many as suggested. -/
  rejects : ¬ BuildsAt A none columns → columns.any isWide ∨ fits (some suggestion) columns →
    ¬ BuildsAt A (some suggestion) columns
  /-- Columns with a wide one among them can be built as suggested exactly when they can as
  prepared. -/
  forced : BuildsAt A none columns → columns.any isWide →
    (BuildsAt A (some suggestion) columns ↔ BuildsAt A prepared columns)
  /-- Of other columns there are as many as suggested exactly when there are as many as
  prepared. -/
  counts : BuildsAt A none columns → ¬ columns.any isWide →
    (fits (some suggestion) columns ↔ fits prepared columns)
  /-- Columns that can be encoded are alike at the suggested encodings and at the prepared
  ones, as far as they go by them. -/
  alike : Encodable A prepared columns →
    Alike A (followed A (some suggestion) columns) (followed A prepared columns) columns

/-! ### Encoding columns -/

/-- The columns are encoded when arrays can be built from them. -/
theorem isSome_columnsAt (encodings : Option (List Encoding)) (columns : List (List PyValue)) :
  (columnsAt A encodings columns).isSome ↔ BuildsAt A encodings columns
  := by
  rw [columnsAt, Outcome.isSome_mapM]
  apply forall₂_congr
  intro p _
  apply isSome_columnAt

/-- Columns from which arrays cannot be built are not encoded. -/
theorem columnsAt_eq_none {encodings : Option (List Encoding)} {columns : List (List PyValue)}
    (h : ¬ BuildsAt A encodings columns) :
  columnsAt A encodings columns = none
  := by
  rw [← isSome_columnsAt] at h
  simpa using h

/-- The arrays that are built from a column at two types are the same only when the types are. -/
theorem type_eq_of_array_eq {values : List PyValue} {type type' : DataType}
    (h : Builds A values (some type))
    (heq : A.array values (some type) = A.array values (some type')) :
  type = type'
  := by
  obtain ⟨array, harray⟩ := h
  rw [← A.array_type harray, A.array_type (heq ▸ harray)]

/-- A column goes by the same encoding at two of them when the array and the metadata are the
same. -/
theorem sameEncoding_iff {values : List PyValue} {encoding encoding' : Option Encoding}
    (h : Builds A values (encoding.map Prod.fst)) :
  SameEncoding A values encoding encoding'
    ↔ A.array values (encoding.map Prod.fst) = A.array values (encoding'.map Prod.fst)
      ∧ encoding.bind Prod.snd = encoding'.bind Prod.snd
  := by
  cases encoding with
  | none =>
      cases encoding' with
      | none => simp only [SameEncoding, and_self]
      | some encoding' =>
          apply and_congr
          · apply eq_comm
          · apply eq_comm
  | some encoding =>
      cases encoding' with
      | none => exact Iff.rfl
      | some encoding' =>
          constructor
          · rintro rfl
            exact ⟨rfl, rfl⟩
          · rintro ⟨harray, hmetadata⟩
            apply Prod.ext
            · apply type_eq_of_array_eq A h harray
            · apply hmetadata

theorem SameEncoding.refl (values : List PyValue) (encoding : Option Encoding) :
  SameEncoding A values encoding encoding
  := by
  cases encoding with
  | none => trivial
  | some encoding => exact Eq.refl encoding

/-- A column that is not wide is encoded the same at two encodings when it goes by the same. -/
theorem columnAt_eq_iff {values : List PyValue} (hnarrow : ¬ isWide values)
    {encoding encoding' : Option Encoding} (h : Builds A values (encoding.map Prod.fst))
    (h' : Builds A values (encoding'.map Prod.fst)) :
  columnAt A encoding values = columnAt A encoding' values
    ↔ SameEncoding A values encoding encoding'
  := by
  rw [sameEncoding_iff A h]
  obtain ⟨array, harray⟩ := h
  obtain ⟨array', harray'⟩ := h'
  rw [columnAt_of_not_wide A (eq_false_of_ne_true hnarrow),
    columnAt_of_not_wide A (eq_false_of_ne_true hnarrow), harray, harray']
  simp [and_comm]

/-- Columns from which arrays can be built at two encodings are encoded the same at both when
they are alike. -/
theorem columnsAt_eq_iff {encodings encodings' : Option (List Encoding)}
    {columns : List (List PyValue)} (h : BuildsAt A encodings columns)
    (h' : BuildsAt A encodings' columns) :
  columnsAt A encodings columns = columnsAt A encodings' columns
    ↔ Alike A encodings encodings' columns
  := by
  rw [columnsAt, columnsAt, Outcome.mapM_eq_mapM_iff]
  · apply forall₂_congr
    intro p hp
    have hbuilds := h p hp
    have hbuilds' := h' p hp
    by_cases hwide : isWide p.1
    · rw [columnAt, columnAt, if_pos hwide, if_pos hwide]
      exact ⟨fun _ hnarrow => absurd hwide hnarrow, fun _ => rfl⟩
    · rw [unhintedType, if_neg hwide, Option.none_or] at hbuilds hbuilds'
      rw [imp_iff_right hwide]
      apply columnAt_eq_iff A hwide hbuilds hbuilds'
  · intro p hp
    apply (isSome_columnAt A _ _).mpr (h p hp)

/-- The encodings that columns go by, one of them wide, are those asked of them. -/
theorem followed_of_wide {columns : List (List PyValue)} (hwide : columns.any isWide)
    (encodings : Option (List Encoding)) :
  followed A encodings columns = encodings
  := if_pos (.inl hwide)

/-- The columns can be built at the encodings they go by when they can be as asked, or, with no
wide one among them, without a schema. -/
theorem buildsAt_followed_iff (encodings : Option (List Encoding))
    (columns : List (List PyValue)) :
  BuildsAt A (followed A encodings columns) columns
    ↔ BuildsAt A encodings columns ∨ ¬ columns.any isWide ∧ BuildsAt A none columns
  := by
  rw [followed]
  by_cases hwide : columns.any isWide
  · simp only [hwide, true_or, if_true, not_true_eq_false, false_and, or_false]
  · by_cases hbuilds : BuildsAt A encodings columns
    · simp only [hbuilds, or_true, if_true, true_or]
    · rw [if_neg (not_or.mpr ⟨hwide, hbuilds⟩)]
      simp only [hbuilds, false_or, and_iff_right hwide]

/-- Columns are encoded at the encodings they go by, provided that one is wide or that there
are as many as asked. -/
theorem encodedAt_eq (encodings : Option (List Encoding)) (columns : List (List PyValue)) :
  encodedAt A encodings columns
    = if columns.any isWide ∨ fits encodings columns then
        columnsAt A (followed A encodings columns) columns
      else none
  := by
  rw [encodedAt]
  by_cases hwide : columns.any isWide
  · rw [if_pos hwide, if_pos (.inl hwide), followed_of_wide A hwide]
  · by_cases hfits : fits encodings columns
    · rw [if_neg hwide, if_pos hfits, if_pos (.inr hfits), followed]
      by_cases hbuilds : BuildsAt A encodings columns
      · have hsome := (isSome_columnsAt A encodings columns).mpr hbuilds
        rw [if_pos (.inr hbuilds), Option.or_of_isSome hsome]
      · rw [if_neg (by simp [hwide, hbuilds]), columnsAt_eq_none A hbuilds, Option.none_or]
    · rw [if_neg hwide, if_neg hfits, if_neg (by simp [hwide, hfits])]

/-! ### First executions -/

/-- What the first execution of a statement binds for columns: it infers them, and then
encodes them at the schema the server prepared. -/
def coldContent (prepared : Option (List Encoding)) (columns : List (List PyValue)) :
    Option (List (Option Metadata × Column)) :=
  (columnsAt A none columns).bind fun _ => encodedAt A prepared columns

/-- Encodable columns can be built at the prepared encodings as far as they go by them. -/
theorem Encodable.buildsAt_followed {prepared : Option (List Encoding)}
    {columns : List (List PyValue)} (h : Encodable A prepared columns) :
  BuildsAt A (followed A prepared columns) columns
  := by
  rw [buildsAt_followed_iff]
  by_cases hwide : columns.any isWide
  · exact .inl (h.forced hwide)
  · exact .inr ⟨hwide, h.inferable⟩

/-- A first execution binds encodable columns at the prepared encodings as far as they go by
them. -/
theorem coldContent_of_encodable {prepared : Option (List Encoding)}
    {columns : List (List PyValue)} (h : Encodable A prepared columns) :
  coldContent A prepared columns = columnsAt A (followed A prepared columns) columns
  := by
  obtain ⟨inferred, hinferred⟩ :=
    Option.isSome_iff_exists.mp ((isSome_columnsAt A none columns).mpr h.inferable)
  have hencoded : columns.any isWide ∨ fits prepared columns := by
    by_cases hwide : columns.any isWide
    · exact .inl hwide
    · exact .inr (h.counted hwide)
  rw [coldContent, hinferred, Option.bind_some, encodedAt_eq, if_pos hencoded]

/-- A first execution binds only encodable columns. -/
theorem encodable_of_coldContent {prepared : Option (List Encoding)}
    {columns : List (List PyValue)} {content : List (Option Metadata × Column)}
    (h : coldContent A prepared columns = some content) :
  Encodable A prepared columns
  := by
  obtain ⟨inferred, hinferred, hencoded⟩ := Option.bind_eq_some_iff.mp h
  rw [encodedAt_eq] at hencoded
  split_ifs at hencoded with hcond
  have hbuilds := (isSome_columnsAt A _ _).mp (Option.isSome_of_eq_some hencoded)
  constructor
  · apply (isSome_columnsAt A _ _).mp (Option.isSome_of_eq_some hinferred)
  · intro hwide
    rw [followed_of_wide A hwide] at hbuilds
    apply hbuilds
  · intro hnot
    apply hcond.resolve_left hnot

theorem isSome_coldContent_iff (prepared : Option (List Encoding))
    (columns : List (List PyValue)) :
  (coldContent A prepared columns).isSome ↔ Encodable A prepared columns
  := by
  constructor
  · intro h
    obtain ⟨content, hcontent⟩ := Option.isSome_iff_exists.mp h
    apply encodable_of_coldContent A hcontent
  · intro h
    rw [coldContent_of_encodable A h, isSome_columnsAt]
    apply h.buildsAt_followed

/-- The encoding that a column is bound at is what it suggests. -/
theorem encoding_of_columnAt {values : List PyValue} {encoding : Option Encoding}
    {p : Option Metadata × Column} (h : columnAt A encoding values = some p) :
  (p.2.type, p.1)
    = if isWide values then hugeIntEncoding else encoding.getD (inferredEncoding A values)
  := by
  rw [columnAt] at h
  split_ifs at h ⊢ with hwide
  · obtain ⟨array, harray, rfl⟩ := Option.map_eq_some_iff.mp h
    rw [A.array_type ((Outcome.toOption_eq_some_iff _ _).mp harray), hugeIntEncoding]
  · obtain ⟨array, harray, rfl⟩ := Option.map_eq_some_iff.mp h
    cases encoding with
    | none =>
        rw [Option.map_none] at harray
        rw [Option.getD_none, inferredEncoding, harray]
        rfl
    | some encoding =>
        rw [A.array_type ((Outcome.toOption_eq_some_iff _ _).mp harray)]
        rfl

/-- The encodings that a first execution binds columns at are what the columns suggest. -/
theorem contentEncodings_coldContent {prepared : Option (List Encoding)}
    {columns : List (List PyValue)} {content : List (Option Metadata × Column)}
    (h : coldContent A prepared columns = some content) :
  contentEncodings content = suggested A prepared columns
  := by
  rw [coldContent_of_encodable A (encodable_of_coldContent A h), columnsAt] at h
  have hcontent := Outcome.forall₂_of_mapM_eq_some h
  have hencodings : List.Forall₂ Eq (suggested A prepared columns) (contentEncodings content) := by
    rw [contentEncodings, suggested, List.forall₂_map_left_iff, List.forall₂_map_right_iff]
    apply hcontent.imp
    intro p q hq
    apply (encoding_of_columnAt A hq).symm
  rw [List.forall₂_eq_eq_eq] at hencodings
  apply hencodings.symm

/-! ### Undisturbed columns -/

/-- Columns that cannot be built without a schema are undisturbed when they are not encoded
as suggested. -/
theorem undisturbed_iff_of_not_inferable {columns : List (List PyValue)}
    (h : ¬ BuildsAt A none columns) (prepared : Option (List Encoding))
    (suggestion : List Encoding) :
  Undisturbed A prepared suggestion columns ↔ encodedAt A (some suggestion) columns = none
  := by
  have hencoded : encodedAt A (some suggestion) columns = none
      ↔ (columns.any isWide ∨ fits (some suggestion) columns →
          ¬ BuildsAt A (some suggestion) columns) := by
    rw [← Option.not_isSome_iff_eq_none, encodedAt_eq]
    split_ifs with hcond
    · rw [isSome_columnsAt, buildsAt_followed_iff, imp_iff_right hcond]
      simp only [h, and_false, or_false]
    · simp only [Option.isSome_none, Bool.false_eq_true, not_false_eq_true, hcond, false_implies]
  rw [hencoded]
  constructor
  · intro hundisturbed
    apply hundisturbed.rejects h
  · intro hrejects
    constructor
    · intro _
      apply hrejects
    · intro hinferable
      apply absurd hinferable h
    · intro hinferable
      apply absurd hinferable h
    · intro hencodable
      apply absurd hencodable.inferable h

/-- Columns with a wide one among them are undisturbed when they are encoded the same as
suggested and as prepared. -/
theorem undisturbed_iff_of_wide {columns : List (List PyValue)} (h : BuildsAt A none columns)
    (hwide : columns.any isWide) (prepared : Option (List Encoding))
    (suggestion : List Encoding) :
  Undisturbed A prepared suggestion columns
    ↔ columnsAt A (some suggestion) columns = columnsAt A prepared columns
  := by
  constructor
  · intro hundisturbed
    have hforced := hundisturbed.forced h hwide
    by_cases hbuilds : BuildsAt A prepared columns
    · have halike := hundisturbed.alike ⟨h, fun _ => hbuilds, fun hnot => absurd hwide hnot⟩
      rw [followed_of_wide A hwide, followed_of_wide A hwide] at halike
      apply (columnsAt_eq_iff A (hforced.mpr hbuilds) hbuilds).mpr halike
    · rw [columnsAt_eq_none A hbuilds, columnsAt_eq_none A fun hb => hbuilds (hforced.mp hb)]
  · intro hsame
    have hforced : BuildsAt A (some suggestion) columns ↔ BuildsAt A prepared columns := by
      rw [← isSome_columnsAt, ← isSome_columnsAt, hsame]
    constructor
    · intro hnot
      apply absurd h hnot
    · intro _ _
      apply hforced
    · intro _ hnot
      apply absurd hwide hnot
    · intro hencodable
      have hbuilds := hencodable.forced hwide
      rw [followed_of_wide A hwide, followed_of_wide A hwide]
      apply (columnsAt_eq_iff A (hforced.mpr hbuilds) hbuilds).mp hsame

/-- Columns without a wide one are undisturbed when they are encoded the same as suggested and
as prepared. -/
theorem undisturbed_iff_of_not_wide {columns : List (List PyValue)}
    (h : BuildsAt A none columns) (hwide : ¬ columns.any isWide)
    (prepared : Option (List Encoding)) (suggestion : List Encoding) :
  Undisturbed A prepared suggestion columns
    ↔ encodedAt A (some suggestion) columns = encodedAt A prepared columns
  := by
  have hbuilds : ∀ encodings, BuildsAt A (followed A encodings columns) columns := by
    intro encodings
    apply (buildsAt_followed_iff A encodings columns).mpr (.inr ⟨hwide, h⟩)
  have hsome : ∀ encodings, (columnsAt A (followed A encodings columns) columns).isSome := by
    intro encodings
    apply (isSome_columnsAt A _ _).mpr (hbuilds encodings)
  rw [encodedAt_eq, encodedAt_eq]
  simp only [hwide, false_or, Bool.false_eq_true]
  constructor
  · intro hundisturbed
    have hcounts := hundisturbed.counts h hwide
    by_cases hfits : fits prepared columns
    · have halike := hundisturbed.alike ⟨h, fun hw => absurd hw hwide, fun _ => hfits⟩
      rw [if_pos hfits, if_pos (hcounts.mpr hfits)]
      apply (columnsAt_eq_iff A (hbuilds _) (hbuilds _)).mpr halike
    · rw [if_neg hfits, if_neg fun hf => hfits (hcounts.mp hf)]
  · intro hsame
    have hcounts : fits (some suggestion) columns ↔ fits prepared columns := by
      have hisSome := congrArg Option.isSome hsame
      split_ifs at hisSome with hfits hfits' hfits'
      · simp only [hfits, hfits']
      · rw [hsome] at hisSome
        cases hisSome
      · rw [hsome] at hisSome
        cases hisSome
      · simp only [hfits, hfits']
    constructor
    · intro hnot
      apply absurd h hnot
    · intro _ hw
      apply absurd hw hwide
    · intro _ _
      apply hcounts
    · intro hencodable
      have hfits := hencodable.counted hwide
      rw [if_pos hfits, if_pos (hcounts.mpr hfits)] at hsame
      apply (columnsAt_eq_iff A (hbuilds _) (hbuilds _)).mp hsame

/-- Undisturbed columns are those that are encoded as suggested the way a first execution
encodes them. -/
theorem undisturbed_iff (prepared : Option (List Encoding)) (suggestion : List Encoding)
    (columns : List (List PyValue)) :
  Undisturbed A prepared suggestion columns
    ↔ encodedAt A (some suggestion) columns = coldContent A prepared columns
  := by
  by_cases hinferable : BuildsAt A none columns
  · obtain ⟨inferred, hinferred⟩ :=
      Option.isSome_iff_exists.mp ((isSome_columnsAt A none columns).mpr hinferable)
    rw [coldContent, hinferred, Option.bind_some]
    by_cases hwide : columns.any isWide
    · rw [undisturbed_iff_of_wide A hinferable hwide, encodedAt, encodedAt, if_pos hwide,
        if_pos hwide]
    · apply undisturbed_iff_of_not_wide A hinferable hwide
  · rw [coldContent, columnsAt_eq_none A hinferable, Option.bind_none]
    apply undisturbed_iff_of_not_inferable A hinferable

/-- Columns without a wide one that can be built as prepared, and without a schema. -/
structure Conforms (prepared : List Encoding) (columns : List (List PyValue)) : Prop where
  inferable : BuildsAt A none columns
  narrow : ¬ columns.any isWide
  counted : fits (some prepared) columns
  builds : BuildsAt A (some prepared) columns

/-- Columns that conform to the prepared encodings suggest these. -/
theorem suggested_of_conforms {prepared : List Encoding} {columns : List (List PyValue)}
    (h : Conforms A prepared columns) :
  suggested A (some prepared) columns = prepared
  := by
  have hlength : prepared.length = columns.length := of_decide_eq_true h.counted
  have hnarrow : columns.any isWide = false := eq_false_of_ne_true h.narrow
  rw [suggested, followed, if_pos (.inr h.builds)]
  apply List.ext_getElem
  · rw [List.length_map, List.length_zipIdx, hlength]
  · intro index hindex hindex'
    rw [List.length_map, List.length_zipIdx] at hindex
    have hcolumn := isWide_eq_false hnarrow (List.getElem_mem hindex)
    simp [asked, hcolumn, hindex']

/-- Columns that conform to the prepared encodings are undisturbed by these. -/
theorem undisturbed_of_conforms {prepared : List Encoding} {columns : List (List PyValue)}
    (h : Conforms A prepared columns) :
  Undisturbed A (some prepared) prepared columns
  := by
  constructor
  · intro hnot
    apply absurd h.inferable hnot
  · intro _ _
    exact Iff.rfl
  · intro _ _
    exact Iff.rfl
  · intro _ p _ _
    apply SameEncoding.refl

end MonetDB
