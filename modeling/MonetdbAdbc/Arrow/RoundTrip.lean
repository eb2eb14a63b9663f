import Mathlib.Algebra.Field.Rat
import Mathlib.Data.Rat.Cast.CharZero
import MonetdbAdbc.Arrow.Encoding
import MonetdbAdbc.Arrow.Pylist

/-!
# Parameters come back

A batch that `parameterRecordBatch` builds holds the parameters: `batchToRows` gives back the
rows, with values that are numerically equal (`parameters_lossless`).  What PyArrow has to
provide is that an array gives back the values it was built from.

Rows are transposed into columns when they are encoded and back when they are decoded.  In
between, each column is built at a type that was forced, asked for or inferred, and read
back by the metadata of its field; these agree because HUGEINT metadata occurs on
`decimal128(38, 0)` only.
-/

namespace MonetDB

/-! ### Numbers -/

/-- The number that the bits of a double stand for, if it is finite. -/
def doubleValue (bits : UInt64) : Option ℚ :=
  let exponent := bits.toNat / 2 ^ 52 % 2 ^ 11
  let fraction : Nat := bits.toNat % 2 ^ 52
  let magnitude : ℚ :=
    if exponent = 0 then (fraction : ℚ) / 2 ^ 1074
    else (2 ^ 52 + fraction : ℚ) * 2 ^ exponent / 2 ^ 1075
  if exponent = 2047 then
    none
  else
    some (if bits.toNat < 2 ^ 63 then magnitude else -magnitude)

/-- The number that a Python value is, if it is one. -/
def PyValue.number? : PyValue → Option ℚ
  | .bool b => some (b.toNat : ℚ)
  | .int n => some (n : ℚ)
  | .float bits => doubleValue bits
  | .decimal unscaled scale => some ((unscaled : ℚ) / 10 ^ scale)
  | _ => Option.none

/-- Python values that are equal, numbers of different types included. -/
def NumEq (v w : PyValue) : Prop :=
  v = w ∨ ∃ q, v.number? = some q ∧ w.number? = some q

theorem NumEq.refl (v : PyValue) :
  NumEq v v
  := .inl rfl

/-- Null, or a decimal without a fraction. -/
def IsIntegral (v : PyValue) : Prop :=
  v = .none ∨ ∃ n, v = .decimal n 0

/-- The integer that a value is numerically equal to, or null for null. -/
def IntegerOf (v w : PyValue) : Prop :=
  v = .none ∧ w = .none ∨ ∃ n : ℤ, v.number? = some (n : ℚ) ∧ w = .int n

theorem IntegerOf.numEq {v w : PyValue} (h : IntegerOf v w) :
  NumEq v w
  := by
  rcases h with ⟨rfl, rfl⟩ | ⟨n, hv, rfl⟩
  · apply NumEq.refl
  · right
    use n
    exact ⟨hv, rfl⟩

/-- A value equal to a decimal without a fraction has an integer, which `int` gives. -/
theorem exists_toInt {S : Scalars} {v w : PyValue} (h : NumEq v w) (hw : IsIntegral w) :
  ∃ u, toInt S w = .ok u ∧ IntegerOf v u
  := by
  rcases hw with rfl | ⟨n, rfl⟩
  · use .none
    refine ⟨rfl, .inl ⟨?_, rfl⟩⟩
    rcases h with rfl | ⟨q, hq, hnone⟩
    · rfl
    · cases hnone
  · use .int n
    constructor
    · rw [toInt, pow_zero, Int.tdiv_one]
    · right
      use n
      refine ⟨?_, rfl⟩
      have hnumber : (PyValue.decimal n 0).number? = some (n : ℚ) := by
        rw [PyValue.number?, pow_zero, div_one]
      rcases h with rfl | ⟨q, hv, hq⟩
      · apply hnumber
      · rw [hv, ← hq, hnumber]

/-! ### Rows and columns -/

/-- Zipping related lists by functions that keep the relation. -/
theorem forall₂_zipWith {α β γ δ ε ζ : Type*} {R : α → β → Prop} {Q : γ → δ → Prop}
    {T : ε → ζ → Prop} {f : α → γ → ε} {g : β → δ → ζ}
    (hfg : ∀ {a b c d}, R a b → Q c d → T (f a c) (g b d))
    {as : List α} {bs : List β} (hR : List.Forall₂ R as bs)
    {cs : List γ} {ds : List δ} (hQ : List.Forall₂ Q cs ds) :
  List.Forall₂ T (List.zipWith f as cs) (List.zipWith g bs ds)
  := by
  induction hR generalizing cs ds with
  | nil => exact .nil
  | cons hab _ ih =>
      cases hQ with
      | nil => exact .nil
      | cons hcd hQ => exact .cons (hfg hab hcd) (ih hQ)

/-- Columns with related values form rows with related values. -/
theorem forall₂_zipColumns {R : PyValue → PyValue → Prop} {columns decoded : List (List PyValue)}
    (h : List.Forall₂ (List.Forall₂ R) columns decoded) :
  List.Forall₂ (List.Forall₂ R) (zipColumns columns) (zipColumns decoded)
  := by
  induction h with
  | nil => exact .nil
  | @cons column values columns decoded hcolumn hcolumns ih =>
      cases hcolumns with
      | nil =>
          rw [zipColumns, zipColumns, List.forall₂_map_left_iff, List.forall₂_map_right_iff]
          apply hcolumn.imp
          intro v w hvw
          exact .cons hvw .nil
      | cons _ _ =>
          rw [zipColumns_cons _ (List.cons_ne_nil _ _), zipColumns_cons _ (List.cons_ne_nil _ _)]
          apply forall₂_zipWith List.Forall₂.cons hcolumn ih

/-- The columns of rows are those of the first values and those of the rest. -/
theorem transpose_succ (rows : List (List PyValue)) (width : Nat) :
  transpose rows (width + 1)
    = rows.map (fun row => row.headD .none) :: transpose (rows.map List.tail) width
  := by
  simp only [transpose, List.range_succ_eq_map, List.map_cons, List.map_map]
  congr 1
  · apply List.map_congr_left
    intro row _
    cases row <;> rfl
  · apply List.map_congr_left
    intro index _
    apply List.map_congr_left
    intro row _
    cases row <;> simp

/-- Rows of a positive width are the rows of their columns. -/
theorem zipColumns_transpose {width : Nat} {rows : List (List PyValue)}
    (h : ∀ row ∈ rows, row.length = width + 1) :
  zipColumns (transpose rows (width + 1)) = rows
  := by
  induction width generalizing rows with
  | zero =>
      have hrest : transpose (rows.map List.tail) 0 = [] := rfl
      rw [transpose_succ, hrest, zipColumns, List.map_map]
      conv_rhs => rw [← List.map_id rows]
      apply List.map_congr_left
      intro row hrow
      obtain ⟨v, rfl⟩ := List.length_eq_one_iff.mp (h row hrow)
      rfl
  | succ width ih =>
      have htails : ∀ row ∈ rows.map List.tail, row.length = width + 1 := by
        intro row hrow
        obtain ⟨row', hrow', rfl⟩ := List.mem_map.mp hrow
        rw [List.length_tail, h row' hrow', Nat.add_sub_cancel]
      have hne : transpose (rows.map List.tail) (width + 1) ≠ [] := by
        rw [transpose_succ]
        apply List.cons_ne_nil
      rw [transpose_succ, zipColumns_cons _ hne, ih htails, List.zipWith_map, List.zipWith_self]
      conv_rhs => rw [← List.map_id rows]
      apply List.map_congr_left
      intro row hrow
      cases row with
      | nil => cases h [] hrow
      | cons v row => rfl

/-! ### How a column is encoded -/

/-- A schema in which HUGEINT metadata occurs on `decimal128(38, 0)` only. -/
def HugeIntOnly (schema : Schema) : Prop :=
  ∀ field ∈ schema, isHugeInt field → field.type = .decimal128 38 0

/-- The types at which a column is built: the inferred one, the type of a field of the schema, and
that of HUGEINT. -/
inductive BuildsType (schema : Option Schema) : Option DataType → Prop
  | inferred : BuildsType schema none
  | field {s : Schema} {f : Field} (hs : schema = some s) (hf : f ∈ s) :
      BuildsType schema (some f.type)
  | hugeInt : BuildsType schema (some (.decimal128 38 0))

/-- What holds of a column of a batch and the values it was built from, with a schema or none. -/
structure EncodesColumn (A : PyArrow) (schema : Option Schema) (values : List PyValue)
    (p : Field × Column) : Prop where
  built : ∃ type, BuildsType schema type ∧ A.array values type = .ok p.2
  /-- HUGEINT metadata is on `decimal128(38, 0)` only. -/
  hugeInt : isHugeInt p.1 → p.2.type = .decimal128 38 0
  /-- A wide integer forces HUGEINT. -/
  wide : isWide values → p.2.type = .decimal128 38 0 ∧ isHugeInt p.1

variable (A : PyArrow)

theorem isHugeInt_congr {f g : Field} (h : f.metadata = g.metadata) :
  isHugeInt f = isHugeInt g
  := by
  rw [isHugeInt, isHugeInt, Field.metadata?, Field.metadata?, h]

theorem isHugeInt_of_hugeIntMetadata {f : Field} (h : f.metadata = some hugeIntMetadata) :
  isHugeInt f
  := by
  rw [isHugeInt, Field.metadata?, h]
  rfl

variable {A} in
/-- What is built without a schema can be built with one. -/
theorem EncodesColumn.of_none {values : List PyValue} {p : Field × Column}
    (h : EncodesColumn A none values p) (schema : Option Schema) :
  EncodesColumn A schema values p
  := by
  obtain ⟨type, htype, harray⟩ := h.built
  have hbuilds : BuildsType schema type := by
    cases htype with
    | inferred => exact .inferred
    | field hs => cases hs
    | hugeInt => exact .hugeInt
  exact ⟨⟨type, hbuilds, harray⟩, h.hugeInt, h.wide⟩

/-- A column that was encoded as a field of the schema asks, if any does. -/
theorem encodesColumn_of_columnAt {schema : Option Schema} {index : Nat} {values : List PyValue}
    {p : Field × Column} (hschema : ∀ s, schema = some s → HugeIntOnly s)
    (h : columnAt A ((schema.bind (·[index]?)).map Field.encoding) values
      = some (p.1.metadata, p.2)) :
  EncodesColumn A schema values p
  := by
  rw [columnAt] at h
  split at h
  · obtain ⟨array, harray, hp⟩ := Option.map_eq_some_iff.mp h
    obtain ⟨hmetadata, rfl⟩ := Prod.mk.inj hp
    rw [Outcome.toOption_eq_some_iff] at harray
    have htype := A.array_type harray
    have hhuge := isHugeInt_of_hugeIntMetadata hmetadata.symm
    exact ⟨⟨_, .hugeInt, harray⟩, fun _ => htype, fun _ => ⟨htype, hhuge⟩⟩
  · rename_i hnarrow
    obtain ⟨array, harray, hp⟩ := Option.map_eq_some_iff.mp h
    obtain ⟨hmetadata, rfl⟩ := Prod.mk.inj hp
    rw [Outcome.toOption_eq_some_iff] at harray
    cases hfield : schema.bind (·[index]?) with
    | none =>
        rw [hfield] at harray hmetadata
        refine ⟨⟨_, .inferred, harray⟩, ?_, fun hwide => absurd hwide hnarrow⟩
        intro hhuge
        rw [isHugeInt, Field.metadata?, ← hmetadata] at hhuge
        cases hhuge
    | some f =>
        rw [hfield] at harray hmetadata
        obtain ⟨s, hs, hindex⟩ := Option.bind_eq_some_iff.mp hfield
        have hmem := List.mem_of_getElem? hindex
        refine ⟨⟨_, .field hs hmem, harray⟩, ?_, fun hwide => absurd hwide hnarrow⟩
        intro hhuge
        have hcongr : isHugeInt f = isHugeInt p.1 := isHugeInt_congr hmetadata
        rw [A.array_type harray]
        apply hschema s hs f hmem (hcongr.trans hhuge)

/-- Columns that were encoded as the fields of a schema ask, if there is one. -/
theorem encodesColumn_of_columnsAt {columns : List (List PyValue)} {schema : Option Schema}
    {batch : Batch} (hschema : ∀ s, schema = some s → HugeIntOnly s)
    (h : columnsAt A (schema.map Schema.encodings) columns = some batch.content) :
  List.Forall₂ (EncodesColumn A schema) columns batch.columns
  := by
  have hcolumns := Outcome.forall₂_of_mapM_eq_some h
  rw [Batch.content, List.forall₂_map_right_iff] at hcolumns
  rw [← List.zipIdx_map_fst 0 columns, List.forall₂_map_left_iff]
  apply hcolumns.imp
  intro q p hcolumn
  have hfield : (schema.map Schema.encodings).bind (·[q.2]?)
      = (schema.bind (·[q.2]?)).map Field.encoding := by
    cases schema with
    | none => rfl
    | some s => apply List.getElem?_map
  rw [hfield] at hcolumn
  apply encodesColumn_of_columnAt A hschema hcolumn

/-- Encoded columns were encoded as asked, or all of them inferred. -/
theorem columnsAt_of_encodedAt {columns : List (List PyValue)} {encodings : Option (List Encoding)}
    {content : List (Option Metadata × Column)} (h : encodedAt A encodings columns = some content) :
  columnsAt A encodings columns = some content ∨ columnsAt A none columns = some content
  := by
  rw [encodedAt] at h
  split at h
  · left
    apply h
  · split at h
    · rcases Option.or_eq_some_iff.mp h with hasked | ⟨-, hinferred⟩
      · exact .inl hasked
      · exact .inr hinferred
    · cases h

/-- The columns of a batch of parameters. -/
theorem encodesColumn_of_encodeColumns {columns : List (List PyValue)} {n : Nat}
    (hn : ∀ values ∈ columns, values.length = n) {schema : Option Schema} {batch : Batch}
    (hschema : ∀ s, schema = some s → HugeIntOnly s)
    (h : encodeColumns A columns schema = .ok batch) :
  List.Forall₂ (EncodesColumn A schema) columns batch.columns
  := by
  have hcontent := content_encodeColumns A hn schema
  rw [h, Outcome.toOption_ok, Option.map_some] at hcontent
  rcases columnsAt_of_encodedAt A hcontent.symm with hasked | hinferred
  · apply encodesColumn_of_columnsAt A hschema hasked
  · have hnone : ∀ s, (none : Option Schema) = some s → HugeIntOnly s := by rintro s ⟨⟩
    apply (encodesColumn_of_columnsAt A hnone hinferred).imp
    intro values p hencodes
    apply hencodes.of_none

/-! ### How a column is decoded -/

variable {S : Scalars} (N : Numpy S)

/-- What PyArrow provides: an array gives back the values it was built from, and an array of
`decimal128(38, 0)` gives decimals without a fraction. -/
structure GivesBack (S : Scalars) (values : List PyValue) (col : Column) : Prop where
  values : ∃ out, toPylist S col = .ok out ∧ List.Forall₂ NumEq values out
  integral : col.type = .decimal128 38 0 →
    ∀ out, toPylist S col = .ok out → ∀ v ∈ out, IsIntegral v

/-- A column with a slot that `to_pylist` converts is converted alike by the fast path. -/
theorem columnToPylist_of_toPylist {col : Column} {out : List PyValue} (hne : col.cells ≠ [])
    (h : toPylist S col = .ok out) :
  columnToPylist N col = .ok out
  := by
  have hconvertible : Convertible S col := by
    constructor
    · intro hdate hz n hn
      by_contra hnot
      obtain ⟨e, he⟩ := Outcome.mapM_eq_error hn (slotToPy_of_not_represents (S := S) hdate hz hnot)
      rw [toPylist, he] at h
      cases h
    · intro _ z _ hempty
      exact absurd hempty hne
  have hagree := (columnToPylist_agrees_iff N col).mpr hconvertible
  rw [h] at hagree
  cases hcol : columnToPylist N col with
  | error e =>
      rw [hcol] at hagree
      exact absurd hagree not_false
  | ok out' =>
      rw [hcol, Outcome.agree_ok] at hagree
      rw [hagree]

/-- A column with a slot decodes to the values it was built from, and to integers where its
field is HUGEINT. -/
theorem exists_fieldToPylist {field : Field} {col : Column} {values : List PyValue}
    (hne : col.cells ≠ []) (hhuge : isHugeInt field → col.type = .decimal128 38 0)
    (h : GivesBack S values col) :
  ∃ decoded, fieldToPylist N field col = .ok decoded ∧ List.Forall₂ NumEq values decoded
    ∧ (isHugeInt field → List.Forall₂ IntegerOf values decoded)
  := by
  obtain ⟨out, hout, hequal⟩ := h.values
  rw [fieldToPylist, columnToPylist_of_toPylist N hne hout]
  by_cases hfield : isHugeInt field
  · have hintegral := h.integral (hhuge hfield) out hout
    have hpairs : List.Forall₂ (fun v w => IsIntegral w ∧ NumEq v w) values out := by
      apply List.Forall₂.flip
      apply (List.forall₂_and_left out values).mpr
      exact ⟨hintegral, hequal.flip⟩
    obtain ⟨decoded, hdecoded, hinteger⟩ :=
      Outcome.exists_mapM_eq_ok hpairs fun v w hvw => exists_toInt (S := S) hvw.2 hvw.1
    use decoded
    simp only [hfield, if_true, bind, Except.bind]
    refine ⟨hdecoded, hinteger.imp fun v w => IntegerOf.numEq, fun _ => hinteger⟩
  · use out
    simp only [hfield, bind, Except.bind]
    refine ⟨rfl, hequal, ?_⟩
    rintro ⟨⟩

/-- A column with wide integers is HUGEINT, and decodes to the integers it was given. -/
structure DecodesIntegers (values : List PyValue) (p : Field × Column) : Prop where
  type : p.2.type = .decimal128 38 0
  hugeInt : isHugeInt p.1
  decodes : ∃ decoded, fieldToPylist N p.1 p.2 = .ok decoded ∧
    List.Forall₂ IntegerOf values decoded

/-- A column holds the values it was built from. -/
structure HoldsColumn (values : List PyValue) (p : Field × Column) : Prop where
  decodes : ∃ decoded, fieldToPylist N p.1 p.2 = .ok decoded ∧ List.Forall₂ NumEq values decoded
  wide : isWide values → DecodesIntegers N values p

variable {A} in
/-- A column of a batch holds its values when the array gives them back. -/
theorem EncodesColumn.holds {schema : Option Schema} {values : List PyValue} {p : Field × Column}
    (h : EncodesColumn A schema values p) (hne : values ≠ [])
    (hback : ∀ type col, BuildsType schema type → A.array values type = .ok col →
      GivesBack S values col) :
  HoldsColumn N values p
  := by
  obtain ⟨type, htype, harray⟩ := h.built
  have hcells : p.2.cells ≠ [] := by
    have hlength := A.array_length harray
    rw [Column.length] at hlength
    rw [← List.length_pos_iff, hlength, List.length_pos_iff]
    apply hne
  obtain ⟨decoded, hdecoded, hequal, hinteger⟩ :=
    exists_fieldToPylist N hcells h.hugeInt (hback type p.2 htype harray)
  constructor
  · exact ⟨decoded, hdecoded, hequal⟩
  · intro hwide
    obtain ⟨htype, hhuge⟩ := h.wide hwide
    exact ⟨htype, hhuge, decoded, hdecoded, hinteger hhuge⟩

/-! ### Rows that come back -/

/-- A batch holds the parameters it was built from. -/
structure Lossless (rows : List Row) (batch : Batch) : Prop where
  /-- The rows come back in order, with numerically equal values. -/
  returns : ∃ out, batchToRows N batch = .ok out ∧
    List.Forall₂
      (fun row values => ∃ given, row = .sequence given ∧ List.Forall₂ NumEq given values)
      rows out
  /-- The columns with a wide integer decode to integers. -/
  wide : ∀ columns, parameterColumns rows = some columns →
    List.Forall₂ (fun values p => isWide values → DecodesIntegers N values p) columns batch.columns

/-- Rows whose parameters form columns are sequences of one positive width. -/
theorem exists_of_parameterColumns {rows : List Row} {columns : List (List PyValue)}
    (h : parameterColumns rows = some columns) :
  ∃ sequences width, rows = sequences.map Row.sequence ∧ sequences ≠ [] ∧
    (∀ row ∈ sequences, row.length = width + 1) ∧ columns = transpose sequences (width + 1)
  := by
  rw [parameterColumns] at h
  obtain ⟨sequences, hsequences, h⟩ := Option.bind_eq_some_iff.mp h
  obtain ⟨first, hfirst, h⟩ := Option.bind_eq_some_iff.mp h
  have hrows : rows = sequences.map Row.sequence := by
    have hvalues := Outcome.forall₂_of_mapM_eq_some hsequences
    rw [← List.forall₂_eq_eq_eq, List.forall₂_map_right_iff]
    apply hvalues.imp
    intro row values hrow
    cases row with
    | sequence _ =>
        cases hrow
        rfl
    | other _ => cases hrow
  split at h
  · cases h
  · rename_i hpositive
    obtain ⟨width, hwidth⟩ := Nat.exists_eq_succ_of_ne_zero hpositive
    split at h
    · cases h
    · rename_i hequal
      cases h
      refine ⟨sequences, width, hrows, ?_, ?_, by rw [hwidth]⟩
      · rintro rfl
        cases hfirst
      · intro row hrow
        by_contra hne
        apply hequal
        rw [List.any_eq_true]
        exact ⟨row, hrow, decide_eq_true (hwidth ▸ hne)⟩

/-- The columns that a batch was built from. -/
theorem exists_encodeColumns {rows : List Row} {schema : Option Schema} {batch : Batch}
    (h : parameterRecordBatch A rows schema = .ok (some batch)) :
  ∃ columns, parameterColumns rows = some columns ∧ encodeColumns A columns schema = .ok batch
  := by
  rw [parameterRecordBatch] at h
  split at h
  · cases h
  · rename_i columns hcolumns
    refine ⟨columns, hcolumns, ?_⟩
    cases hencode : encodeColumns A columns schema with
    | error e =>
        rw [hencode] at h
        cases h
    | ok batch' =>
        rw [hencode] at h
        cases h
        rfl

/-- Columns of one length form rows. -/
theorem zipStrict_eq_ok {columns : List (List PyValue)} {n : Nat}
    (h : ∀ column ∈ columns, column.length = n) :
  zipStrict columns = .ok (zipColumns columns)
  := by
  rw [zipStrict, if_pos]
  intro column hcolumn
  cases columns with
  | nil => cases hcolumn
  | cons first columns => rw [h column hcolumn, List.headD_cons, h first List.mem_cons_self]

variable {N} in
/-- A batch whose columns hold the columns of rows decodes to the rows. -/
theorem exists_batchToRows {sequences : List (List PyValue)} {width : Nat} {batch : Batch}
    (hwidth : ∀ row ∈ sequences, row.length = width + 1)
    (h : List.Forall₂ (HoldsColumn N) (transpose sequences (width + 1)) batch.columns) :
  ∃ out, batchToRows N batch = .ok out ∧ List.Forall₂ (List.Forall₂ NumEq) sequences out
  := by
  obtain ⟨decoded, hdecoded, hequal⟩ := Outcome.exists_mapM_eq_ok h fun _ _ hp => hp.decodes
  have hlength : ∀ column ∈ decoded, column.length = batch.numRows := by
    intro column hcolumn
    obtain ⟨p, hp, hconvert⟩ := Outcome.exists_of_mem_mapM hdecoded hcolumn
    rw [length_fieldToPylist hconvert, batch.aligned p hp]
  have hrows := forall₂_zipColumns hequal
  rw [zipColumns_transpose hwidth] at hrows
  use zipColumns decoded
  refine ⟨?_, hrows⟩
  rw [batchToRows, hdecoded]
  apply zipStrict_eq_ok hlength

/-- A batch that was built from parameters holds them, if every array that can be built from one of
their columns, at a type at which the call builds columns, gives back its values. -/
theorem parameters_lossless {rows : List Row} {schema : Option Schema} {batch : Batch}
    (hschema : ∀ s, schema = some s → HugeIntOnly s)
    (harrays : ∀ columns, parameterColumns rows = some columns → ∀ values ∈ columns,
      ∀ type col, BuildsType schema type → A.array values type = .ok col → GivesBack S values col)
    (h : parameterRecordBatch A rows schema = .ok (some batch)) :
  Lossless N rows batch
  := by
  obtain ⟨columns, hcolumns, hbatch⟩ := exists_encodeColumns A h
  obtain ⟨n, hn⟩ := length_of_parameterColumns hcolumns
  obtain ⟨sequences, width, rfl, hne, hwidth, rfl⟩ := exists_of_parameterColumns hcolumns
  have hvalues : ∀ values ∈ transpose sequences (width + 1), values ≠ [] := by
    intro values hvalues
    obtain ⟨index, -, rfl⟩ := List.mem_map.mp hvalues
    apply List.map_eq_nil_iff.not.mpr hne
  have hholds : List.Forall₂ (HoldsColumn N) (transpose sequences (width + 1)) batch.columns := by
    have hencodes := encodesColumn_of_encodeColumns A hn hschema hbatch
    apply ((List.forall₂_and_left _ _).mpr ⟨fun _ h => h, hencodes⟩).imp
    rintro values p ⟨hmem, henc⟩
    apply henc.holds N (hvalues values hmem) (harrays _ hcolumns values hmem)
  constructor
  · obtain ⟨out, hout, hrows⟩ := exists_batchToRows hwidth hholds
    use out
    rw [List.forall₂_map_left_iff]
    refine ⟨hout, hrows.imp ?_⟩
    intro given values hequal
    exact ⟨given, rfl, hequal⟩
  · intro columns hcolumns'
    rw [hcolumns] at hcolumns'
    cases hcolumns'
    apply hholds.imp
    intro values p hp
    apply hp.wide

/-- What an integer is read back as from a column of integers or of decimals. -/
def storedInteger (type : DataType) : PyValue → PyValue
  | .int n => if type.isInteger then .int n else .decimal n 0
  | _ => .none

/-- An array of integers has an integer type and stores each value at it. -/
theorem integerPyArrow_spec {values : List PyValue} {type : Option DataType} {col : Column}
    (h : integerPyArrow.array values type = .ok col) :
  (col.type = .int64 ∨ col.type = .decimal128 38 0)
    ∧ col.cells = values.map (integerCell col.type) ∧ values.all (storesInteger col.type)
  := by
  simp only [integerPyArrow, integerArray] at h
  split at h
  · rename_i hstores
    cases h
    exact ⟨of_decide_eq_true hstores.1, rfl, hstores.2⟩
  · cases h

/-- Arrays of integers give back what they were built from. -/
theorem givesBack_integer {values : List PyValue} {type : Option DataType} {col : Column}
    (h : integerPyArrow.array values type = .ok col) :
  GivesBack utcScalars values col
  := by
  obtain ⟨htype, hcells, hstores⟩ := integerPyArrow_spec h
  have hout : toPylist utcScalars col = .ok (values.map (storedInteger col.type)) := by
    rw [toPylist, hcells, List.mapM_map]
    apply Outcome.mapM_eq_ok
    intro v _
    rcases htype with htype | htype <;> rw [htype] <;> cases v <;> rfl
  constructor
  · refine ⟨_, hout, ?_⟩
    rw [List.forall₂_map_right_iff, List.forall₂_same]
    intro v hv
    have hstored := List.all_eq_true.mp hstores v hv
    cases v with
    | none => apply NumEq.refl
    | int n =>
        right
        use n
        refine ⟨rfl, ?_⟩
        rcases htype with htype | htype <;> rw [htype] <;>
          simp [storedInteger, DataType.isInteger, PyValue.number?]
    | _ => cases hstored
  · intro hdecimal out hout' v hv
    rw [hout] at hout'
    cases hout'
    obtain ⟨w, -, rfl⟩ := List.mem_map.mp hv
    rw [hdecimal]
    cases w with
    | int n => exact .inr ⟨n, rfl⟩
    | _ => exact .inl rfl

/-- Rows with a wide integer and a null in one column and small integers in the other. -/
def mixedRows : List Row :=
  [.sequence [.int (2 ^ 63), .int 5], .sequence [.none, .int (-7)]]

/-- A schema that asks for HUGEINT in the column of small integers. -/
def hugeIntHint : Schema :=
  [{ name := "0", type := .int64 },
    { name := "1", type := .decimal128 38 0, metadata := some hugeIntMetadata }]

/-- The rows come back from a batch where one column is forced to HUGEINT and the other asked
to be. -/
theorem parameters_lossless_mixedRows :
  ∃ batch, parameterRecordBatch integerPyArrow mixedRows (some hugeIntHint) = .ok (some batch)
    ∧ Lossless utcNumpy mixedRows batch
  := by
  have hbuilt : ∃ batch,
      parameterRecordBatch integerPyArrow mixedRows (some hugeIntHint) = .ok (some batch) :=
    ⟨_, rfl⟩
  obtain ⟨batch, hbatch⟩ := hbuilt
  refine ⟨batch, hbatch, ?_⟩
  apply parameters_lossless integerPyArrow utcNumpy _ _ hbatch
  · intro s hs
    cases hs
    unfold HugeIntOnly
    decide
  · intro columns _ values _ type col _ hcol
    apply givesBack_integer hcol

end MonetDB
