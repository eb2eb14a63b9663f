import MonetdbAdbc.Arrow.Parameters
import MonetdbAdbc.Library.Outcome

/-!
# What a parameter batch contains

The `content` of a batch is what the server sees of it: the metadata, type and values of
each column.  `columnsAt` encodes columns at given types and metadata, inferring the types
where none are given, except that a column with a wide integer becomes HUGEINT.  The
content of an encoding is that of `columnsAt` at the schema; when no column has a wide
integer the schema must have a field for each, and inference is the fallback
(`content_encodeColumns`).
-/

namespace MonetDB

/-- The metadata of a field. -/
abbrev Metadata := List (String × String)

/-- What the encoding of a column depends on: the type and the metadata of its field. -/
abbrev Encoding := DataType × Option Metadata

/-- The encoding a field asks for. -/
def Field.encoding (field : Field) : Encoding :=
  (field.type, field.metadata)

/-- The encodings a schema asks for. -/
def Schema.encodings (schema : Schema) : List Encoding :=
  schema.map Field.encoding

/-- The metadata and the column of each field of a batch. -/
def Batch.content (batch : Batch) : List (Option Metadata × Column) :=
  batch.columns.map fun p => (p.1.metadata, p.2)

/-- The encodings of the columns of a batch. -/
def contentEncodings (content : List (Option Metadata × Column)) : List Encoding :=
  content.map fun p => (p.2.type, p.1)

/-- The encodings of a batch's content are those its schema asks for. -/
theorem contentEncodings_content (batch : Batch) :
  contentEncodings batch.content = batch.schema.encodings
  := by
  simp only [contentEncodings, Batch.content, Schema.encodings, Batch.schema, List.map_map]
  apply List.map_congr_left
  intro p hp
  simp only [Function.comp, Field.encoding, batch.typed p hp]

variable (A : PyArrow)

/-- One column, encoded as asked or else inferred, or as HUGEINT. -/
def columnAt (encoding : Option Encoding) (values : List PyValue) :
    Option (Option Metadata × Column) :=
  if isWide values then
    (A.array values (some (.decimal128 38 0))).toOption.map (Prod.mk (some hugeIntMetadata))
  else
    (A.array values (encoding.map Prod.fst)).toOption.map (Prod.mk (encoding.bind Prod.snd))

/-- The columns, each encoded as asked. -/
def columnsAt (encodings : Option (List Encoding)) (columns : List (List PyValue)) :
    Option (List (Option Metadata × Column)) :=
  columns.zipIdx.mapM fun p => columnAt A (encodings.bind (·[p.2]?)) p.1

/-- There is an encoding for every column and none besides, if any are asked for. -/
def fits (encodings : Option (List Encoding)) (columns : List (List PyValue)) : Bool :=
  encodings.all fun encodings => encodings.length = columns.length

/-- The columns, each encoded as asked.  When none of them holds a wide integer there must be
an encoding for each, and all of them are inferred when they cannot be encoded so. -/
def encodedAt (encodings : Option (List Encoding)) (columns : List (List PyValue)) :
    Option (List (Option Metadata × Column)) :=
  if columns.any isWide then
    columnsAt A encodings columns
  else if fits encodings columns then
    (columnsAt A encodings columns).or (columnsAt A none columns)
  else
    none

/-- Nothing is asked of the columns without encodings, so inference is no fallback. -/
theorem encodedAt_none (columns : List (List PyValue)) :
  encodedAt A none columns = columnsAt A none columns
  := by
  simp only [encodedAt, fits, Option.all_none, if_true, Option.or_self, ite_self]

/-! ### Batches with a wide integer -/

/-- A wide column and the others are encoded as the schema asks. -/
theorem toOption_wideColumn (schema : Option Schema) (index : Nat) (values : List PyValue) :
  (wideColumn A schema index values).toOption.map (fun p => (p.1.metadata, p.2))
    = columnAt A ((schema.map Schema.encodings).bind (·[index]?)) values
  := by
  rw [wideColumn, columnAt]
  split_ifs with hwide
  · dsimp only
    rw [bind_pure_comp, Outcome.toOption_map, Option.map_map]
    rfl
  · have hencoding : (schema.map Schema.encodings).bind (·[index]?)
        = (schema.bind (·[index]?)).map Field.encoding := by
      cases schema with
      | none => rfl
      | some s => apply List.getElem?_map
    dsimp only
    rw [bind_pure_comp, Outcome.toOption_map, Option.map_map, hencoding, Option.map_map,
      Option.bind_map]
    rfl

/-- Columns of one length, with the types of their fields, form a batch. -/
theorem content_fromArrays {pairs : List (Field × Column)} {n : Nat}
    (h : ∀ p ∈ pairs, p.2.length = n ∧ p.2.type = p.1.type) :
  (Batch.fromArrays (pairs.map Prod.snd) (pairs.map Prod.fst)).toOption.map Batch.content
    = some (pairs.map fun p => (p.1.metadata, p.2))
  := by
  have hzip : (pairs.map Prod.fst).zip (pairs.map Prod.snd) = pairs :=
    (List.zip_of_prod rfl rfl).symm
  have hlength : (pairs.map Prod.snd).length = (pairs.map Prod.fst).length := by
    rw [List.length_map, List.length_map]
  have hn : ∀ a ∈ pairs.map Prod.snd, a.length = n := by
    intro a ha
    obtain ⟨p, hp, rfl⟩ := List.mem_map.mp ha
    apply (h p hp).1
  have htype : ∀ p ∈ (pairs.map Prod.fst).zip (pairs.map Prod.snd), p.2.type = p.1.type := by
    rw [hzip]
    exact fun p hp => (h p hp).2
  obtain ⟨batch, hbatch, hcolumns⟩ := Batch.exists_fromArrays hlength hn htype
  rw [hbatch, Outcome.toOption_ok, Option.map_some, Batch.content, hcolumns, hzip]

theorem wideColumn_spec {schema : Option Schema} {index : Nat} {values : List PyValue}
    {p : Field × Column} (h : wideColumn A schema index values = .ok p) :
  p.2.length = values.length ∧ p.2.type = p.1.type
  := by
  rw [wideColumn] at h
  split at h
  · dsimp only at h
    rw [bind_pure_comp] at h
    cases harray : A.array values (some (.decimal128 38 0)) with
    | error e =>
        rw [harray] at h
        cases h
    | ok array =>
        rw [harray] at h
        cases h
        exact ⟨A.array_length harray, A.array_type harray⟩
  · dsimp only at h
    rw [bind_pure_comp] at h
    cases harray : A.array values ((schema.bind (·[index]?)).map Field.type) with
    | error e =>
        rw [harray] at h
        cases h
    | ok array =>
        rw [harray] at h
        cases h
        exact ⟨A.array_length harray, rfl⟩

/-- A batch with a wide integer contains the columns encoded as the schema asks. -/
theorem content_wideBatch {columns : List (List PyValue)} {n : Nat}
    (hn : ∀ values ∈ columns, values.length = n) (schema : Option Schema) :
  (wideBatch A columns schema).toOption.map Batch.content
    = columnsAt A (schema.map Schema.encodings) columns
  := by
  have hcolumns : columnsAt A (schema.map Schema.encodings) columns
      = (columns.zipIdx.mapM fun p => wideColumn A schema p.2 p.1).toOption.map
          (List.map fun p => (p.1.metadata, p.2)) := by
    rw [Outcome.toOption_mapM, ← Outcome.mapM_option_map]
    simp only [toOption_wideColumn]
    rfl
  rw [hcolumns, wideBatch]
  cases hpairs : columns.zipIdx.mapM fun p => wideColumn A schema p.2 p.1 with
  | error e => rfl
  | ok pairs =>
      apply content_fromArrays
      intro p hp
      obtain ⟨q, hq, hwide⟩ := Outcome.exists_of_mem_mapM hpairs hp
      obtain ⟨hlength, htype⟩ := wideColumn_spec A hwide
      exact ⟨hlength.trans (hn q.1 (List.fst_mem_of_mem_zipIdx hq)), htype⟩

/-! ### Batches without one -/

/-- A column without a wide integer is built at the type asked for. -/
theorem columnAt_of_not_wide {values : List PyValue} (h : isWide values = false)
    (encoding : Option Encoding) :
  columnAt A encoding values
    = (A.array values (encoding.map Prod.fst)).toOption.map (Prod.mk (encoding.bind Prod.snd))
  := by
  rw [columnAt, h]
  rfl

/-- No column of columns without a wide integer holds one. -/
theorem isWide_eq_false {columns : List (List PyValue)} (h : columns.any isWide = false)
    {values : List PyValue} (hvalues : values ∈ columns) :
  isWide values = false
  := by
  rw [List.any_eq_false] at h
  simpa using h values hvalues

/-- Columns without a wide integer, encoded without a schema, are the inferred arrays. -/
theorem columnsAt_none {columns : List (List PyValue)} (hwide : columns.any isWide = false) :
  columnsAt A none columns
    = (columns.mapM fun values => A.array values none).toOption.map (List.map (Prod.mk none))
  := by
  rw [Outcome.toOption_mapM, ← Outcome.mapM_option_map, columnsAt]
  conv_rhs => rw [← List.zipIdx_map_fst 0 columns, List.mapM_map]
  apply Outcome.mapM_congr
  intro p hp
  rw [columnAt_of_not_wide A (isWide_eq_false hwide (List.fst_mem_of_mem_zipIdx hp))]
  rfl

/-- A batch of inferred columns contains the columns encoded without a schema. -/
theorem content_inferredBatch {columns : List (List PyValue)} {n : Nat}
    (hn : ∀ values ∈ columns, values.length = n) (hwide : columns.any isWide = false) :
  (inferredBatch A columns).toOption.map Batch.content = columnsAt A none columns
  := by
  rw [columnsAt_none A hwide, inferredBatch]
  cases harrays : columns.mapM fun values => A.array values none with
  | error e => rfl
  | ok arrays =>
      let field (index : Nat) (array : Column) : Field := ⟨toString index, array.type, true, none⟩
      have hpairs : ∀ p ∈ arrays.mapIdx fun index array => (field index array, array),
          p.2.length = n ∧ p.2.type = p.1.type := by
        intro p hp
        obtain ⟨index, hindex, rfl⟩ := List.mem_mapIdx.mp hp
        obtain ⟨values, hvalues, harray⟩ :=
          Outcome.exists_of_mem_mapM harrays (List.getElem_mem hindex)
        exact ⟨(A.array_length harray).trans (hn values hvalues), rfl⟩
      have hsnd : (arrays.mapIdx fun index array => (field index array, array)).map Prod.snd
          = arrays := by
        apply List.ext_getElem
        · simp
        · simp
      have hfst : (arrays.mapIdx fun index array => (field index array, array)).map Prod.fst
          = arrays.mapIdx field := by
        apply List.ext_getElem
        · simp
        · simp
      have hcontent := content_fromArrays hpairs
      rw [hsnd, hfst] at hcontent
      apply hcontent.trans
      rw [Outcome.toOption_ok, Option.map_some]
      congr 1
      apply List.ext_getElem
      · simp
      · simp [field]

/-- The columns of a schema's length, paired with its fields. -/
theorem zipIdx_map_getElem? {columns : List (List PyValue)} {schema : Schema}
    (hlength : columns.length = schema.length) :
  columns.zipIdx.map (fun p => (p.1, schema[p.2]?))
    = (columns.zip schema).map fun p => (p.1, some p.2)
  := by
  apply List.ext_getElem
  · simp [hlength]
  · intro index h₁ h₂
    rw [List.length_map, List.length_zipIdx, hlength] at h₁
    simp [h₁]

/-- Columns without a wide integer, encoded as a schema asks, are the arrays at its types. -/
theorem columnsAt_encodings {columns : List (List PyValue)} (hwide : columns.any isWide = false)
    {schema : Schema} (hlength : columns.length = schema.length) :
  columnsAt A (some schema.encodings) columns
    = ((columns.zip schema).mapM fun p => Prod.mk p.2 <$> A.array p.1 (some p.2.type)).toOption.map
        (List.map fun p => (p.1.metadata, p.2))
  := by
  have hzip : columnsAt A (some schema.encodings) columns
      = (columns.zipIdx.map fun p => (p.1, schema[p.2]?)).mapM
          fun p => columnAt A (p.2.map Field.encoding) p.1 := by
    rw [List.mapM_map]
    apply Outcome.mapM_congr
    intro p _
    rw [Option.bind_some, Schema.encodings, List.getElem?_map]
    rfl
  rw [hzip, zipIdx_map_getElem? hlength, List.mapM_map, Outcome.toOption_mapM,
    ← Outcome.mapM_option_map]
  apply Outcome.mapM_congr
  intro p hp
  simp only [Function.comp, Option.map_some]
  rw [columnAt_of_not_wide A (isWide_eq_false hwide (List.of_mem_zip hp).1),
    Outcome.toOption_map, Option.map_map]
  rfl

/-- The arrays at the types of a schema: one for each field. -/
theorem length_typedArrays {columns : List (List PyValue)} {schema : Schema}
    (hlength : columns.length = schema.length) {arrays : List Column}
    (h : ((columns.zip schema).mapM fun p => A.array p.1 (some p.2.type)) = .ok arrays) :
  arrays.length = schema.length
  := by
  rw [Outcome.length_of_mapM_eq_ok h, List.length_zip, hlength, Nat.min_self]

/-- The arrays at the types of a schema have the types of its fields. -/
theorem typedArrays_spec {columns : List (List PyValue)} {n : Nat}
    (hn : ∀ values ∈ columns, values.length = n) {schema : Schema}
    (hlength : columns.length = schema.length) {arrays : List Column}
    (h : ((columns.zip schema).mapM fun p => A.array p.1 (some p.2.type)) = .ok arrays) :
  ∀ p ∈ schema.zip arrays, p.2.length = n ∧ p.2.type = p.1.type
  := by
  intro p hp
  have hzip := Outcome.mapM_zip_pair (fun p => A.array p.1 (some p.2.type)) columns schema hlength
  rw [h] at hzip
  obtain ⟨q, hq, harray⟩ := Outcome.exists_of_mem_mapM hzip hp
  cases hcolumn : A.array q.1 (some q.2.type) with
  | error e =>
      rw [hcolumn] at harray
      cases harray
  | ok array =>
      rw [hcolumn] at harray
      cases harray
      exact ⟨(A.array_length hcolumn).trans (hn q.1 (List.of_mem_zip hq).1), A.array_type hcolumn⟩

/-- A batch built at a schema contains the columns encoded as the schema asks. -/
theorem content_typedBatch {columns : List (List PyValue)} {n : Nat}
    (hn : ∀ values ∈ columns, values.length = n) (hwide : columns.any isWide = false)
    {schema : Schema} (hlength : columns.length = schema.length) :
  (typedBatch A columns schema).toOption.map Batch.content
    = columnsAt A (some schema.encodings) columns
  := by
  rw [columnsAt_encodings A hwide hlength, typedBatch, if_neg (not_not.mpr hlength),
    Outcome.mapM_zip_pair _ _ _ hlength]
  cases harrays : (columns.zip schema).mapM fun p => A.array p.1 (some p.2.type) with
  | error e => rfl
  | ok arrays =>
      have hlengths := length_typedArrays A hlength harrays
      have hcontent := content_fromArrays (typedArrays_spec A hn hlength harrays)
      rw [List.map_fst_zip (Nat.le_of_eq hlengths.symm),
        List.map_snd_zip (Nat.le_of_eq hlengths)] at hcontent
      apply hcontent

/-- A schema with a field for every column fails only in ways that are caught. -/
theorem isCaught_of_typedBatch {columns : List (List PyValue)} {schema : Schema}
    (hlength : columns.length = schema.length) {e : PyError}
    (h : typedBatch A columns schema = .error e) :
  isCaught e
  := by
  rw [typedBatch, if_neg (not_not.mpr hlength)] at h
  cases harrays : (columns.zip schema).mapM fun p => A.array p.1 (some p.2.type) with
  | error d =>
      rw [harrays] at h
      cases h
      obtain ⟨p, -, harray⟩ := Outcome.exists_of_mapM_eq_error harrays
      rcases A.array_error harray with rfl | rfl | rfl <;> rfl
  | ok arrays =>
      have hlengths := length_typedArrays A hlength harrays
      rw [harrays] at h
      simp only [bind, Except.bind, Batch.fromArrays, if_neg (not_not.mpr hlengths)] at h
      split at h
      · cases h
      · cases h
        rfl

/-- What the encoding of the columns contains. -/
theorem content_encodeColumns {columns : List (List PyValue)} {n : Nat}
    (hn : ∀ values ∈ columns, values.length = n) (schema : Option Schema) :
  (encodeColumns A columns schema).toOption.map Batch.content
    = encodedAt A (schema.map Schema.encodings) columns
  := by
  unfold encodeColumns encodedAt
  split_ifs with hwide hfits
  · apply content_wideBatch A hn
  · have hnot : columns.any isWide = false := by simpa using hwide
    have hinferred := content_inferredBatch A hn hnot
    cases schema with
    | none =>
        rw [Option.map_none, Option.or_self]
        apply hinferred
    | some s =>
        have hlength : columns.length = s.length := by
          simpa [fits, Schema.encodings] using (of_decide_eq_true hfits).symm
        have htyped := content_typedBatch A hn hnot hlength
        rw [Option.map_some, ← htyped, ← hinferred]
        dsimp only
        cases hbatch : typedBatch A columns s with
        | ok batch => rfl
        | error e =>
            dsimp only
            rw [if_pos (isCaught_of_typedBatch A hlength hbatch)]
            rfl
  · cases schema with
    | none => exact absurd rfl hfits
    | some s =>
        have hlength : columns.length ≠ s.length := by
          intro h
          apply hfits
          apply decide_eq_true
          rw [Schema.encodings, List.length_map, h]
        dsimp only
        rw [typedBatch, if_pos hlength]
        rfl

/-! ### Columns of parameters -/

/-- The columns of parameters have a value for every row. -/
theorem length_of_parameterColumns {rows : List Row} {columns : List (List PyValue)}
    (h : parameterColumns rows = some columns) :
  ∃ n, ∀ values ∈ columns, values.length = n
  := by
  rw [parameterColumns] at h
  obtain ⟨sequences, -, h⟩ := Option.bind_eq_some_iff.mp h
  obtain ⟨first, -, h⟩ := Option.bind_eq_some_iff.mp h
  split at h
  · cases h
  · split at h
    · cases h
    · cases h
      use sequences.length
      intro values hvalues
      obtain ⟨index, -, rfl⟩ := List.mem_map.mp hvalues
      apply List.length_map

end MonetDB
