import MonetdbAdbc.Arrow.Encoding

/-!
# Schemas as hints

A schema only suggests the types of parameter columns.  Without a wide integer in any column
the schema is given up when an array cannot be built at its type.  With one, the other
columns are built at the types of their fields and nothing takes over when that fails: there
the schema decides whether a batch is built (`hint_iff`).
-/

namespace MonetDB

variable (A : PyArrow)

/-- An array can be built from values, at a type or else at the inferred one. -/
def Builds (values : List PyValue) (type : Option DataType) : Prop :=
  ∃ array, A.array values type = .ok array

/-- The type that a column is built at without a schema. -/
def unhintedType (values : List PyValue) : Option DataType :=
  if isWide values then some (.decimal128 38 0) else none

/-- With a schema, parameters are turned into a batch whenever they are without one. -/
structure Harmless (rows : List Row) (schema : Schema) : Prop where
  /-- The same parameters are not turned into a batch at all. -/
  skips : parameterRecordBatch A rows (some schema) = .ok none
    ↔ parameterRecordBatch A rows none = .ok none
  /-- A batch that is built without the schema is built with it. -/
  builds : ∀ batch, parameterRecordBatch A rows none = .ok (some batch) →
    ∃ batch', parameterRecordBatch A rows (some schema) = .ok (some batch')

/-! ### Which columns are built -/

theorem isSome_toOption_array (values : List PyValue) (type : Option DataType) :
  (A.array values type).toOption.isSome ↔ Builds A values type
  := by
  rw [Option.isSome_iff_exists]
  simp only [Outcome.toOption_eq_some_iff]
  rfl

/-- A column is encoded when an array can be built at HUGEINT, or at the type asked for. -/
theorem isSome_columnAt (encoding : Option Encoding) (values : List PyValue) :
  (columnAt A encoding values).isSome
    ↔ Builds A values ((unhintedType values).or (encoding.map Prod.fst))
  := by
  rw [columnAt, unhintedType]
  split_ifs with hwide
  · rw [Option.isSome_map, isSome_toOption_array, Option.some_or]
  · rw [Option.isSome_map, isSome_toOption_array, Option.none_or]

/-- The columns are encoded without a schema when each of them can be built. -/
theorem isSome_columnsAt_none (columns : List (List PyValue)) :
  (columnsAt A none columns).isSome ↔ ∀ values ∈ columns, Builds A values (unhintedType values)
  := by
  rw [columnsAt, Outcome.isSome_mapM]
  simp only [isSome_columnAt, Option.bind_none, Option.map_none, Option.or_none]
  constructor
  · intro h values hvalues
    obtain ⟨index, hindex, rfl⟩ := List.getElem_of_mem hvalues
    apply h (columns[index], index)
    apply List.mem_zipIdx_iff_getElem?.mpr
    apply List.getElem?_eq_getElem hindex
  · intro h p hp
    apply h p.1 (List.fst_mem_of_mem_zipIdx hp)

/-- The columns are encoded at a schema when the wide ones can be built, and each other one
at the type of its field. -/
theorem isSome_columnsAt_encodings {columns : List (List PyValue)} {schema : Schema}
    (hlength : columns.length = schema.length) :
  (columnsAt A (some schema.encodings) columns).isSome
    ↔ ∀ p ∈ columns.zip schema, Builds A p.1 ((unhintedType p.1).or (some p.2.type))
  := by
  have hzip : columnsAt A (some schema.encodings) columns
      = ((columns.zip schema).map fun p => (p.1, some p.2)).mapM
          fun p => columnAt A (p.2.map Field.encoding) p.1 := by
    rw [← zipIdx_map_getElem? hlength, List.mapM_map]
    apply Outcome.mapM_congr
    intro p _
    rw [Option.bind_some, Schema.encodings, List.getElem?_map]
    rfl
  rw [hzip, List.mapM_map, Outcome.isSome_mapM]
  apply forall₂_congr
  intro p _
  apply isSome_columnAt

/-! ### Which batches are built -/

/-- Parameters are not turned into a batch when they do not form columns. -/
theorem parameterRecordBatch_eq_none_iff (rows : List Row) (schema : Option Schema) :
  parameterRecordBatch A rows schema = .ok none ↔ parameterColumns rows = none
  := by
  rw [parameterRecordBatch]
  cases parameterColumns rows with
  | none => simp
  | some columns =>
      dsimp only
      cases encodeColumns A columns schema with
      | error e => simp
      | ok batch => simp

/-- Parameters that form columns are turned into a batch when the columns are encoded. -/
theorem exists_parameterRecordBatch_iff {rows : List Row} {columns : List (List PyValue)}
    (hcolumns : parameterColumns rows = some columns) (schema : Option Schema) :
  (∃ batch, parameterRecordBatch A rows schema = .ok (some batch))
    ↔ (encodedAt A (schema.map Schema.encodings) columns).isSome
  := by
  obtain ⟨n, hn⟩ := length_of_parameterColumns hcolumns
  rw [parameterRecordBatch, hcolumns, ← content_encodeColumns A hn, Option.isSome_map]
  dsimp only
  cases encodeColumns A columns schema with
  | error e => simp
  | ok batch => simp

/-- Without a wide integer a schema with a field for each column gives way to inference. -/
theorem isSome_encodedAt {columns : List (List PyValue)} (hwide : ¬ columns.any isWide)
    {encodings : List Encoding} (hlength : columns.length = encodings.length)
    (h : (columnsAt A none columns).isSome) :
  (encodedAt A (some encodings) columns).isSome
  := by
  have hfits : fits (some encodings) columns := decide_eq_true hlength.symm
  rw [encodedAt, if_neg hwide, if_pos hfits, Option.isSome_or, h, Bool.or_true]

/-- A schema with a field for each column is harmless exactly when this holds of parameters
with a wide integer whose columns can all be built without it: every column that has no wide
integer can be built at the type of its field. -/
theorem harmless_iff (rows : List Row) (schema : Schema)
    (hschema : ∀ columns, parameterColumns rows = some columns → columns.length = schema.length) :
  Harmless A rows schema
    ↔ ∀ columns, parameterColumns rows = some columns → columns.any isWide →
        (∀ values ∈ columns, Builds A values (unhintedType values)) →
        ∀ p ∈ columns.zip schema, ¬ isWide p.1 → Builds A p.1 (some p.2.type)
  := by
  constructor
  · intro h columns hcolumns hwide hbuilds p hp hnarrow
    rw [← isSome_columnsAt_none, ← encodedAt_none] at hbuilds
    obtain ⟨batch, hbatch⟩ := (exists_parameterRecordBatch_iff A hcolumns none).mpr hbuilds
    have hencoded := (exists_parameterRecordBatch_iff A hcolumns (some schema)).mp
      (h.builds batch hbatch)
    rw [Option.map_some, encodedAt, if_pos hwide,
      isSome_columnsAt_encodings A (hschema columns hcolumns)] at hencoded
    simpa [unhintedType, hnarrow] using hencoded p hp
  · intro h
    constructor
    · rw [parameterRecordBatch_eq_none_iff, parameterRecordBatch_eq_none_iff]
    · intro batch hbatch
      cases hcolumns : parameterColumns rows with
      | none =>
          rw [parameterRecordBatch, hcolumns] at hbatch
          cases hbatch
      | some columns =>
          have hlength := hschema columns hcolumns
          have hinferred := (exists_parameterRecordBatch_iff A hcolumns none).mp ⟨batch, hbatch⟩
          rw [Option.map_none, encodedAt_none] at hinferred
          rw [exists_parameterRecordBatch_iff A hcolumns, Option.map_some]
          by_cases hwide : columns.any isWide
          · have hbuilds := (isSome_columnsAt_none A columns).mp hinferred
            rw [encodedAt, if_pos hwide, isSome_columnsAt_encodings A hlength]
            intro p hp
            by_cases hcolumn : isWide p.1
            · have htype := hbuilds p.1 (List.of_mem_zip hp).1
              rw [unhintedType, if_pos hcolumn] at htype ⊢
              apply htype
            · rw [unhintedType, if_neg hcolumn, Option.none_or]
              apply h columns hcolumns hwide hbuilds p hp hcolumn
          · apply isSome_encodedAt A hwide _ hinferred
            rw [Schema.encodings, List.length_map, hlength]

/-- A wide integer beside a small one, whose field has the type that PyArrow infers. -/
theorem harmless_int64 :
  Harmless integerPyArrow [.sequence [.int (2 ^ 63), .int 5]]
    [{ name := "0", type := .int64 }, { name := "1", type := .int64 }]
  := by
  apply (harmless_iff integerPyArrow _ _ _).mpr
  · intro columns hcolumns hwide hbuilds p hp hnarrow
    cases hcolumns
    rcases List.mem_cons.mp hp with rfl | hp
    · exact absurd (by decide) hnarrow
    · rcases List.mem_singleton.mp hp with rfl
      exact ⟨_, rfl⟩
  · intro columns hcolumns
    cases hcolumns
    rfl

/-- Beside a wide integer, a field whose type was inferred from a null makes a batch fail that
is built without the schema. -/
theorem null_hint_fails :
  let rows := [Row.sequence [.int (2 ^ 63), .int 5]]
  let schema := [{ name := "0", type := .int64 }, { name := "1", type := .null }]
  (∃ batch, parameterRecordBatch integerPyArrow rows none = .ok (some batch))
    ∧ parameterRecordBatch integerPyArrow rows (some schema) = .error .arrowInvalid
    ∧ ¬ Harmless integerPyArrow rows schema
  := by
  intro rows schema
  have hbuilt : ∃ batch, parameterRecordBatch integerPyArrow rows none = .ok (some batch) :=
    ⟨_, rfl⟩
  have hfails : parameterRecordBatch integerPyArrow rows (some schema) = .error .arrowInvalid :=
    rfl
  refine ⟨hbuilt, hfails, ?_⟩
  intro h
  obtain ⟨batch, hbatch⟩ := hbuilt
  obtain ⟨batch', hbatch'⟩ := h.builds batch hbatch
  rw [hfails] at hbatch'
  cases hbatch'

end MonetDB
