import MonetdbAdbc.Arrow.Basic

/-!
# Parameter batches

`parameterRecordBatch` turns parameter rows into a record batch.  Rows that are no
sequences of one positive width are not turned into a batch at all.  A column holding an
integer outside the signed 64-bit range is forced to HUGEINT; then every other column is
encoded at the type of its field in the schema, if there is a schema.  Without such a
column the schema, if there is one, is tried as a whole, and inference takes over when an
array cannot be built at its type.

`PyArrow` is the construction of arrays, which is not part of the modelled code.
-/

namespace MonetDB

/-- Array construction. -/
structure PyArrow where
  /-- `pa.array(values, type=type)`, inferring the type when there is none. -/
  array : List PyValue → Option DataType → Except PyError Column
  /-- An array has the type it was asked to have. -/
  array_type : ∀ {values type col}, array values (some type) = .ok col → col.type = type
  /-- An array has a slot for every value. -/
  array_length : ∀ {values type col}, array values type = .ok col → col.length = values.length
  /-- Array construction fails with `ArrowInvalid`, `ArrowTypeError` or `OverflowError`. -/
  array_error : ∀ {values type e}, array values type = .error e →
    e = .arrowInvalid ∨ e = .arrowTypeError ∨ e = .overflowError

/-- A parameter row: a sequence of values, or an object that is no sequence or is a
string. -/
inductive Row where
  | sequence (values : List PyValue)
  | other (object : PyValue)
deriving DecidableEq, Repr

/-- The values of a row that is a sequence. -/
def Row.values? : Row → Option (List PyValue)
  | .sequence values => some values
  | .other _ => none

/-- `MIN_INT64`. -/
def minInt64 : Int := -2 ^ 63

/-- `MAX_INT64`. -/
def maxInt64 : Int := 2 ^ 63 - 1

/-- An integer, not a boolean, outside the signed 64-bit range. -/
def isWideInteger : PyValue → Bool
  | .int n => ¬ (minInt64 ≤ n ∧ n ≤ maxInt64)
  | _ => false

/-- A column of values that holds a wide integer. -/
def isWide (values : List PyValue) : Bool :=
  values.any isWideInteger

/-- The metadata of a HUGEINT field. -/
def hugeIntMetadata : List (String × String) :=
  [(arrowExtensionName, monetDBHugeIntExtension)]

/-- The exceptions `parameter_record_batch` catches. -/
def isCaught : PyError → Bool
  | .arrowInvalid => true
  | .arrowTypeError => true
  | .overflowError => true
  | _ => false

variable (A : PyArrow)

/-- `[[row[index] for row in rows] for index in range(width)]`. -/
def transpose (rows : List (List PyValue)) (width : Nat) : List (List PyValue) :=
  (List.range width).map fun index => rows.map fun row => row.getD index .none

/-- `record_batch(columns, names=[str(index) for index in range(width)])`. -/
def inferredBatch (columns : List (List PyValue)) : Except PyError Batch := do
  let arrays ← columns.mapM fun values => A.array values none
  let fields := arrays.mapIdx fun index array => { name := toString index, type := array.type }
  Batch.fromArrays arrays fields

/-- `record_batch(columns, schema=schema)`. -/
def typedBatch (columns : List (List PyValue)) (schema : Schema) : Except PyError Batch :=
  if columns.length ≠ schema.length then
    .error .valueError
  else do
    let arrays ← (columns.zip schema).mapM fun p => A.array p.1 (some p.2.type)
    Batch.fromArrays arrays schema

/-- One column of a batch that holds a wide integer in some column. -/
def wideColumn (schema : Option Schema) (index : Nat) (values : List PyValue) :
    Except PyError (Field × Column) :=
  if isWide values then do
    let dataType := DataType.decimal128 38 0
    let array ← A.array values (some dataType)
    pure ({ name := toString index, type := dataType, metadata := some hugeIntMetadata }, array)
  else do
    let field := schema.bind fun s => s[index]?
    let array ← A.array values (field.map Field.type)
    pure ({ name := toString index, type := array.type, metadata := field.bind Field.metadata },
      array)

/-- A batch that holds a wide integer in some column. -/
def wideBatch (columns : List (List PyValue)) (schema : Option Schema) :
    Except PyError Batch := do
  let pairs ← columns.zipIdx.mapM fun p => wideColumn A schema p.2 p.1
  Batch.fromArrays (pairs.map Prod.snd) (pairs.map Prod.fst)

/-- The encoding of the columns. -/
def encodeColumns (columns : List (List PyValue)) (schema : Option Schema) :
    Except PyError Batch :=
  if columns.any isWide then
    wideBatch A columns schema
  else
    match schema with
    | none => inferredBatch A columns
    | some s =>
        match typedBatch A columns s with
        | .ok batch => .ok batch
        | .error e => if isCaught e then inferredBatch A columns else .error e

/-- The columns of rows that are sequences of one positive width. -/
def parameterColumns (rows : List Row) : Option (List (List PyValue)) := do
  let sequences ← rows.mapM Row.values?
  let first ← sequences.head?
  if first.length = 0 then
    none
  else if sequences.any fun row => row.length ≠ first.length then
    none
  else
    some (transpose sequences first.length)

/-- `parameter_record_batch`. -/
def parameterRecordBatch (rows : List Row) (schema : Option Schema) :
    Except PyError (Option Batch) :=
  match parameterColumns rows with
  | none => .ok none
  | some columns => some <$> encodeColumns A columns schema

/-! ### Integer columns -/

/-- The slot of an integer, in a column of integers or of decimals without a fraction. -/
def integerCell (type : DataType) : PyValue → Option Cell
  | .int n => if type.isInteger then some (.value (.int n)) else some (.value (.decimal n 0))
  | _ => none

/-- The types that integers are stored at here. -/
def isIntegerType (type : DataType) : Bool :=
  type = .int64 ∨ type = .decimal128 38 0

/-- The value is null or an integer that the type can store. -/
def storesInteger (type : DataType) : PyValue → Bool
  | .none => true
  | .int n => if type.isInteger then !isWideInteger (.int n) else n.natAbs < 10 ^ 38
  | _ => false

/-- `pa.array` on integers, which are inferred to be 64-bit integers. -/
def integerArray (values : List PyValue) (type : Option DataType) : Except PyError Column :=
  let type := type.getD .int64
  if h : isIntegerType type ∧ values.all (storesInteger type) then
    .ok ⟨type, values.map (integerCell type), by
      intro c hc
      obtain ⟨v, -, hv⟩ := List.mem_map.mp hc
      have htype : type = .int64 ∨ type = .decimal128 38 0 := of_decide_eq_true h.1
      rcases htype with htype | htype <;> rw [htype] at hv ⊢ <;> cases v <;> cases hv <;> trivial⟩
  else
    .error .arrowInvalid

/-- Array construction that knows integers only. -/
def integerPyArrow : PyArrow where
  array := integerArray
  array_type h := by
    rw [integerArray] at h
    split at h <;> cases h
    rfl
  array_length h := by
    rw [integerArray] at h
    split at h <;> cases h
    apply List.length_map
  array_error h := by
    rw [integerArray] at h
    split at h <;> cases h
    exact .inl rfl

end MonetDB
