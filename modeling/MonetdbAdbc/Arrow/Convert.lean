import MonetdbAdbc.Arrow.Basic
import MonetdbAdbc.Library.Outcome

/-!
# Columns as Python lists

`columnToPylist` converts a column either by PyArrow's `to_pylist`, one scalar at a
time, or by NumPy's `to_numpy().tolist()`.  `Scalars` is what PyArrow and Python
contribute: the conversion of scalars that are not dates or timestamps, and the time zone
objects.  `Numpy` is what NumPy contributes for the types on the whitelist that are not
dates or timestamps: there it gives what `to_pylist` gives.

`batchToRows` converts the columns of a record batch and transposes them into rows.
-/

namespace MonetDB

/-! ### Instants -/

/-- The first instant of year 1, in microseconds. -/
def minInstant : Int := -62135596800000000

/-- The last instant of year 9999, in microseconds. -/
def maxInstant : Int := 253402300799999999

/-- `datetime` represents the instant: its year is between 1 and 9999. -/
abbrev IsInstant (t : Int) : Prop := minInstant ≤ t ∧ t ≤ maxInstant

/-- `date` represents the day: its year is between 1 and 9999. -/
abbrev IsDay (d : Int) : Prop := -719162 ≤ d ∧ d ≤ 2932896

/-- The bit pattern NumPy reads as "not a time". -/
def notATime : Int := -2 ^ 63

/-- Microseconds in a unit that NumPy converts to a `datetime`. -/
def TimeUnit.micros? : TimeUnit → Option Int
  | .s => some 1000000
  | .ms => some 1000
  | .us => some 1
  | .ns => none

/-! ### Scalars -/

/-- What PyArrow and Python contribute to converting a scalar. -/
structure Scalars where
  /-- `pa.lib.string_to_tzinfo`. -/
  stringToTzinfo : String → Except PyError TzInfo
  /-- `timezone.utcoffset(None)`, in microseconds. -/
  utcoffset : TzInfo → Option Int
  /-- The wall clock of `datetime.replace(tzinfo=UTC).astimezone(timezone)`. -/
  astimezone : TzInfo → Int → Except PyError Int
  /-- `scalar.as_py()` for a scalar that is no date and no timestamp in `s`, `ms`, `us`. -/
  asPy : DataType → Cell → Except PyError PyValue
  /-- `int(value)` for a value that is no integer and no decimal. -/
  pyInt : PyValue → Except PyError Int
  /-- A zone whose offset is zero without a date has the wall clock of UTC. -/
  astimezone_of_zero : ∀ z, utcoffset z = some 0 → ∀ t, IsInstant t → astimezone z t = .ok t

variable (S : Scalars)

/-- A `datetime` at an instant, or the error of leaving the years 1 to 9999. -/
def toInstant (t : Int) : Except PyError Int :=
  if IsInstant t then .ok t else .error .overflowError

/-- `scalar.as_py()`. -/
def asPy : DataType → Cell → Except PyError PyValue
  | .date32, .ticks n => if IsDay n then .ok (.date n) else .error .overflowError
  | .timestamp u none, .ticks n =>
      match u.micros? with
      | some k => do
          let t ← toInstant (k * n)
          pure (.datetime t none)
      | none => S.asPy (.timestamp u none) (.ticks n)
  | .timestamp u (some z), .ticks n =>
      match u.micros? with
      | some k => do
          let timezone ← S.stringToTzinfo z
          let t ← toInstant (k * n)
          let wall ← S.astimezone timezone t
          pure (.datetime wall (some timezone))
      | none => S.asPy (.timestamp u (some z)) (.ticks n)
  | type, c => S.asPy type c

/-- One slot of `column.to_pylist()`. -/
def slotToPy (type : DataType) : Option Cell → Except PyError PyValue
  | none => .ok .none
  | some c => asPy S type c

/-- `column.to_pylist()`. -/
def toPylist (col : Column) : Except PyError (List PyValue) :=
  col.cells.mapM (slotToPy S col.type)

/-! ### The whitelist -/

/-- `_SAFE_TEMPORAL_UNITS`. -/
def safeTemporalUnits : List TimeUnit := [.s, .ms, .us]

/-- `_numpy_safe`. -/
def numpySafe (type : DataType) : Bool :=
  if type.isTimestamp then
    type.unit.any (· ∈ safeTemporalUnits)
  else if type.isTime then
    type.unit.any (· ∈ safeTemporalUnits)
  else if type.isDate then
    type.isDate32
  else
    match type with
    | .integer _ _ => true
    | .floating _ => true
    | .bool => true
    | .string => true
    | .largeString => true
    | .binary => true
    | .largeBinary => true
    | .decimal _ _ _ => true
    | _ => false

/-- The types NumPy converts through `datetime64` in days, seconds, milliseconds or
microseconds. -/
def isDatetime64 : DataType → Bool
  | .date32 => true
  | .timestamp u _ => u ∈ safeTemporalUnits
  | _ => false

/-- The integer and floating types, whose nulls NumPy turns into `nan`. -/
def nullsChangeType (type : DataType) : Bool :=
  type.isInteger || type.isFloating

/-! ### NumPy -/

/-- One element of `datetime64.tolist()`: a date or a naive datetime, the raw count
outside the years Python represents, `None` for "not a time". -/
def datetime64Item : DataType → Option Cell → PyValue
  | .date32, some (.ticks n) => if IsDay n then .date n else .int n
  | .timestamp u _, some (.ticks n) =>
      if n = notATime then
        .none
      else
        match u.micros? with
        | some k => if IsInstant (k * n) then .datetime (k * n) none else .int n
        | none => .int n
  | _, _ => .none

/-- What NumPy contributes for the types that do not go through `datetime64`. -/
structure Numpy where
  /-- `column.to_numpy(zero_copy_only=False).tolist()`. -/
  tolist : Column → Except PyError (List PyValue)
  /-- On the whitelist, and with no null that would become `nan`, it gives what
  `to_pylist` gives. -/
  tolist_eq : ∀ col : Column, numpySafe col.type → ¬ isDatetime64 col.type →
    (nullsChangeType col.type → col.nullCount = 0) → tolist col = toPylist S col

variable {S} (N : Numpy S)

/-- `column.to_numpy(zero_copy_only=False).tolist()`. -/
def numpyTolist (col : Column) : Except PyError (List PyValue) :=
  if isDatetime64 col.type then
    .ok (col.cells.map (datetime64Item col.type))
  else
    N.tolist col

/-- `value.replace(tzinfo=timezone)`; only a datetime has the method. -/
def replaceTzinfo (timezone : TzInfo) : PyValue → Except PyError PyValue
  | .datetime t _ => .ok (.datetime t (some timezone))
  | _ => .error .attributeError

/-- `value.replace(tzinfo=datetime.UTC).astimezone(timezone)`. -/
def replaceAstimezone (S : Scalars) (timezone : TzInfo) : PyValue → Except PyError PyValue
  | .datetime t _ => do
      let wall ← S.astimezone timezone t
      pure (.datetime wall (some timezone))
  | _ => .error .attributeError

/-- `_timestamp_to_pylist`. -/
def timestampToPylist (col : Column) : Except PyError (List PyValue) := do
  let values ← numpyTolist N col
  let timezone ← S.stringToTzinfo (col.type.tz.getD "")
  if S.utcoffset timezone = some 0 then
    values.mapM (replaceTzinfo timezone)
  else
    values.mapM (replaceAstimezone S timezone)

/-- `column_to_pylist`. -/
def columnToPylist (col : Column) : Except PyError (List PyValue) :=
  let nullsChangeValues : Bool :=
    col.nullCount ≠ 0 && (col.type.isInteger || col.type.isFloating)
  let tinyScalarBatch : Bool := col.length = 1 && !col.type.isTemporal
  let timestampWithTimezone : Bool := col.type.isTimestamp && col.type.tz.isSome
  if timestampWithTimezone && col.nullCount = 0 && numpySafe col.type then
    timestampToPylist N col
  else if tinyScalarBatch || nullsChangeValues || timestampWithTimezone
      || !numpySafe col.type then
    toPylist S col
  else
    numpyTolist N col

/-! ### Rows -/

/-- `None if value is None else int(value)`: a decimal is truncated towards zero. -/
def toInt (S : Scalars) : PyValue → Except PyError PyValue
  | .none => .ok .none
  | .int n => .ok (.int n)
  | .bool b => .ok (.int b.toNat)
  | .decimal unscaled scale => .ok (.int (unscaled.tdiv (10 ^ scale)))
  | v => .int <$> S.pyInt v

/-- The field carries the HUGEINT extension. -/
def isHugeInt (field : Field) : Bool :=
  field.metadata? arrowExtensionName = some monetDBHugeIntExtension

/-- One column of `batch_to_rows`. -/
def fieldToPylist (field : Field) (col : Column) : Except PyError (List PyValue) := do
  let values ← columnToPylist N col
  if isHugeInt field then values.mapM (toInt S) else pure values

/-- The rows of a table given by its columns. -/
def zipColumns : List (List PyValue) → List (List PyValue)
  | [] => []
  | [column] => column.map fun v => [v]
  | column :: columns => List.zipWith List.cons column (zipColumns columns)

/-- `list(zip(*columns, strict=True))`. -/
def zipStrict (columns : List (List PyValue)) : Except PyError (List (List PyValue)) :=
  if ∀ column ∈ columns, column.length = (columns.headD []).length then
    .ok (zipColumns columns)
  else
    .error .valueError

/-- `batch_to_rows`. -/
def batchToRows (batch : Batch) : Except PyError (List (List PyValue)) := do
  let columns ← batch.columns.mapM fun p => fieldToPylist N p.1 p.2
  zipStrict columns

/-! ### Lengths -/

variable {N}

theorem length_toPylist {col : Column} {values : List PyValue} (h : toPylist S col = .ok values) :
  values.length = col.length
  := Outcome.length_of_mapM_eq_ok h

/-- NumPy gives a value for every slot of a column that `column_to_pylist` hands it. -/
theorem length_numpyTolist {col : Column} {values : List PyValue} (hsafe : numpySafe col.type)
    (hnulls : nullsChangeType col.type → col.nullCount = 0)
    (h : numpyTolist N col = .ok values) :
  values.length = col.length
  := by
  rw [numpyTolist] at h
  split at h
  · cases h
    apply List.length_map
  · rename_i hdate
    rw [N.tolist_eq col hsafe hdate hnulls] at h
    apply length_toPylist h

theorem length_timestampToPylist {col : Column} {values : List PyValue}
    (hsafe : numpySafe col.type) (hnulls : col.nullCount = 0)
    (h : timestampToPylist N col = .ok values) :
  values.length = col.length
  := by
  rw [timestampToPylist] at h
  cases hnaive : numpyTolist N col with
  | error e =>
      rw [hnaive] at h
      cases h
  | ok naive =>
      rw [← length_numpyTolist hsafe (fun _ => hnulls) hnaive]
      rw [hnaive] at h
      cases hzone : S.stringToTzinfo (col.type.tz.getD "") with
      | error e =>
          rw [hzone] at h
          cases h
      | ok timezone =>
          rw [hzone] at h
          simp only [bind, Except.bind] at h
          split at h
          · apply Outcome.length_of_mapM_eq_ok h
          · apply Outcome.length_of_mapM_eq_ok h

/-- A column gives a value for every slot. -/
theorem length_columnToPylist {col : Column} {values : List PyValue}
    (h : columnToPylist N col = .ok values) :
  values.length = col.length
  := by
  rw [columnToPylist] at h
  split at h
  · rename_i hfast
    simp only [Bool.and_eq_true, decide_eq_true_eq] at hfast
    apply length_timestampToPylist hfast.2 hfast.1.2 h
  · split at h
    · apply length_toPylist h
    · rename_i hslow
      simp only [Bool.or_eq_true, not_or, Bool.not_eq_true, Bool.not_eq_false'] at hslow
      apply length_numpyTolist hslow.2 _ h
      intro hchange
      have hnulls := hslow.1.1.2
      rw [nullsChangeType] at hchange
      simpa [hchange] using hnulls

theorem length_fieldToPylist {field : Field} {col : Column} {values : List PyValue}
    (h : fieldToPylist N field col = .ok values) :
  values.length = col.length
  := by
  rw [fieldToPylist] at h
  cases hcol : columnToPylist N col with
  | error e =>
      rw [hcol] at h
      cases h
  | ok converted =>
      rw [← length_columnToPylist hcol]
      rw [hcol] at h
      simp only [bind, Except.bind] at h
      split at h
      · apply Outcome.length_of_mapM_eq_ok h
      · cases h
        rfl

theorem zipColumns_cons (column : List PyValue) {columns : List (List PyValue)}
    (h : columns ≠ []) :
  zipColumns (column :: columns) = List.zipWith List.cons column (zipColumns columns)
  := by
  cases columns with
  | nil => exact absurd rfl h
  | cons _ _ => rfl

/-- Columns of one length form as many rows. -/
theorem length_zipColumns {columns : List (List PyValue)} {n : Nat} (hne : columns ≠ [])
    (h : ∀ column ∈ columns, column.length = n) :
  (zipColumns columns).length = n
  := by
  induction columns with
  | nil => exact absurd rfl hne
  | cons column columns ih =>
      have hcolumn := h column List.mem_cons_self
      cases columns with
      | nil => rw [zipColumns, List.length_map, hcolumn]
      | cons column' columns =>
          have hrest := ih (List.cons_ne_nil _ _) (fun c hc => h c (List.mem_cons_of_mem _ hc))
          rw [zipColumns_cons _ (List.cons_ne_nil _ _), List.length_zipWith, hcolumn, hrest,
            Nat.min_self]

/-- A batch with columns gives a row for each of its rows. -/
theorem length_batchToRows {batch : Batch} {rows : List (List PyValue)}
    (hne : batch.columns ≠ []) (h : batchToRows N batch = .ok rows) :
  rows.length = batch.numRows
  := by
  rw [batchToRows] at h
  cases hcolumns : batch.columns.mapM (fun p => fieldToPylist N p.1 p.2) with
  | error e =>
      rw [hcolumns] at h
      cases h
  | ok columns =>
      rw [hcolumns] at h
      simp only [bind, Except.bind, zipStrict] at h
      split at h
      · rename_i hequal
        cases h
        have hlengths : ∀ column ∈ columns, column.length = batch.numRows := by
          intro column hcolumn
          obtain ⟨p, hp, hconvert⟩ := Outcome.exists_of_mem_mapM hcolumns hcolumn
          rw [length_fieldToPylist hconvert, batch.aligned p hp]
        apply length_zipColumns _ hlengths
        intro hnil
        have hlength := Outcome.length_of_mapM_eq_ok hcolumns
        rw [hnil] at hlength
        apply hne (List.length_eq_zero_iff.mp hlength.symm)
      · cases h

/-- A batch without rows gives no rows. -/
theorem batchToRows_of_numRows_eq_zero {batch : Batch} {rows : List (List PyValue)}
    (hrows : batch.numRows = 0) (h : batchToRows N batch = .ok rows) :
  rows = []
  := by
  rcases eq_or_ne batch.columns [] with hnil | hne
  · rw [batchToRows, hnil] at h
    cases h
    rfl
  · rw [← List.length_eq_zero_iff, length_batchToRows hne h, hrows]

end MonetDB
