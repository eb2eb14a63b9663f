import Mathlib.Algebra.Group.Int.Defs
import Mathlib.Algebra.Group.Nat.Defs
import Mathlib.Data.List.Basic

/-!
# Python values and Arrow columns

`PyValue` holds the Python objects that rows consist of.  `DataType` lists the Arrow
types; `Field` and `Schema` are what PyArrow attaches to the columns of a record batch.

A `Column` is an Arrow array: its type and its slots, a null slot being `none`.  Dates
and timestamps are stored as a count of units, so the slot of such a column is a number
of `ticks` within the width of the type; a slot of any other type is the value it
denotes.  A `Batch` pairs the fields of a schema with columns of one length.
-/

namespace MonetDB

/-! ### Python values -/

/-- A Python time zone object. -/
structure TzInfo where
  name : String
deriving DecidableEq, Repr

/-- The Python objects that parameters and result rows are made of.  Instants and spans
are in microseconds, dates in days, both counted from 1970-01-01. -/
inductive PyValue where
  | none
  | bool (b : Bool)
  | int (n : Int)
  | float (bits : UInt64)
  | decimal (unscaled : Int) (scale : Nat)
  | str (s : String)
  | bytes (b : List UInt8)
  | date (days : Int)
  | datetime (micros : Int) (tz : Option TzInfo)
  | time (micros : Int) (tz : Option TzInfo)
  | timedelta (micros : Int)
  | object (type : String) (identity : Nat)
deriving DecidableEq, Repr

/-- The Python exceptions the modelled code raises or passes on. -/
inductive PyError where
  | arrowInvalid
  | arrowTypeError
  | overflowError
  | valueError
  | attributeError
  | assertionError
  | databaseError (message : String)
deriving DecidableEq, Repr

/-! ### Types -/

/-- The unit of an Arrow timestamp, time or duration. -/
inductive TimeUnit where
  | s
  | ms
  | us
  | ns
deriving DecidableEq, Repr

/-- The types of Arrow columns.  `nested` stands for lists, structs, maps, dictionaries
and extension types. -/
inductive DataType where
  | null
  | bool
  | integer (signed : Bool) (bits : Nat)
  | floating (bits : Nat)
  | string
  | largeString
  | stringView
  | binary
  | largeBinary
  | fixedSizeBinary (width : Nat)
  | decimal (bits precision : Nat) (scale : Int)
  | date32
  | date64
  | time (unit : TimeUnit)
  | timestamp (unit : TimeUnit) (tz : Option String)
  | duration (unit : TimeUnit)
  | interval
  | nested (name : String)
deriving DecidableEq, Repr

namespace DataType

/-- `pa.int64()`. -/
abbrev int64 : DataType := .integer true 64

/-- `pa.decimal128(precision, scale)`. -/
abbrev decimal128 (precision : Nat) (scale : Int) : DataType := .decimal 128 precision scale

def isInteger : DataType → Bool
  | .integer _ _ => true
  | _ => false

def isFloating : DataType → Bool
  | .floating _ => true
  | _ => false

def isTimestamp : DataType → Bool
  | .timestamp _ _ => true
  | _ => false

def isTime : DataType → Bool
  | .time _ => true
  | _ => false

def isDate : DataType → Bool
  | .date32 => true
  | .date64 => true
  | _ => false

def isDate32 : DataType → Bool
  | .date32 => true
  | _ => false

def isTemporal : DataType → Bool
  | .date32 => true
  | .date64 => true
  | .time _ => true
  | .timestamp _ _ => true
  | .duration _ => true
  | .interval => true
  | _ => false

/-- The unit of a type that has one. -/
def unit : DataType → Option TimeUnit
  | .time u => some u
  | .timestamp u _ => some u
  | .duration u => some u
  | _ => none

/-- The time zone of a timestamp type, if it has one. -/
def tz : DataType → Option String
  | .timestamp _ z => z
  | _ => none

end DataType

/-- A field of a schema.  Metadata maps keys to values, both byte strings. -/
structure Field where
  name : String
  type : DataType
  nullable : Bool := true
  metadata : Option (List (String × String)) := none
deriving DecidableEq, Repr

abbrev Schema := List Field

/-- The value of a metadata key. -/
def Field.metadata? (f : Field) (key : String) : Option String :=
  f.metadata.bind fun m => m.lookup key

/-- `b"ARROW:extension:name"`. -/
def arrowExtensionName : String := "ARROW:extension:name"

/-- `b"monetdb.hugeint"`. -/
def monetDBHugeIntExtension : String := "monetdb.hugeint"

/-! ### Columns -/

/-- A slot of a column: a count of units, or the value the slot denotes. -/
inductive Cell where
  | ticks (n : Int)
  | value (v : PyValue)
deriving DecidableEq, Repr

/-- The slots a column of a type can hold: 32-bit days, 64-bit timestamps, and values. -/
def Cell.Fits : DataType → Cell → Prop
  | .date32, .ticks n => -2 ^ 31 ≤ n ∧ n < 2 ^ 31
  | .date32, .value _ => False
  | .timestamp _ _, .ticks n => -2 ^ 63 ≤ n ∧ n < 2 ^ 63
  | .timestamp _ _, .value _ => False
  | _, .ticks _ => False
  | _, .value _ => True

/-- An Arrow array. -/
structure Column where
  type : DataType
  /-- The slots, `none` for a null. -/
  cells : List (Option Cell)
  /-- Every slot fits the type. -/
  fits : ∀ c, some c ∈ cells → c.Fits type

namespace Column

/-- `len(column)`. -/
def length (col : Column) : Nat :=
  col.cells.length

/-- `column.null_count`. -/
def nullCount (col : Column) : Nat :=
  col.cells.countP (·.isNone)

/-- A column without nulls has a slot at every index. -/
theorem exists_of_nullCount_eq_zero {col : Column} (h : col.nullCount = 0) {o : Option Cell}
    (ho : o ∈ col.cells) :
  ∃ c, o = some c
  := by
  rw [nullCount, List.countP_eq_zero] at h
  cases o with
  | none => exact absurd rfl (h none ho)
  | some c => exact ⟨c, rfl⟩

end Column

/-- A record batch: fields paired with columns of one length. -/
structure Batch where
  columns : List (Field × Column)
  numRows : Nat
  /-- The columns have one slot for every row. -/
  aligned : ∀ p ∈ columns, p.2.length = numRows
  /-- The columns have the types of their fields. -/
  typed : ∀ p ∈ columns, p.2.type = p.1.type

namespace Batch

/-- `batch.schema`. -/
def schema (b : Batch) : Schema :=
  b.columns.map Prod.fst

/-- `len(arrays[0])` if there is one. -/
def rowsOf (columns : List (Field × Column)) : Nat :=
  (columns.head?.map fun p => p.2.length).getD 0

/-- `RecordBatch.from_arrays(arrays, schema=schema)`: a schema of the wrong length is a
`ValueError`, columns of unequal length or of another type than their fields are invalid. -/
def fromArrays (arrays : List Column) (schema : Schema) : Except PyError Batch :=
  if arrays.length ≠ schema.length then
    .error .valueError
  else
    let columns := schema.zip arrays
    if h : (∀ p ∈ columns, p.2.length = rowsOf columns) ∧ ∀ p ∈ columns, p.2.type = p.1.type then
      .ok ⟨columns, rowsOf columns, h.1, h.2⟩
    else
      .error .arrowInvalid

/-- Arrays of one length with the types of the fields form a record batch. -/
theorem exists_fromArrays {arrays : List Column} {schema : Schema} {n : Nat}
    (hlength : arrays.length = schema.length) (hn : ∀ a ∈ arrays, a.length = n)
    (htype : ∀ p ∈ schema.zip arrays, p.2.type = p.1.type) :
  ∃ b, fromArrays arrays schema = .ok b ∧ b.columns = schema.zip arrays
  := by
  have hrows : ∀ p ∈ schema.zip arrays, p.2.length = rowsOf (schema.zip arrays) := by
    intro p hp
    cases hz : schema.zip arrays with
    | nil =>
        rw [hz] at hp
        cases hp
    | cons q qs =>
        have hq : q ∈ schema.zip arrays := by
          rw [hz]
          apply List.mem_cons_self
        rw [hn p.2 (List.of_mem_zip hp).2]
        apply (hn q.2 (List.of_mem_zip hq).2).symm
  refine ⟨⟨schema.zip arrays, _, hrows, htype⟩, ?_, rfl⟩
  rw [fromArrays, if_neg (not_not.mpr hlength)]
  apply dif_pos ⟨hrows, htype⟩

end Batch

end MonetDB
