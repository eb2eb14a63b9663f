import Mathlib.Data.List.Nodup
import Mathlib.Data.List.Basic

/-!
# The catalog

The tables of MonetDB's catalog that reflection reads, as lists of rows in the order in
which the server stores them.  The keys, index columns and indexes of permanent tables are
in the `sys` schema and those of local temporary tables in `tmp`; everything else is in
`sys` for both.

A `Catalog` carries what the server guarantees of it: identifiers of schemas and of tables
are unique, and so are the names of schemas, and the names of tables and of sequences
within a schema.
-/

namespace MonetDB

/-! ### Rows -/

/-- The identity of an object of the catalog. -/
abbrev ObjectId := Int

/-- A row of `sys.schemas`. -/
structure SchemaRow where
  id : ObjectId
  name : String
deriving DecidableEq, Repr

/-- A row of `sys.tables`. -/
structure TableRow where
  id : ObjectId
  name : String
  schemaId : ObjectId
  type : Int
deriving DecidableEq, Repr

/-- A row of `sys.columns`. -/
structure ColumnRow where
  id : ObjectId
  tableId : ObjectId
  name : String
  type : String
  typeDigits : Int := 0
  typeScale : Int := 0
  null : Bool := true
  default : Option String := none
  number : Int
deriving DecidableEq, Repr

/-- A row of `sys.comments`. -/
structure CommentRow where
  id : ObjectId
  remark : String
deriving DecidableEq, Repr

/-- A row of `sys.sequences`. -/
structure SequenceRow where
  id : ObjectId
  schemaId : ObjectId
  name : String
  start : Int := 1
  minvalue : Int := 1
  maxvalue : Int := 9223372036854775807
  increment : Int := 1
  cacheinc : Int := 1
  cycle : Bool := false
deriving DecidableEq, Repr

/-- A row of `sys.dependencies`. -/
structure DependencyRow where
  id : ObjectId
  dependId : ObjectId
  dependType : Int
deriving DecidableEq, Repr

/-- A row of `keys`. -/
structure KeyRow where
  id : ObjectId
  tableId : ObjectId
  type : Int
  name : String
  rkey : ObjectId := -1
  action : Int := -1
deriving DecidableEq, Repr

/-- A row of `objects`: a column of a key or of an index, at a position. -/
structure ObjectRow where
  id : ObjectId
  name : String
  nr : Int
deriving DecidableEq, Repr

/-- A row of `idxs`. -/
structure IdxRow where
  id : ObjectId
  tableId : ObjectId
  name : String
deriving DecidableEq, Repr

/-- The catalog tables that `sys` and `tmp` each have their own of. -/
structure KeyCatalog where
  keys : List KeyRow := []
  objects : List ObjectRow := []
  idxs : List IdxRow := []

/-- The catalog. -/
structure Catalog where
  schemas : List SchemaRow
  tables : List TableRow
  columns : List ColumnRow := []
  comments : List CommentRow := []
  sequences : List SequenceRow := []
  dependencies : List DependencyRow := []
  sys : KeyCatalog := {}
  tmp : KeyCatalog := {}
  /-- `CURRENT_SCHEMA`. -/
  currentSchema : String
  /-- `sys.check_constraint`, of the names of a schema and of a key. -/
  checkConstraint : String → String → Option String := fun _ _ => none
  schemaIds : (schemas.map SchemaRow.id).Nodup
  schemaNames : (schemas.map SchemaRow.name).Nodup
  tableIds : (tables.map TableRow.id).Nodup
  tableNames : (tables.map fun t => (t.schemaId, t.name)).Nodup
  sequenceNames : (sequences.map fun s => (s.schemaId, s.name)).Nodup
  currentSchema_mem : currentSchema ∈ schemas.map SchemaRow.name

/-! ### Small catalogs

What a catalog of the schemas `app` and `tmp`, or one without sequences, carries. -/

theorem appSchemaIds : ([⟨2000, "app"⟩, ⟨2114, "tmp"⟩].map SchemaRow.id).Nodup := by decide

theorem appSchemaNames : ([⟨2000, "app"⟩, ⟨2114, "tmp"⟩].map SchemaRow.name).Nodup := by
  decide

theorem app_mem_schemas : "app" ∈ [⟨2000, "app"⟩, ⟨2114, "tmp"⟩].map SchemaRow.name := by
  decide

theorem noSequenceNames : (([] : List SequenceRow).map fun s => (s.schemaId, s.name)).Nodup := by
  decide

/-! ### Codes -/

/-- `TABLE_TYPE_TABLE`. -/
def tableTypeTable : Int := 0

/-- `TABLE_TYPE_VIEW`. -/
def tableTypeView : Int := 1

/-- `TABLE_TYPE_MERGE`. -/
def tableTypeMerge : Int := 3

/-- `TABLE_TYPE_REMOTE`. -/
def tableTypeRemote : Int := 5

/-- `TABLE_TYPE_REPLICA`. -/
def tableTypeReplica : Int := 6

/-- `TABLE_TYPE_SYSTEM_TABLE`. -/
def tableTypeSystemTable : Int := 10

/-- `TABLE_TYPE_SYSTEM_VIEW`. -/
def tableTypeSystemView : Int := 11

/-- `TABLE_TYPE_LOCAL_TEMPORARY`. -/
def tableTypeLocalTemporary : Int := 30

/-- `TABLE_TYPES`. -/
def tableTypes : List Int :=
  [tableTypeTable, tableTypeMerge, tableTypeRemote, tableTypeReplica]

/-- `KEY_TYPE_PRIMARY`. -/
def keyTypePrimary : Int := 0

/-- `KEY_TYPE_UNIQUE`. -/
def keyTypeUnique : Int := 1

/-- `KEY_TYPE_FOREIGN`. -/
def keyTypeForeign : Int := 2

/-- `KEY_TYPE_CHECK`. -/
def keyTypeCheck : Int := 4

/-! ### Rows are determined by what is unique of them -/

variable (catalog : Catalog)

theorem Catalog.schema_eq_of_name {s s' : SchemaRow} (hs : s ∈ catalog.schemas)
    (hs' : s' ∈ catalog.schemas) (h : s.name = s'.name) :
  s = s'
  := List.inj_on_of_nodup_map catalog.schemaNames hs hs' h

theorem Catalog.schema_eq_of_id {s s' : SchemaRow} (hs : s ∈ catalog.schemas)
    (hs' : s' ∈ catalog.schemas) (h : s.id = s'.id) :
  s = s'
  := List.inj_on_of_nodup_map catalog.schemaIds hs hs' h

theorem Catalog.table_eq_of_id {t t' : TableRow} (ht : t ∈ catalog.tables)
    (ht' : t' ∈ catalog.tables) (h : t.id = t'.id) :
  t = t'
  := List.inj_on_of_nodup_map catalog.tableIds ht ht' h

theorem Catalog.table_eq_of_name {t t' : TableRow} (ht : t ∈ catalog.tables)
    (ht' : t' ∈ catalog.tables) (hs : t.schemaId = t'.schemaId) (h : t.name = t'.name) :
  t = t'
  := by
  apply List.inj_on_of_nodup_map catalog.tableNames ht ht'
  rw [hs, h]

theorem Catalog.sequence_eq_of_name {s s' : SequenceRow} (hs : s ∈ catalog.sequences)
    (hs' : s' ∈ catalog.sequences) (hid : s.schemaId = s'.schemaId) (h : s.name = s'.name) :
  s = s'
  := by
  apply List.inj_on_of_nodup_map catalog.sequenceNames hs hs'
  rw [hid, h]

end MonetDB
