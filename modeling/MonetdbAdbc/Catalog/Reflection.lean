import Mathlib.Order.Defs.LinearOrder
import Mathlib.Data.String.Basic
import MonetdbAdbc.Catalog.Basic
import MonetdbAdbc.Library.Query

/-!
# Looking up names

The lookups and the lists of names of `MonetDBReflection`.  They ask one question each,
by a query of their own; the batched reflection is in the module on resolution.
-/

namespace MonetDB

/-! ### Errors -/

/-- The errors that reflection raises, with their messages. -/
inductive ReflectionError where
  | invalidRequest (message : String)
  | noSuchTable (message : String)
deriving DecidableEq, Repr

/-- A Python `Optional[str]` in an f-string. -/
def formatOptional : Option String → String
  | none => "None"
  | some s => s

/-- The name of a table in the message of `NoSuchTableError`. -/
def qualifiedName (schema : Option String) (tableName : String) : String :=
  match schema with
  | none => tableName
  | some s => if s = "" then tableName else s ++ "." ++ tableName

variable (catalog : Catalog)

/-! ### Lookups -/

/-- The schema of a schema argument: the current schema if there is none. -/
def Catalog.schema? (schema : Option String) : Option SchemaRow :=
  catalog.schemas.find? fun s => s.name = schema.getD catalog.currentSchema

/-- `_schema_id`. -/
def schemaId (schema : Option String) : Except ReflectionError ObjectId :=
  match catalog.schema? schema with
  | some s => .ok s.id
  | none => .error (.invalidRequest ("schema does not exist: " ++ formatOptional schema))

theorem Catalog.schema?_eq_some_iff (schema : Option String) (s : SchemaRow) :
  catalog.schema? schema = some s ↔
    s ∈ catalog.schemas ∧ s.name = schema.getD catalog.currentSchema
  := Query.find?_eq_some_iff catalog.schemaNames _ s

/-- The current schema exists, and so does a schema that has a name of the catalog. -/
theorem Catalog.exists_schema? {schema : Option String}
    (h : ∀ name, schema = some name → name ∈ catalog.schemas.map SchemaRow.name) :
  ∃ s, catalog.schema? schema = some s
  := by
  have hmem : schema.getD catalog.currentSchema ∈ catalog.schemas.map SchemaRow.name := by
    cases schema with
    | none => apply catalog.currentSchema_mem
    | some name => apply h name rfl
  obtain ⟨s, hs, hname⟩ := List.mem_map.mp hmem
  use s
  apply (catalog.schema?_eq_some_iff schema s).mpr ⟨hs, hname⟩

theorem schemaId_of_some {schema : Option String} {s : SchemaRow}
    (h : catalog.schema? schema = some s) :
  schemaId catalog schema = .ok s.id
  := by rw [schemaId, h]

theorem schemaId_of_none {schema : Option String} (h : catalog.schema? schema = none) :
  schemaId catalog schema
    = .error (.invalidRequest ("schema does not exist: " ++ formatOptional schema))
  := by rw [schemaId, h]

/-- The table of a name in a schema. -/
def Catalog.table? (schemaId : ObjectId) (tableName : String) : Option TableRow :=
  catalog.tables.find? fun t => t.name = tableName ∧ t.schemaId = schemaId

/-- The local temporary table of a name in a schema. -/
def Catalog.temporaryTable? (schemaId : ObjectId) (tableName : String) : Option TableRow :=
  catalog.tables.find? fun t =>
    t.name = tableName ∧ t.schemaId = schemaId ∧ t.type = tableTypeLocalTemporary

/-- `_table_id`. -/
def tableId (tableName : String) (schema : Option String) : Except ReflectionError ObjectId := do
  let found := catalog.table? (← schemaId catalog schema) tableName
  let found ←
    if found.isNone ∧ schema = none then
      pure (catalog.temporaryTable? (← schemaId catalog (some "tmp")) tableName)
    else
      pure found
  match found with
  | some t => pure t.id
  | none => throw (.noSuchTable (qualifiedName schema tableName))

/-- `has_table`. -/
def hasTable (tableName : String) (schema : Option String) : Bool :=
  match tableId catalog tableName schema with
  | .ok _ => true
  | .error _ => false

/-! ### Lists of names -/

/-- The names of the tables of one type in a schema. -/
def Catalog.namesOfType (type : Int) (schemaId : ObjectId) : List String :=
  Query.orderBy id
    ((catalog.tables.filter fun t => t.type = type ∧ t.schemaId = schemaId).map TableRow.name)

/-- `get_table_names`. -/
def getTableNames (schema : Option String) : Except ReflectionError (List String) := do
  return catalog.namesOfType tableTypeTable (← schemaId catalog schema)

/-- `get_temp_table_names`. -/
def getTempTableNames (schema : Option String) : List String :=
  if schema ≠ none then
    []
  else
    match catalog.schema? (some "tmp") with
    | some s => catalog.namesOfType tableTypeLocalTemporary s.id
    | none => []

/-- `get_view_names`. -/
def getViewNames (schema : Option String) : Except ReflectionError (List String) := do
  return catalog.namesOfType tableTypeView (← schemaId catalog schema)

/-- The text of a default that draws from a sequence. -/
def nextValueFor (schema sequence : String) : String :=
  "next value for \"" ++ schema ++ "\".\"" ++ sequence ++ "\""

/-- Some column has the default that draws from a sequence. -/
def Catalog.drawnByDefault (s : SequenceRow) : Bool :=
  catalog.columns.any fun c =>
    (catalog.schemas.find? (·.id = s.schemaId)).any fun n =>
      c.default = some (nextValueFor n.name s.name)

/-- `get_sequence_names`. -/
def getSequenceNames (schema : Option String) : Except ReflectionError (List String) := do
  let schemaId ← schemaId catalog schema
  return Query.orderBy id
    ((catalog.sequences.filter fun s => s.schemaId = schemaId ∧ ¬ catalog.drawnByDefault s).map
      SequenceRow.name)

end MonetDB
