import MonetdbAdbc.Catalog.Defaults
import MonetdbAdbc.Catalog.Resolve
import MonetdbAdbc.Catalog.Types

/-!
# The getters

Every batched getter resolves its request, runs one query for the tables it resolved, groups
the rows by their table and answers for each of the tables.  `getMulti` and `answerByTable`
are what the getters share.  The getters of a single table run the batched one and take the
entry out.

The queries are joins of catalog tables, selected by table and sorted.  The keys, their
columns and the indexes of permanent tables are read from `sys` and those of temporary
tables from `tmp`.
-/

namespace MonetDB

variable {α γ ρ : Type}

/-- `TableKey`. -/
abbrev TableKey := Option String × String

/-- A batched getter, on an `info_cache`. -/
abbrev MultiGetter (α : Type) :=
  Request → Option InfoCache → List (TableKey × α) × Option InfoCache

/-- A getter of a single table, on an `info_cache`. -/
abbrev SingleGetter (α : Type) :=
  String → Option String → Option InfoCache → Except ReflectionError α × Option InfoCache

variable (catalog : Catalog)

/-! ### What the getters share -/

/-- `_fetch`. -/
def fetch (query : KeyCatalog → List ObjectId → List ρ) (resolved : Resolved) : List ρ :=
  let ids := resolved.tables.keys
  let permanent := (catalog.sys, ids.filter (· ∉ resolved.temporary))
  let temporary := (catalog.tmp, ids.filter (· ∈ resolved.temporary))
  let groups := if resolved.temporary.isEmpty then [permanent] else [permanent, temporary]
  groups.flatMap fun group => if group.2.isEmpty then [] else query group.1 group.2

/-- Group rows by their table and answer for every resolved table. -/
def answerByTable (tableId : ρ → ObjectId) (step : ρ → Option γ → γ) (answer : Option γ → α)
    (schema : Option String) (resolved : Resolved) (rows : List ρ) : List (TableKey × α) :=
  let grouped := Dict.groupBy tableId step rows
  resolved.tables.items.map fun p => ((schema, p.2), answer (grouped.get? p.1))

/-- Resolve a request, and answer for its tables if there are any. -/
def getMulti (answers : Option String → Resolved → List (TableKey × α)) : MultiGetter α :=
  fun kw infoCache =>
    let (resolved, infoCache) := resolveRequest catalog kw infoCache
    (if resolved.tables.items.isEmpty then [] else answers kw.schema resolved, infoCache)

/-- The request for one table, whatever it is. -/
def oneTable (tableName : String) (schema : Option String) : Request where
  schema := schema
  filterNames := some [tableName]
  scope := .ANY
  kind := .ANY

/-- `_reflect_one`. -/
def reflectOne (multi : MultiGetter α) : SingleGetter α := fun tableName schema infoCache =>
  match multi (oneTable tableName schema) infoCache with
  | ((_, value) :: _, infoCache) => (.ok value, infoCache)
  | ([], infoCache) => (.error (.noSuchTable tableName), infoCache)

/-! ### Columns -/

/-- `ReflectedColumn`; the identity is absent unless the column has one. -/
structure ReflectedColumn where
  name : String
  type : ReflectedType
  nullable : Bool
  default : Option String
  autoincrement : Bool
  comment : Option String
  identity : Option ReflectedIdentity
deriving DecidableEq, Repr

/-- The columns of tables, with their comments. -/
def columnRows (_ : KeyCatalog) (ids : List ObjectId) : List (ColumnRow × Option CommentRow) :=
  Query.orderBy (fun r => toLex (r.1.tableId, r.1.number))
    ((Query.leftJoin (fun c cm => c.id = cm.id) catalog.columns catalog.comments).filter
      fun r => r.1.tableId ∈ ids)

/-- The column of a row, given what the names of sequences look up. -/
def reflectedColumn (sequences : String × String → Option (Bool × ReflectedIdentity))
    (r : ColumnRow × Option CommentRow) : ReflectedColumn :=
  let sequence := (r.1.default.bind autoincrementDefault).bind sequences
  let generated := (sequence.map Prod.fst).getD false
  { name := r.1.name
    type := resolveType r.1.type r.1.typeDigits r.1.typeScale
    nullable := r.1.null
    default := if generated then none else r.1.default
    autoincrement := generated
    comment := r.2.map CommentRow.remark
    identity := if generated then sequence.map Prod.snd else none }

/-- The sequences that the columns of a request draw from. -/
def requestSequences (resolved : Resolved) : Dict (String × String) (Bool × ReflectedIdentity) :=
  sequenceReflection catalog
    ((fetch catalog (columnRows catalog) resolved).map fun r => r.1.default)

/-- `get_multi_columns`. -/
def getMultiColumns : MultiGetter (List ReflectedColumn) :=
  getMulti catalog fun schema resolved =>
    let sequences := requestSequences catalog resolved
    answerByTable (fun r => r.1.tableId)
      (fun r columns => columns.getD [] ++ [reflectedColumn sequences.get? r])
      (fun columns => columns.getD []) schema resolved
      (fetch catalog (columnRows catalog) resolved)

/-- `get_columns`. -/
def getColumns : SingleGetter (List ReflectedColumn) :=
  reflectOne (getMultiColumns catalog)

/-! ### Keys -/

/-- The columns of the keys of a type, with their keys. -/
def keyColumns (type : Int) (c : KeyCatalog) (ids : List ObjectId) :
    List (KeyRow × ObjectRow) :=
  (Query.innerJoin (fun k o => k.id = o.id) c.keys c.objects).filter fun r =>
    r.1.tableId ∈ ids ∧ r.1.type = type

/-- `ReflectedPrimaryKeyConstraint`. -/
structure ReflectedPrimaryKeyConstraint where
  constrainedColumns : List String
  name : Option String
deriving DecidableEq, Repr

/-- The rows of primary keys. -/
def primaryKeyRows (c : KeyCatalog) (ids : List ObjectId) : List (KeyRow × ObjectRow) :=
  Query.orderBy (fun r => toLex (r.1.tableId, r.2.nr)) (keyColumns keyTypePrimary c ids)

/-- Add the column of a row to the primary key of its table. -/
def addPrimaryKeyColumn (r : KeyRow × ObjectRow)
    (constraint : Option ReflectedPrimaryKeyConstraint) : ReflectedPrimaryKeyConstraint :=
  let constraint := constraint.getD { constrainedColumns := [], name := some r.1.name }
  { constraint with constrainedColumns := constraint.constrainedColumns ++ [r.2.name] }

/-- `get_multi_pk_constraint`. -/
def getMultiPkConstraint : MultiGetter ReflectedPrimaryKeyConstraint :=
  getMulti catalog fun schema resolved =>
    answerByTable (fun r => r.1.tableId) addPrimaryKeyColumn
      (fun constraint => constraint.getD { constrainedColumns := [], name := none })
      schema resolved (fetch catalog primaryKeyRows resolved)

/-- `get_pk_constraint`. -/
def getPkConstraint : SingleGetter ReflectedPrimaryKeyConstraint :=
  reflectOne (getMultiPkConstraint catalog)

/-- `ReflectedUniqueConstraint`. -/
structure ReflectedUniqueConstraint where
  name : String
  columnNames : List String
deriving DecidableEq, Repr

/-- The rows of unique keys. -/
def uniqueRows (c : KeyCatalog) (ids : List ObjectId) : List (KeyRow × ObjectRow) :=
  Query.orderBy (fun r => toLex (r.1.tableId, toLex (r.1.name, r.2.nr)))
    (keyColumns keyTypeUnique c ids)

/-- Add the column of a row to its unique constraint. -/
def addUniqueColumn (r : KeyRow × ObjectRow) (columns : Option (List String)) : List String :=
  columns.getD [] ++ [r.2.name]

/-- `get_multi_unique_constraints`. -/
def getMultiUniqueConstraints : MultiGetter (List ReflectedUniqueConstraint) :=
  getMulti catalog fun schema resolved =>
    answerByTable (fun r => r.1.tableId) (Dict.alterIn (fun r => r.1.name) addUniqueColumn)
      (fun constraints => (constraints.getD Dict.empty).items.map fun p =>
        { name := p.1, columnNames := p.2 })
      schema resolved (fetch catalog uniqueRows resolved)

/-- `get_unique_constraints`. -/
def getUniqueConstraints : SingleGetter (List ReflectedUniqueConstraint) :=
  reflectOne (getMultiUniqueConstraints catalog)

/-- `ReflectedCheckConstraint`. -/
structure ReflectedCheckConstraint where
  name : String
  sqltext : Option String
deriving DecidableEq, Repr

/-- The check keys of tables, with the tables and their schemas. -/
def checkRows (c : KeyCatalog) (ids : List ObjectId) : List ((KeyRow × TableRow) × SchemaRow) :=
  Query.orderBy (fun r => toLex (r.1.1.tableId, r.1.1.name))
    ((Query.innerJoin (fun r s => r.2.schemaId = s.id)
      (Query.innerJoin (fun k t => k.tableId = t.id) c.keys catalog.tables)
      catalog.schemas).filter fun r => r.1.1.tableId ∈ ids ∧ r.1.1.type = keyTypeCheck)

/-- Add a check key to the check constraints of its table. -/
def addCheckConstraint (r : (KeyRow × TableRow) × SchemaRow)
    (constraints : Option (List ReflectedCheckConstraint)) : List ReflectedCheckConstraint :=
  constraints.getD [] ++
    [{ name := r.1.1.name, sqltext := catalog.checkConstraint r.2.name r.1.1.name }]

/-- `get_multi_check_constraints`. -/
def getMultiCheckConstraints : MultiGetter (List ReflectedCheckConstraint) :=
  getMulti catalog fun schema resolved =>
    answerByTable (fun r => r.1.1.tableId) (addCheckConstraint catalog)
      (fun constraints => constraints.getD []) schema resolved
      (fetch catalog (checkRows catalog) resolved)

/-- `get_check_constraints`. -/
def getCheckConstraints : SingleGetter (List ReflectedCheckConstraint) :=
  reflectOne (getMultiCheckConstraints catalog)

/-! ### Foreign keys -/

/-- A row of the join that finds the foreign keys. -/
structure ForeignKeyRow where
  fkk : KeyRow
  fkc : ObjectRow
  pkk : KeyRow
  pkc : ObjectRow
  fkt : TableRow
  fs : SchemaRow
  pkt : TableRow
  ps : SchemaRow

/-- The join that finds the foreign keys. -/
def foreignKeyJoin (c : KeyCatalog) : List ForeignKeyRow :=
  let keys := Query.innerJoin (fun fkk fkc => fkk.id = fkc.id) c.keys c.objects
  let keys := Query.innerJoin (fun r pkk => r.1.rkey = pkk.id) keys c.keys
  let keys := Query.innerJoin (fun r pkc => r.2.id = pkc.id ∧ r.1.2.nr = pkc.nr) keys c.objects
  let tables := Query.innerJoin (fun r fkt => r.1.1.1.tableId = fkt.id) keys catalog.tables
  let tables := Query.innerJoin (fun r fs => r.2.schemaId = fs.id) tables catalog.schemas
  let tables := Query.innerJoin (fun r pkt => r.1.1.1.2.tableId = pkt.id) tables catalog.tables
  let tables := Query.innerJoin (fun r ps => r.2.schemaId = ps.id) tables catalog.schemas
  tables.map fun (((((((fkk, fkc), pkk), pkc), fkt), fs), pkt), ps) =>
    ⟨fkk, fkc, pkk, pkc, fkt, fs, pkt, ps⟩

/-- The rows of the catalog that make a row of the join. -/
structure ForeignKeyRow.Joins (c : KeyCatalog) (r : ForeignKeyRow) : Prop where
  fkk : r.fkk ∈ c.keys
  fkc : r.fkc ∈ c.objects ∧ r.fkk.id = r.fkc.id
  pkk : r.pkk ∈ c.keys ∧ r.fkk.rkey = r.pkk.id
  pkc : r.pkc ∈ c.objects ∧ r.pkk.id = r.pkc.id ∧ r.fkc.nr = r.pkc.nr
  fkt : r.fkt ∈ catalog.tables ∧ r.fkk.tableId = r.fkt.id
  fs : r.fs ∈ catalog.schemas ∧ r.fkt.schemaId = r.fs.id
  pkt : r.pkt ∈ catalog.tables ∧ r.pkk.tableId = r.pkt.id
  ps : r.ps ∈ catalog.schemas ∧ r.pkt.schemaId = r.ps.id

theorem mem_foreignKeyJoin (c : KeyCatalog) (r : ForeignKeyRow) :
  r ∈ foreignKeyJoin catalog c ↔ r.Joins catalog c
  := by
  obtain ⟨fkk, fkc, pkk, pkc, fkt, fs, pkt, ps⟩ := r
  simp only [foreignKeyJoin, List.mem_map, Prod.exists, Query.mem_innerJoin, decide_eq_true_eq,
    ForeignKeyRow.mk.injEq]
  constructor
  · rintro ⟨_, _, _, _, _, _, _, _,
      ⟨⟨⟨⟨⟨⟨⟨hfkk, hfkc⟩, hpkk⟩, hpkc⟩, hfkt⟩, hfs⟩, hpkt⟩, hps⟩,
      rfl, rfl, rfl, rfl, rfl, rfl, rfl, rfl⟩
    exact ⟨hfkk, hfkc, hpkk, hpkc, hfkt, hfs, hpkt, hps⟩
  · rintro ⟨hfkk, hfkc, hpkk, hpkc, hfkt, hfs, hpkt, hps⟩
    exact ⟨fkk, fkc, pkk, pkc, fkt, fs, pkt, ps,
      ⟨⟨⟨⟨⟨⟨⟨hfkk, hfkc⟩, hpkk⟩, hpkc⟩, hfkt⟩, hfs⟩, hpkt⟩, hps⟩,
      rfl, rfl, rfl, rfl, rfl, rfl, rfl, rfl⟩

/-- The foreign keys of tables. -/
def foreignKeyRows (c : KeyCatalog) (ids : List ObjectId) : List ForeignKeyRow :=
  Query.orderBy (fun r => toLex (r.fkk.tableId, toLex (r.fkk.name, r.fkc.nr)))
    ((foreignKeyJoin catalog c).filter fun r => r.fkk.tableId ∈ ids)

/-- `FK_ACTIONS`. -/
def fkActions : List (Int × String) :=
  [(0, "NO ACTION"), (1, "CASCADE"), (2, "RESTRICT"), (3, "SET NULL"), (4, "SET DEFAULT")]

/-- The option of an action, absent for the default action. -/
def fkOption (code : Int) : Option String :=
  let action := (fkActions.lookup code).getD "NO ACTION"
  if action ≠ "NO ACTION" then some action else none

/-- `ReflectedForeignKeyConstraint`. -/
structure ReflectedForeignKeyConstraint where
  name : String
  constrainedColumns : List String
  referredSchema : Option String
  referredTable : String
  referredColumns : List String
  ondelete : Option String
  onupdate : Option String
deriving DecidableEq, Repr

/-- The foreign key of a row, without columns. -/
def ForeignKeyRow.constraint (schema : Option String) (r : ForeignKeyRow) :
    ReflectedForeignKeyConstraint where
  name := r.fkk.name
  constrainedColumns := []
  referredSchema := if schema = none ∧ r.ps.name = r.fs.name then none else some r.ps.name
  referredTable := r.pkt.name
  referredColumns := []
  ondelete := fkOption (r.fkk.action % 256)
  onupdate := fkOption (r.fkk.action / 256 % 256)

/-- Add the columns of a row to its foreign key. -/
def addForeignKeyColumn (schema : Option String) (r : ForeignKeyRow)
    (constraint : Option ReflectedForeignKeyConstraint) : ReflectedForeignKeyConstraint :=
  let constraint := constraint.getD (r.constraint schema)
  { constraint with
    constrainedColumns := constraint.constrainedColumns ++ [r.fkc.name]
    referredColumns := constraint.referredColumns ++ [r.pkc.name] }

/-- `get_multi_foreign_keys`. -/
def getMultiForeignKeys : MultiGetter (List ReflectedForeignKeyConstraint) :=
  getMulti catalog fun schema resolved =>
    answerByTable (fun r => r.fkk.tableId)
      (Dict.alterIn (fun r => r.fkk.name) (addForeignKeyColumn schema))
      (fun constraints => (constraints.getD Dict.empty).values) schema resolved
      (fetch catalog (foreignKeyRows catalog) resolved)

/-- `get_foreign_keys`. -/
def getForeignKeys : SingleGetter (List ReflectedForeignKeyConstraint) :=
  reflectOne (getMultiForeignKeys catalog)

/-! ### Indexes -/

/-- `ReflectedIndex`. -/
structure ReflectedIndex where
  name : String
  columnNames : List String
  unique : Bool
  duplicatesConstraint : Option String
deriving DecidableEq, Repr

/-- The columns of the indexes of tables, with a key of the name of the index: there is none,
or it is a unique key. -/
def indexRows (c : KeyCatalog) (ids : List ObjectId) :
    List ((IdxRow × ObjectRow) × Option KeyRow) :=
  Query.orderBy (fun r => toLex (r.1.1.tableId, toLex (r.1.1.name, r.1.2.nr)))
    ((Query.leftJoin (fun r k => k.name = r.1.name ∧ k.tableId = r.1.tableId)
      (Query.innerJoin (fun i o => i.id = o.id) c.idxs c.objects) c.keys).filter
        fun r => r.1.1.tableId ∈ ids ∧ r.2.all fun k => k.type = keyTypeUnique)

/-- The index of a row, without columns. -/
def reflectedIndex (r : (IdxRow × ObjectRow) × Option KeyRow) : ReflectedIndex :=
  let unique := r.2.any fun k => k.type = keyTypeUnique
  { name := r.1.1.name
    columnNames := []
    unique
    duplicatesConstraint := if unique then some r.1.1.name else none }

/-- Add the column of a row to its index. -/
def addIndexColumn (r : (IdxRow × ObjectRow) × Option KeyRow) (index : Option ReflectedIndex) :
    ReflectedIndex :=
  let index := index.getD (reflectedIndex r)
  { index with columnNames := index.columnNames ++ [r.1.2.name] }

/-- `get_multi_indexes`. -/
def getMultiIndexes : MultiGetter (List ReflectedIndex) :=
  getMulti catalog fun schema resolved =>
    answerByTable (fun r => r.1.1.tableId) (Dict.alterIn (fun r => r.1.1.name) addIndexColumn)
      (fun indexes => (indexes.getD Dict.empty).values) schema resolved
      (fetch catalog indexRows resolved)

/-- `get_indexes`. -/
def getIndexes : SingleGetter (List ReflectedIndex) :=
  reflectOne (getMultiIndexes catalog)

/-! ### Comments -/

/-- `ReflectedTableComment`. -/
structure ReflectedTableComment where
  text : Option String
deriving DecidableEq, Repr

/-- The comments of tables. -/
def commentRows (_ : KeyCatalog) (ids : List ObjectId) : List CommentRow :=
  catalog.comments.filter fun c => c.id ∈ ids

/-- `get_multi_table_comment`. -/
def getMultiTableComment : MultiGetter ReflectedTableComment :=
  getMulti catalog fun schema resolved =>
    answerByTable CommentRow.id (fun c _ => c.remark) ReflectedTableComment.mk schema resolved
      (fetch catalog (commentRows catalog) resolved)

/-- `get_table_comment`. -/
def getTableComment : SingleGetter ReflectedTableComment :=
  reflectOne (getMultiTableComment catalog)

/-! ### All of them -/

/-- A property holds of the batched and the single-table getter of every kind of object. -/
structure ForAllGetters (P : ∀ {α : Type}, MultiGetter α → SingleGetter α → Prop) : Prop where
  columns : P (getMultiColumns catalog) (getColumns catalog)
  pkConstraint : P (getMultiPkConstraint catalog) (getPkConstraint catalog)
  foreignKeys : P (getMultiForeignKeys catalog) (getForeignKeys catalog)
  indexes : P (getMultiIndexes catalog) (getIndexes catalog)
  uniqueConstraints : P (getMultiUniqueConstraints catalog) (getUniqueConstraints catalog)
  checkConstraints : P (getMultiCheckConstraints catalog) (getCheckConstraints catalog)
  tableComment : P (getMultiTableComment catalog) (getTableComment catalog)

end MonetDB
