import Mathlib.Data.List.Dedup
import MonetdbAdbc.Catalog.Reflection
import MonetdbAdbc.Dialect.CreateAll
import MonetdbAdbc.Library.Outcome
import MonetdbAdbc.Library.Referential

/-!
# Emptying every table

Between two tests the compliance suite empties all tables of the metadata.  MonetDB checks
foreign keys as each statement is made, so a table whose rows refer to each other cannot be
emptied as it is.  The hook first sets the referring columns of such a table to null and
then empties the tables from the last one to the first, in the order in which SQLAlchemy
sorts them.

`deleteFromAllTables_iff` says exactly when the hook succeeds, for any order, and
`deleteFromAllTables_sorted` that it does succeed for the tables it is meant for.
-/

namespace MonetDB

/-! ### The hook -/

/-- A column of a foreign key. -/
structure KeyColumn where
  name : String
  nullable : Bool
deriving DecidableEq, Repr

/-- A table with its name and the columns of its foreign keys. -/
structure NamedTable extends Table where
  name : String
  schema : Option String
  /-- `constraint.columns`. -/
  columns : ForeignKeyConstraint → List KeyColumn

/-- The columns of a table that are set to null. -/
def releasedColumns (table : NamedTable) : List String :=
  (((selfReferentialForeignKeys table.toTable).flatMap table.columns).filter
    KeyColumn.nullable).map KeyColumn.name |>.dedup

/-- The errors of the hook. -/
inductive DeleteError where
  | reflection (error : ReflectionError)
  | violation (violation : Referential.Violation)
deriving DecidableEq, Repr

/-- A sorted table, if it exists. -/
def existingTable (catalog : Catalog) :
    Option NamedTable × List ForeignKeyConstraint → Except ReflectionError (Option NamedTable)
  | (some table, _) => do
      return if table.name ∈ (← getTableNames catalog table.schema) then some table else none
  | (none, _) => return none

/-- The sorted tables that exist. -/
def existingTables (catalog : Catalog)
    (sortedTables : List (Option NamedTable × List ForeignKeyConstraint)) :
    Except ReflectionError (List NamedTable) :=
  sortedTables.filterMapM (existingTable catalog)

/-- The statements that the hook sends. -/
def deleteStatements (tables : List NamedTable) : List (Referential.Statement TableId String) :=
  ((tables.filter fun table => releasedColumns table ≠ []).map fun table =>
      .setNull table.identity (releasedColumns table))
    ++ tables.reverse.map fun table => .delete table.identity

variable {V : Type}

/-- `_monetdb_delete_from_all_tables`. -/
def deleteFromAllTables [DecidableEq V] (catalog : Catalog)
    (sortedTables : List (Option NamedTable × List ForeignKeyConstraint))
    (schema : Referential.Schema TableId String)
    (database : Referential.Database TableId String V) :
    Except DeleteError (Referential.Database TableId String V) := do
  let tables ← (existingTables catalog sortedTables).mapError .reflection
  (Referential.run schema database (deleteStatements tables)).mapError .violation

/-! ### The tables that exist -/

/-- `get_table_names` lists the table. -/
def Catalog.Lists (catalog : Catalog) (table : NamedTable) : Prop :=
  ∃ s, catalog.schema? table.schema = some s ∧
    table.name ∈ catalog.namesOfType tableTypeTable s.id

instance (catalog : Catalog) (table : NamedTable) : Decidable (catalog.Lists table) :=
  decidable_of_iff
    ((catalog.schema? table.schema).any fun s =>
      table.name ∈ catalog.namesOfType tableTypeTable s.id)
    (by simp only [Catalog.Lists, Option.any_eq_true, decide_eq_true_eq])

/-- Looking up a table in a schema that exists. -/
theorem existingTable_some (catalog : Catalog) {table : NamedTable}
    (h : (catalog.schema? table.schema).isSome) (fks : List ForeignKeyConstraint) :
  existingTable catalog (some table, fks)
    = .ok ((some table).filter fun table => catalog.Lists table)
  := by
  obtain ⟨s, hs⟩ := Option.isSome_iff_exists.mp h
  have hlists : catalog.Lists table ↔ table.name ∈ catalog.namesOfType tableTypeTable s.id := by
    simp only [Catalog.Lists, hs, Option.some.injEq, exists_eq_left']
  rw [existingTable, getTableNames, schemaId_of_some catalog hs, Option.filter_some]
  simp only [decide_eq_true_eq, hlists]
  rfl

/-- Looking up a table in a schema that does not exist raises. -/
theorem existingTable_error (catalog : Catalog) {table : NamedTable}
    (h : ¬ (catalog.schema? table.schema).isSome) (fks : List ForeignKeyConstraint) :
  ∃ e, existingTable catalog (some table, fks) = .error e
  := by
  rw [Option.not_isSome_iff_eq_none] at h
  rw [existingTable, getTableNames, schemaId_of_none catalog h]
  exact ⟨_, rfl⟩

/-- The tables that exist are those that are listed, once all their schemas exist. -/
theorem existingTables_eq_ok_iff (catalog : Catalog)
    (sortedTables : List (Option NamedTable × List ForeignKeyConstraint))
    (tables : List NamedTable) :
  existingTables catalog sortedTables = .ok tables ↔
    (∀ table ∈ sortedTables.filterMap Prod.fst, (catalog.schema? table.schema).isSome) ∧
      tables = (sortedTables.filterMap Prod.fst).filter fun table => catalog.Lists table
  := by
  rw [existingTables, Outcome.filterMapM_eq]
  by_cases h : ∀ table ∈ sortedTables.filterMap Prod.fst, (catalog.schema? table.schema).isSome
  · have htables : sortedTables.mapM (existingTable catalog)
        = .ok (sortedTables.map fun p => p.1.filter fun table => catalog.Lists table) := by
      apply Outcome.mapM_eq_ok
      rintro ⟨table | table, fks⟩ hp
      · rfl
      · apply existingTable_some catalog (h table (List.mem_filterMap.mpr ⟨_, hp, rfl⟩))
    have hkept :
        (sortedTables.map fun p => p.1.filter fun table => catalog.Lists table).filterMap id
          = (sortedTables.filterMap Prod.fst).filter fun table => catalog.Lists table := by
      rw [List.filterMap_map, List.filter_filterMap]
      rfl
    rw [htables, and_iff_right h, ← hkept]
    constructor
    · intro hok
      exact (Except.ok.inj hok).symm
    · rintro rfl
      rfl
  · obtain ⟨table, htable, hschema⟩ := by
      push Not at h
      exact h
    obtain ⟨⟨_, fks⟩, hp, rfl⟩ := List.mem_filterMap.mp htable
    obtain ⟨e, he⟩ := existingTable_error catalog hschema fks
    obtain ⟨d, hd⟩ := Outcome.mapM_eq_error hp he
    rw [hd]
    constructor
    · intro hok
      cases hok
    · rintro ⟨hschemas, -⟩
      exact absurd hschemas h

/-! ### When the hook succeeds -/

/-- Tables as they are sorted, and the database that they were created in. -/
structure Deployment where
  catalog : Catalog
  sortedTables : List (Option NamedTable × List ForeignKeyConstraint)
  schema : Referential.Schema TableId String
  /-- The tables are distinct. -/
  distinct : ((sortedTables.filterMap Prod.fst).map fun table => table.identity).Nodup
  /-- The columns of foreign keys may be null where the metadata says so. -/
  nullable : ∀ table ∈ sortedTables.filterMap Prod.fst,
    ∀ fkc ∈ table.foreignKeyConstraints, ∀ column ∈ table.columns fkc,
      schema.nullable table.identity column.name = column.nullable

/-- The tables that exist, in the order in which they are sorted. -/
def Deployment.tables (d : Deployment) : List NamedTable :=
  (d.sortedTables.filterMap Prod.fst).filter fun table => d.catalog.Lists table

/-- A foreign key leaves the table that it refers to free when it is from a table that is
sorted after it, or has in every row a column that is null or is set to null. -/
def Released (tables : List NamedTable) (database : Referential.Database TableId String V)
    (key : Referential.ForeignKey TableId String) : Prop :=
  ∀ pre table post, tables = pre ++ table :: post → table.identity = key.referredTable →
    key.table ∈ (post.map fun u => u.identity) ∨
      ∀ r ∈ database key.table, ∃ c ∈ key.columns,
        (∃ u ∈ tables, u.identity = key.table ∧ c ∈ releasedColumns u) ∨ r c = none

namespace Deployment

variable (d : Deployment)

theorem tables_sublist :
  d.tables.Sublist (d.sortedTables.filterMap Prod.fst)
  := List.filter_sublist

theorem distinct_tables :
  (d.tables.map fun table => table.identity).Nodup
  := d.distinct.sublist (d.tables_sublist.map _)

/-- The columns of a table that are set to null, by the identity of the table. -/
def released (table : TableId) : List String :=
  ((d.tables.find? fun u => u.identity = table).map releasedColumns).getD []

theorem released_eq {table : NamedTable} (h : table ∈ d.tables) :
  d.released table.identity = releasedColumns table
  := by
  have hfind : (d.tables.find? fun u => u.identity = table.identity) = some table :=
    (Query.find?_eq_some_iff d.distinct_tables table.identity table).mpr ⟨h, rfl⟩
  rw [released, hfind]
  rfl

/-- Only columns that may be null are set to null. -/
theorem nullable_of_mem_releasedColumns {table : NamedTable} (h : table ∈ d.tables) {c : String}
    (hc : c ∈ releasedColumns table) :
  d.schema.nullable table.identity c
  := by
  simp only [releasedColumns, List.mem_dedup, List.mem_map, List.mem_filter,
    List.mem_flatMap] at hc
  obtain ⟨column, ⟨⟨fkc, hfkc, hcolumn⟩, hnull⟩, rfl⟩ := hc
  rw [d.nullable table (d.tables_sublist.subset h) fkc (List.mem_of_mem_filter hfkc) column hcolumn]
  apply hnull

/-- The tables of which columns are set to null. -/
def releasedTables : List NamedTable :=
  d.tables.filter fun table => releasedColumns table ≠ []

theorem deleteStatements_eq :
  deleteStatements d.tables
    = Referential.clear d.released (d.releasedTables.map fun table => table.identity)
        (d.tables.map fun table => table.identity)
  := by
  rw [deleteStatements, Referential.clear, ← List.map_reverse, List.map_map, List.map_map]
  congr 1
  apply List.map_congr_left
  intro table htable
  rw [Function.comp_apply, d.released_eq (List.mem_of_mem_filter htable)]

/-- A column is set to null in a table that exists. -/
theorem mem_released_iff (table : TableId) (c : String) :
  (table ∈ (d.releasedTables.map fun u => u.identity) ∧ c ∈ d.released table) ↔
    ∃ u ∈ d.tables, u.identity = table ∧ c ∈ releasedColumns u
  := by
  constructor
  · rintro ⟨hmem, hc⟩
    obtain ⟨u, hu, rfl⟩ := List.mem_map.mp hmem
    have hu := List.mem_of_mem_filter hu
    rw [d.released_eq hu] at hc
    exact ⟨u, hu, rfl, hc⟩
  · rintro ⟨u, hu, rfl, hc⟩
    rw [d.released_eq hu]
    refine ⟨List.mem_map_of_mem (List.mem_filter.mpr ⟨hu, ?_⟩), hc⟩
    rw [decide_eq_true_eq]
    apply List.ne_nil_of_mem hc

/-- What a foreign key leaves free, by the identities of the tables. -/
theorem released_iff (database : Referential.Database TableId String V)
    (key : Referential.ForeignKey TableId String) :
  (∀ pre post, (d.tables.map fun u => u.identity) = pre ++ key.referredTable :: post →
      key.table ∈ post ∨ ∀ r ∈ database key.table, ∃ c ∈ key.columns,
        key.table ∈ (d.releasedTables.map fun u => u.identity) ∧ c ∈ d.released key.table ∨
          r c = none)
    ↔ Released d.tables database key
  := by
  simp only [d.mem_released_iff]
  constructor
  · intro h pre table post hsplit htable
    apply h (pre.map fun u => u.identity)
    rw [hsplit, List.map_append, List.map_cons, htable]
  · intro h pre post hsplit
    obtain ⟨pre, rest, htables, rfl, hrest⟩ := List.map_eq_append_iff.mp hsplit
    obtain ⟨table, post, rfl, htable, rfl⟩ := List.map_eq_cons_iff.mp hrest
    apply h pre table post htables htable

variable {d}

/-- The hook succeeds when the schemas of all tables exist and every foreign key leaves the
table that it refers to free.  It then leaves the tables that exist empty and all others as
they are. -/
theorem deleteFromAllTables_iff [DecidableEq V]
    {database : Referential.Database TableId String V}
    (hdatabase : d.schema.Consistent database)
    (after : Referential.Database TableId String V) :
  deleteFromAllTables d.catalog d.sortedTables d.schema database = .ok after ↔
    (∀ table ∈ d.sortedTables.filterMap Prod.fst, (d.catalog.schema? table.schema).isSome) ∧
      (∀ key ∈ d.schema.keys, Released d.tables database key) ∧
      after = Referential.emptied (d.tables.map fun table => table.identity) database
  := by
  have hexisting := existingTables_eq_ok_iff d.catalog d.sortedTables
  by_cases hschemas : ∀ table ∈ d.sortedTables.filterMap Prod.fst,
      (d.catalog.schema? table.schema).isSome
  · have htables := (hexisting d.tables).mpr ⟨hschemas, rfl⟩
    have hsubset : (d.releasedTables.map fun table => table.identity)
        ⊆ d.tables.map fun table => table.identity :=
      List.map_subset _ (List.filter_subset_self _)
    have hnullable : ∀ t ∈ d.releasedTables.map fun table => table.identity,
        ∀ c ∈ d.released t, d.schema.nullable t c := by
      intro t ht c hc
      obtain ⟨u, hu, rfl, hmem⟩ := (d.mem_released_iff t c).mp ⟨ht, hc⟩
      apply d.nullable_of_mem_releasedColumns hu hmem
    have hrun := Referential.run_clear_iff hdatabase hsubset hnullable after
    rw [← deleteStatements_eq] at hrun
    rw [deleteFromAllTables, htables, and_iff_right hschemas]
    apply (Outcome.mapError_eq_ok_iff _ _ _).trans
    apply hrun.trans
    apply and_congr_left'
    apply forall₂_congr
    intro key _
    apply d.released_iff database key
  · constructor
    · intro hok
      cases htables : existingTables d.catalog d.sortedTables with
      | ok tables => exact absurd ((hexisting tables).mp htables).1 hschemas
      | error e =>
          rw [deleteFromAllTables, htables] at hok
          cases hok
    · rintro ⟨h, -⟩
      exact absurd h hschemas

/-! ### The tables that it is meant for -/

/-- What `sort_tables_and_constraints` promises: a table that is not on a cycle comes after the
tables that its foreign keys refer to, apart from those that are `use_alter`. -/
structure Sorted (metadata : MetaData) (tables : List NamedTable) : Prop where
  perm : (tables.map NamedTable.toTable).Perm metadata.tables
  precedes : ∀ table ∈ tables, ¬ OnCycle metadata table.identity →
    ∀ fkc ∈ table.foreignKeyConstraints, ¬ fkc.useAlter →
      ∀ pre other post, tables = pre ++ other :: post → other.identity = fkc.referredTable →
        other.identity ≠ table.identity → table ∈ post

/-- The foreign keys of the tables do not form cycles and are not `use_alter`, and the columns
of one that is self-referential may be null, at least one of them. -/
structure Emptiable (metadata : MetaData) (tables : List NamedTable) : Prop where
  acyclic : ∀ table ∈ tables, ¬ OnCycle metadata table.identity
  inline : ∀ table ∈ tables, ∀ fkc ∈ table.foreignKeyConstraints, ¬ fkc.useAlter
  nullable : ∀ table ∈ tables, ∀ fkc ∈ table.foreignKeyConstraints,
    fkc.referredTable = table.identity → ∃ column ∈ table.columns fkc, column.nullable

/-- The foreign keys to the tables that exist are those that the metadata gives them. -/
def Declared (d : Deployment) : Prop :=
  ∀ key ∈ d.schema.keys, key.referredTable ∈ (d.tables.map fun table => table.identity) →
    ∃ table ∈ d.tables, ∃ fkc ∈ table.foreignKeyConstraints,
      key.table = table.identity ∧ key.referredTable = fkc.referredTable ∧
        key.columns = (table.columns fkc).map KeyColumn.name

/-- A column of a self-referential key that may be null is set to null. -/
theorem mem_releasedColumns {table : NamedTable} {fkc : ForeignKeyConstraint}
    (hfkc : fkc ∈ table.foreignKeyConstraints) (hself : fkc.referredTable = table.identity)
    (hinline : ¬ fkc.useAlter) {column : KeyColumn} (hcolumn : column ∈ table.columns fkc)
    (hnullable : column.nullable) :
  column.name ∈ releasedColumns table
  := by
  rw [releasedColumns, List.mem_dedup]
  apply List.mem_map_of_mem
  rw [List.mem_filter, List.mem_flatMap]
  refine ⟨⟨fkc, ?_, hcolumn⟩, hnullable⟩
  rw [selfReferentialForeignKeys, List.mem_filter, decide_eq_true_eq]
  exact ⟨hfkc, hself, hinline⟩

/-- The hook empties tables that have no cycles between them, whatever they hold. -/
theorem deleteFromAllTables_sorted [DecidableEq V] {metadata : MetaData}
    (hsorted : Sorted metadata (d.sortedTables.filterMap Prod.fst))
    (hemptiable : Emptiable metadata (d.sortedTables.filterMap Prod.fst))
    (hdeclared : d.Declared)
    (hschemas : ∀ table ∈ d.sortedTables.filterMap Prod.fst,
      (d.catalog.schema? table.schema).isSome)
    {database : Referential.Database TableId String V}
    (hdatabase : d.schema.Consistent database) :
  deleteFromAllTables d.catalog d.sortedTables d.schema database
    = .ok (Referential.emptied (d.tables.map fun table => table.identity) database)
  := by
  apply (deleteFromAllTables_iff hdatabase _).mpr ⟨hschemas, ?_, rfl⟩
  intro key hkey pre other post hsplit hother
  have hmem : other ∈ d.tables := by
    rw [hsplit]
    simp
  obtain ⟨table, htable, fkc, hfkc, hkeyTable, hreferred, hcolumns⟩ :=
    hdeclared key hkey (List.mem_map.mpr ⟨other, hmem, hother⟩)
  have htable' := d.tables_sublist.subset htable
  have hinline := hemptiable.inline table htable' fkc hfkc
  by_cases hself : other.identity = table.identity
  · right
    intro r hr
    have hselfKey : fkc.referredTable = table.identity := by
      rw [← hreferred, ← hother, hself]
    obtain ⟨column, hcolumn, hnull⟩ := hemptiable.nullable table htable' fkc hfkc hselfKey
    refine ⟨column.name, ?_, .inl ⟨table, htable, hkeyTable.symm, ?_⟩⟩
    · rw [hcolumns]
      apply List.mem_map_of_mem hcolumn
    · apply mem_releasedColumns hfkc hselfKey hinline hcolumn hnull
  · left
    -- The order of the tables that exist is the one in which all of them are sorted.
    obtain ⟨before, rest, hall, -, hrest⟩ := List.filter_eq_append_iff.mp hsplit
    obtain ⟨between, after, rfl, -, -, hpost⟩ := List.filter_eq_cons_iff.mp hrest
    have hafter : table ∈ after := by
      apply hsorted.precedes table htable' (hemptiable.acyclic table htable') fkc hfkc hinline
        (before ++ between) other after
      · rw [hall, List.append_assoc]
      · rw [hother, hreferred]
      · apply hself
    rw [hkeyTable, ← hpost]
    apply List.mem_map_of_mem
    rw [List.mem_filter]
    exact ⟨hafter, (List.mem_filter.mp htable).2⟩

end Deployment

/-! ### A tree and its leaves -/

/-- The nodes of a tree, each with its parent. -/
def nodeTable (useAlter : Bool) : NamedTable where
  identity := 0
  foreignKeyConstraints := [⟨0, 0, useAlter⟩]
  name := "node"
  schema := none
  columns _ := [⟨"parent", true⟩]

/-- What hangs on the nodes. -/
def leafTable : NamedTable where
  identity := 1
  foreignKeyConstraints := [⟨1, 0, false⟩]
  name := "leaf"
  schema := some "app"
  columns _ := [⟨"node", false⟩]

/-- A catalog with both tables. -/
def treeCatalog : Catalog where
  schemas := [⟨2000, "app"⟩, ⟨2114, "tmp"⟩]
  tables := [⟨8000, "node", 2000, 0⟩, ⟨8001, "leaf", 2000, 0⟩]
  currentSchema := "app"
  schemaIds := appSchemaIds
  schemaNames := appSchemaNames
  tableIds := by decide
  tableNames := by decide
  sequenceNames := noSequenceNames
  currentSchema_mem := app_mem_schemas

/-- Both tables, where the key of the nodes may be `use_alter`. -/
def treeDeployment (useAlter : Bool) : Deployment where
  catalog := treeCatalog
  sortedTables := [(some (nodeTable useAlter), []), (some leafTable, []), (none, [])]
  schema := {
    keys := [⟨0, ["parent"], 0, ["id"]⟩, ⟨1, ["node"], 0, ["id"]⟩]
    nullable := fun t c => t = 0 ∧ c = "parent"
    referred_not_nullable := by decide }
  distinct := by
    cases useAlter <;> decide
  nullable := by
    cases useAlter <;> decide

/-- A node, a child of it and a leaf on the child. -/
def treeRows : Referential.Database TableId String Nat
  | 0 => [fun c => if c = "id" then some 1 else none, fun c => if c = "id" then some 2 else some 1]
  | 1 => [fun _ => some 2]
  | _ => []

theorem consistent_treeRows (useAlter : Bool) :
  (treeDeployment useAlter).schema.Consistent treeRows
  := by
  cases useAlter <;> decide

theorem tables_treeDeployment (useAlter : Bool) :
  (treeDeployment useAlter).tables = [nodeTable useAlter, leafTable]
  := by
  have hlisted : ∀ table ∈ [nodeTable useAlter, leafTable],
      decide (treeCatalog.Lists table) = true := by
    cases useAlter <;> decide
  apply List.filter_eq_self.mpr hlisted

/-- A key that is `use_alter` is not set to null, so the hook fails on the nodes. -/
theorem deleteFromAllTables_useAlter :
  ¬ ∃ after, deleteFromAllTables (treeDeployment true).catalog (treeDeployment true).sortedTables
    (treeDeployment true).schema treeRows = .ok after
  := by
  rintro ⟨after, h⟩
  have hreleased :=
    ((Deployment.deleteFromAllTables_iff (consistent_treeRows true) after).mp h).2.1
      ⟨0, ["parent"], 0, ["id"]⟩ List.mem_cons_self
  rw [tables_treeDeployment] at hreleased
  rcases hreleased [] (nodeTable true) [leafTable] rfl rfl with hmem | hrows
  · revert hmem
    decide
  · obtain ⟨c, hc, hfree⟩ := hrows _ (List.mem_cons_of_mem _ List.mem_cons_self)
    obtain rfl := List.mem_singleton.mp hc
    rcases hfree with ⟨u, hu, hself, hcolumn⟩ | hnone
    · revert hself hcolumn
      revert u
      decide
    · cases hnone

theorem sorted_tree :
  Deployment.Sorted treeMetaData [nodeTable false, leafTable]
  := by
  constructor
  · apply List.Perm.refl
  · rintro table htable - fkc hfkc - pre other post hsplit hother hne
    simp only [List.mem_cons, List.not_mem_nil, or_false] at htable
    rcases htable with rfl | rfl
    · obtain rfl := List.mem_singleton.mp hfkc
      exact absurd hother hne
    · obtain rfl := List.mem_singleton.mp hfkc
      rcases pre with _ | ⟨first, _ | ⟨second, pre⟩⟩
      · cases hsplit
        apply List.mem_cons_self
      · cases hsplit
        cases hother
      · simp at hsplit

theorem emptiable_tree :
  Deployment.Emptiable treeMetaData [nodeTable false, leafTable]
  := by
  constructor
  · intro table _
    apply not_onCycle_tree
  · decide
  · decide

theorem declared_tree :
  (treeDeployment false).Declared
  := by
  rw [Deployment.Declared, tables_treeDeployment]
  decide

theorem deleteFromAllTables_tree :
  deleteFromAllTables (treeDeployment false).catalog (treeDeployment false).sortedTables
      (treeDeployment false).schema treeRows
    = .ok (Referential.emptied
        ((treeDeployment false).tables.map fun table => table.identity) treeRows)
  := Deployment.deleteFromAllTables_sorted sorted_tree emptiable_tree declared_tree (by decide)
    (consistent_treeRows false)

end MonetDB
