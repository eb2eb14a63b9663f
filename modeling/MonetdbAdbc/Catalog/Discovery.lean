import MonetdbAdbc.Catalog.Agreement

/-!
# Bulk discovery

A batched request without names is about the tables and views that the lists of names
contain: `discovery_agrees` says for every schema, scope and kind that the names of its
entries are the union of the lists that the scope and the kind ask for, and which of a
permanent and a temporary object of one name is taken.
-/

namespace MonetDB

variable {α : Type} (catalog : Catalog) (schema : Option String) (scope : ObjectScope)
  (kind : ObjectKind)

/-- A request without names. -/
def bulk : Request where
  schema := schema
  filterNames := none
  scope := scope
  kind := kind

/-- A table or a view in the schema of a schema argument. -/
structure Catalog.IsPermanent (o : TableRow) : Prop where
  mem : o ∈ catalog.tables
  schema : catalog.InSchema o (schema.getD catalog.currentSchema)
  type : o.type = tableTypeTable ∨ o.type = tableTypeView

/-- A local temporary table. -/
structure Catalog.IsTemporary (t : TableRow) : Prop where
  mem : t ∈ catalog.tables
  schema : catalog.InSchema t "tmp"
  type : t.type = tableTypeLocalTemporary

/-- The scope and the kind ask for a permanent object. -/
def AdmitsPermanent (o : TableRow) : Prop :=
  scope.default ∧ (o.type = tableTypeTable ∧ kind.table ∨ o.type = tableTypeView ∧ kind.view)

instance (o : TableRow) : Decidable (AdmitsPermanent scope kind o) :=
  inferInstanceAs (Decidable (_ ∧ _))

/-- A getter discovers the names that the lists of names contain. -/
structure DiscoveryAgrees (multi : MultiGetter α) (infoCache : Option InfoCache)
    (tableNames viewNames tempTableNames : List String) : Prop where
  /-- The keys are the schema argument and a name. -/
  keys : ∀ p ∈ (multi (bulk schema scope kind) infoCache).1, p.1.1 = schema
  names : ∀ name, name ∈ (multi (bulk schema scope kind) infoCache).1.map (fun p => p.1.2) ↔
    (scope.default ∧ kind.table ∧ name ∈ tableNames) ∨
    (scope.default ∧ kind.view ∧ name ∈ viewNames) ∨
    (scope.temporary ∧ kind.table ∧ name ∈ tempTableNames)
  once : ((multi (bulk schema scope kind) infoCache).1.map fun p => p.1.2).Nodup
  /-- A permanent object is taken where the request admits it, and the temporary one where
  it does not. -/
  preference : ∀ o t, catalog.IsPermanent schema o → catalog.IsTemporary t → o.name = t.name →
    ∀ id, (id, o.name) ∈
        (resolveRequest catalog (bulk schema scope kind) infoCache).1.tables.items →
      id = if AdmitsPermanent scope kind o then o.id else t.id

/-! ### The lists of names -/

theorem Catalog.mem_namesOfType (type schemaId : Int) (name : String) :
  name ∈ catalog.namesOfType type schemaId ↔
    ∃ t ∈ catalog.tables, t.type = type ∧ t.schemaId = schemaId ∧ t.name = name
  := by
  simp only [namesOfType, Query.mem_orderBy, List.mem_map, List.mem_filter, decide_eq_true_eq,
    and_assoc]

/-- The names of a type in the schema of a schema argument. -/
theorem Catalog.mem_namesOfType_iff {schema : Option String} {s : SchemaRow}
    (hs : catalog.schema? schema = some s) (type : Int) (name : String) :
  name ∈ catalog.namesOfType type s.id ↔
    ∃ t ∈ catalog.tables, t.type = type ∧
      catalog.InSchema t (schema.getD catalog.currentSchema) ∧ t.name = name
  := by
  have hin : ∀ t, catalog.InSchema t (schema.getD catalog.currentSchema) ↔
      t.schemaId = s.id := by
    intro t
    have hs' : catalog.schema? (some (schema.getD catalog.currentSchema)) = some s := hs
    rw [inSchema_iff, hs']
    simp
  simp only [mem_namesOfType, hin]

theorem mem_getTempTableNames (name : String) :
  name ∈ getTempTableNames catalog schema ↔
    schema = none ∧ ∃ t, catalog.IsTemporary t ∧ t.name = name
  := by
  unfold getTempTableNames
  split
  · rename_i hschema
    simp [hschema]
  · rename_i hschema
    have hnone : schema = none := not_not.mp hschema
    simp only [hnone, true_and]
    split
    · rename_i s hs
      rw [catalog.mem_namesOfType_iff hs]
      constructor
      · rintro ⟨t, ht, htype, hin, hname⟩
        exact ⟨t, ⟨ht, hin, htype⟩, hname⟩
      · rintro ⟨t, ⟨ht, hin, htype⟩, hname⟩
        exact ⟨t, ht, htype, hin, hname⟩
    · rename_i hs
      simp only [List.not_mem_nil, false_iff]
      rintro ⟨t, ht, -⟩
      obtain ⟨s, hs', -⟩ := (catalog.inSchema_iff t "tmp").mp ht.schema
      simp [hs] at hs'

/-! ### What a request without names resolves to -/

theorem mem_types_bulk (type : Int) :
  type ∈ (bulk schema scope kind).types ↔
    (type = tableTypeTable ∧ kind.table) ∨ (type = tableTypeView ∧ kind.view)
  := by
  rw [Request.mem_types]
  simp [bulk, and_comm]

theorem admits_bulk_iff (t : TableRow) :
  (bulk schema scope kind).Admits catalog t ↔
    (catalog.IsPermanent schema t ∧ AdmitsPermanent scope kind t) ∨
    (catalog.IsTemporary t ∧ scope.temporary ∧ kind.table ∧ schema = none)
  := by
  constructor
  · rintro ⟨ht, -, hown | htmp⟩
    · have htype := (mem_types_bulk schema scope kind t.type).mp hown.type
      left
      constructor
      · exact ⟨ht, hown.schema, htype.imp And.left And.left⟩
      · exact ⟨hown.scope, htype⟩
    · right
      exact ⟨⟨ht, htmp.schema, htmp.type⟩, htmp.scope, htmp.kind, htmp.unqualified⟩
  · have hnamed : (bulk schema scope kind).Names t.name := by
      intro names hnames
      simp [bulk] at hnames
    rintro (⟨ht, hdefault, htype⟩ | ⟨ht, htemporary, hkind, hnone⟩)
    · use ht.mem, hnamed
      exact Or.inl ⟨hdefault, (mem_types_bulk schema scope kind t.type).mpr htype, ht.schema⟩
    · use ht.mem, hnamed
      exact Or.inr ⟨htemporary, hkind, hnone, ht.type, ht.schema⟩

/-- The names that a request without names resolves are those that the lists contain. -/
theorem mem_names_bulk {s : SchemaRow} (hs : catalog.schema? schema = some s) (name : String) :
  (∃ t, (bulk schema scope kind).Selects catalog t ∧ t.name = name) ↔
    (scope.default ∧ kind.table ∧ name ∈ catalog.namesOfType tableTypeTable s.id) ∨
    (scope.default ∧ kind.view ∧ name ∈ catalog.namesOfType tableTypeView s.id) ∨
    (scope.temporary ∧ kind.table ∧ name ∈ getTempTableNames catalog schema)
  := by
  have hselects : (∃ t, (bulk schema scope kind).Selects catalog t ∧ t.name = name) ↔
      ∃ t, (bulk schema scope kind).Admits catalog t ∧ t.name = name := by
    constructor
    · rintro ⟨t, ht, hname⟩
      exact ⟨t, ht.admits, hname⟩
    · rintro ⟨t, ht, rfl⟩
      apply ht.exists_selects
  simp only [hselects, catalog.mem_namesOfType_iff hs, mem_getTempTableNames, admits_bulk_iff]
  constructor
  · rintro ⟨t, ⟨ht, hdefault, ⟨htype, hkind⟩ | ⟨htype, hkind⟩⟩ | ⟨ht, htemporary, hkind, hnone⟩,
      rfl⟩
    · exact Or.inl ⟨hdefault, hkind, t, ht.mem, htype, ht.schema, rfl⟩
    · exact Or.inr (Or.inl ⟨hdefault, hkind, t, ht.mem, htype, ht.schema, rfl⟩)
    · exact Or.inr (Or.inr ⟨htemporary, hkind, hnone, t, ht, rfl⟩)
  · rintro (⟨hdefault, hkind, t, ht, htype, hin, hname⟩ |
      ⟨hdefault, hkind, t, ht, htype, hin, hname⟩ | ⟨htemporary, hkind, hnone, t, ht, hname⟩)
    · exact ⟨t, Or.inl ⟨⟨ht, hin, Or.inl htype⟩, hdefault, Or.inl ⟨htype, hkind⟩⟩, hname⟩
    · exact ⟨t, Or.inl ⟨⟨ht, hin, Or.inr htype⟩, hdefault, Or.inr ⟨htype, hkind⟩⟩, hname⟩
    · exact ⟨t, Or.inr ⟨ht, htemporary, hkind, hnone⟩, hname⟩

theorem Catalog.IsPermanent.type_ne {o : TableRow} (h : catalog.IsPermanent schema o) :
  o.type ≠ tableTypeLocalTemporary
  := by
  rcases h.type with htype | htype <;> rw [htype] <;> decide

/-- Of a permanent and a temporary object of one name, a request without names resolves to
the permanent one if it admits it. -/
theorem selects_bulk_of_both {o t u : TableRow} (ho : catalog.IsPermanent schema o)
    (ht : catalog.IsTemporary t) (hname : o.name = t.name)
    (hu : (bulk schema scope kind).Selects catalog u) (huname : u.name = o.name) :
  u = if AdmitsPermanent scope kind o then o else t
  := by
  split
  · rename_i hadmits
    have ho' := (admits_bulk_iff catalog schema scope kind o).mpr (Or.inl ⟨ho, hadmits⟩)
    apply hu.admits.eq_of_name catalog ho' huname
    constructor
    · intro htype
      apply hu.first htype o ho' huname.symm
    · intro htype
      exact absurd htype (ho.type_ne catalog schema)
  · rename_i hadmits
    rcases (admits_bulk_iff catalog schema scope kind u).mp hu.admits with
      ⟨hu', hadmits'⟩ | ⟨hu', -⟩
    · have := catalog.table_eq_of_name hu'.mem ho.mem
        (catalog.schema_unique hu'.schema ho.schema) huname
      rw [this] at hadmits'
      exact absurd hadmits' hadmits
    · apply catalog.table_eq_of_name hu'.mem ht.mem
        (catalog.schema_unique hu'.schema ht.schema) (huname.trans hname)

/-! ### Agreement -/

theorem discovery_of_answersByTable {multi : MultiGetter α} {single : SingleGetter α}
    {entry : ObjectId → α} (h : AnswersByTable catalog multi single schema entry)
    {infoCache : Option InfoCache} (hearlier : Earlier catalog infoCache) {s : SchemaRow}
    (hs : catalog.schema? schema = some s) :
  DiscoveryAgrees catalog schema scope kind multi infoCache
    (catalog.namesOfType tableTypeTable s.id) (catalog.namesOfType tableTypeView s.id)
    (getTempTableNames catalog schema)
  := by
  have hbatched := h.batched (bulk schema scope kind) infoCache rfl hearlier
  rw [hearlier.resolveRequest_fst] at hbatched
  have hnames : (multi (bulk schema scope kind) infoCache).1.map (fun p => p.1.2)
      = (resolveTables catalog (bulk schema scope kind)).tables.items.map Prod.snd := by
    rw [hbatched, List.map_map]
    rfl
  constructor
  · intro p hp
    rw [hbatched] at hp
    obtain ⟨q, -, rfl⟩ := List.mem_map.mp hp
    rfl
  · intro name
    rw [hnames, ← mem_names_bulk catalog schema scope kind hs, List.mem_map]
    simp only [Prod.exists, mem_tables_iff]
    constructor
    · rintro ⟨id, _, ⟨t, ht, rfl, rfl⟩, rfl⟩
      exact ⟨t, ht, rfl⟩
    · rintro ⟨t, ht, rfl⟩
      exact ⟨t.id, t.name, ⟨t, ht, rfl, rfl⟩, rfl⟩
  · rw [hnames]
    apply names_nodup
  · intro o t ho ht hname id hid
    rw [hearlier.resolveRequest_fst, mem_tables_iff] at hid
    obtain ⟨u, hu, rfl, huname⟩ := hid
    rw [selects_bulk_of_both catalog schema scope kind ho ht hname hu huname]
    split <;> rfl

/-- Bulk discovery agrees with the lists of names, for every getter. -/
theorem discovery_agrees
    (hschema : ∀ name, schema = some name → name ∈ catalog.schemas.map SchemaRow.name) :
  ∃ tableNames viewNames, getTableNames catalog schema = .ok tableNames ∧
    getViewNames catalog schema = .ok viewNames ∧
    ∀ infoCache, Earlier catalog infoCache →
      ForAllGetters catalog fun multi _ =>
        DiscoveryAgrees catalog schema scope kind multi infoCache tableNames viewNames
          (getTempTableNames catalog schema)
  := by
  obtain ⟨s, hs⟩ := catalog.exists_schema? hschema
  use catalog.namesOfType tableTypeTable s.id, catalog.namesOfType tableTypeView s.id
  constructor
  · rw [getTableNames, schemaId_of_some catalog hs]
    rfl
  · constructor
    · rw [getViewNames, schemaId_of_some catalog hs]
      rfl
    · intro infoCache hearlier
      apply forAllGetters_of_answersByTable catalog schema
      intro α multi single entry h
      apply discovery_of_answersByTable catalog schema scope kind h hearlier hs

/-- A catalog in which a permanent and a temporary table have the same name. -/
def collisionCatalog : Catalog where
  schemas := [⟨2000, "app"⟩, ⟨2114, "tmp"⟩]
  tables := [⟨8000, "t", 2000, 0⟩, ⟨8001, "v", 2000, 1⟩, ⟨8002, "t", 2114, 30⟩]
  currentSchema := "app"
  schemaIds := appSchemaIds
  schemaNames := appSchemaNames
  tableIds := by decide
  tableNames := by decide
  sequenceNames := noSequenceNames
  currentSchema_mem := app_mem_schemas

/-- Discovery of everything in the current schema, where both tables are found. -/
theorem discovery_agrees_collision :
  ∃ tableNames viewNames, getTableNames collisionCatalog none = .ok tableNames ∧
    getViewNames collisionCatalog none = .ok viewNames ∧
    ∀ infoCache, Earlier collisionCatalog infoCache →
      ForAllGetters collisionCatalog fun multi _ =>
        DiscoveryAgrees collisionCatalog none .ANY .ANY multi infoCache tableNames viewNames
          (getTempTableNames collisionCatalog none)
  := by
  apply discovery_agrees collisionCatalog none .ANY .ANY
  rintro name ⟨⟩

end MonetDB
