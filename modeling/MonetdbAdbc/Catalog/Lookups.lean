import MonetdbAdbc.Catalog.Indexes
import MonetdbAdbc.Catalog.Existence
import MonetdbAdbc.Catalog.Discovery

/-!
# Lookups of one object

The lookups that ask for one object by its name: the definition of a view, whether there is a
sequence, and whether a table has an index.  `lookupsAgree` compares them with the lists of
names.  A view has a definition exactly when it is listed.  A sequence exists exactly when it is
listed or a default draws from it.  A table has an index exactly when reflection finds the table
and reports an index of the name.
-/

namespace MonetDB

variable (catalog : Catalog)

/-! ### Lookups -/

/-- `get_schema_names`. -/
def getSchemaNames : List String :=
  Query.orderBy id (catalog.schemas.map SchemaRow.name)

/-- The view of a name in a schema. -/
def Catalog.view? (schemaId : ObjectId) (viewName : String) : Option TableRow :=
  catalog.tables.find? fun t =>
    t.type = tableTypeView ∧ t.name = viewName ∧ t.schemaId = schemaId

/-- What a query found, or an error when it found nothing. -/
def orRaise {α : Type} (error : ReflectionError) : Option α → Except ReflectionError α
  | some a => .ok a
  | none => .error error

/-- `get_view_definition`, where `query` is that column of `sys.tables`. -/
def getViewDefinition (query : TableRow → Option String) (viewName : String)
    (schema : Option String) : Except ReflectionError String := do
  let definition := (catalog.view? (← schemaId catalog schema) viewName).bind query
  orRaise (.noSuchTable (qualifiedName schema viewName)) definition

/-- `has_sequence`. -/
def hasSequence (sequenceName : String) (schema : Option String) : Bool :=
  match schemaId catalog schema with
  | .ok schemaId => catalog.sequences.any fun s => s.name = sequenceName ∧ s.schemaId = schemaId
  | .error _ => false

/-- What `has_index` makes of an error of `get_indexes`. -/
def withoutIndexes : ReflectionError → Except ReflectionError Bool
  | .noSuchTable _ => .ok false
  | e => .error e

/-- `has_index`, given what `get_indexes` answers. -/
def hasIndexIn (indexName : String) :
    Except ReflectionError (List ReflectedIndex) → Except ReflectionError Bool
  | .ok indexes => .ok (indexes.any fun index => index.name = indexName)
  | .error e => withoutIndexes e

/-- `has_index` without an `info_cache`. -/
def hasIndex (tableName indexName : String) (schema : Option String) :
    Except ReflectionError Bool :=
  hasIndexIn indexName (getIndexes catalog tableName schema none).1

/-! ### Agreement with the lists -/

theorem schemaId_eq_ok_iff (schema : Option String) (id : ObjectId) :
  schemaId catalog schema = .ok id ↔ ∃ s, catalog.schema? schema = some s ∧ s.id = id
  := by
  cases h : catalog.schema? schema with
  | none =>
      rw [schemaId_of_none catalog h]
      simp
  | some s =>
      rw [schemaId_of_some catalog h]
      simp

theorem Catalog.view?_eq_some_iff (schemaId : ObjectId) (viewName : String) (t : TableRow) :
  catalog.view? schemaId viewName = some t ↔
    t ∈ catalog.tables ∧ t.type = tableTypeView ∧ t.name = viewName ∧ t.schemaId = schemaId
  := by
  rw [view?, Query.find?_eq_some_iff_of_unique, decide_eq_true_eq]
  intro t ht t' ht' h h'
  obtain ⟨-, hname, hid⟩ := of_decide_eq_true h
  obtain ⟨-, hname', hid'⟩ := of_decide_eq_true h'
  apply catalog.table_eq_of_name ht ht' (hid.trans hid'.symm) (hname.trans hname'.symm)

/-- A lookup in a schema that exists. -/
theorem schemaId_bind_of_some {α : Type} {schema : Option String} {s : SchemaRow}
    (hs : catalog.schema? schema = some s) (f : ObjectId → Except ReflectionError α) :
  schemaId catalog schema >>= f = f s.id
  := by
  rw [schemaId_of_some catalog hs]
  rfl

/-- A lookup in a schema that does not exist raises. -/
theorem schemaId_bind_of_none {α : Type} {schema : Option String}
    (hs : catalog.schema? schema = none) (f : ObjectId → Except ReflectionError α) :
  ∃ e, schemaId catalog schema >>= f = .error e
  := by
  rw [schemaId_of_none catalog hs]
  exact ⟨_, rfl⟩

/-- What is found in a schema, as a condition on the schema. -/
theorem exists_schemaId_bind_iff {α : Type} (schema : Option String)
    (f : ObjectId → Except ReflectionError α) (P : α → Prop) :
  (∃ a, schemaId catalog schema >>= f = .ok a ∧ P a) ↔
    ∃ s, catalog.schema? schema = some s ∧ ∃ a, f s.id = .ok a ∧ P a
  := by
  cases hs : catalog.schema? schema with
  | none =>
      obtain ⟨e, he⟩ := schemaId_bind_of_none catalog hs f
      simp [he]
  | some s => simp [schemaId_bind_of_some catalog hs f]

theorem orRaise_eq_ok_iff {α : Type} (error : ReflectionError) (o : Option α) (a : α) :
  orRaise error o = .ok a ↔ o = some a
  := by cases o <;> simp [orRaise]

/-- A view that has a query is defined exactly when it is listed. -/
theorem getViewDefinition_iff {query : TableRow → Option String}
    (hquery : ∀ t ∈ catalog.tables, t.type = tableTypeView → (query t).isSome)
    (schema : Option String) (viewName : String) :
  (∃ definition, getViewDefinition catalog query viewName schema = .ok definition) ↔
    ∃ names, getViewNames catalog schema = .ok names ∧ viewName ∈ names
  := by
  have hdefined := exists_schemaId_bind_iff catalog schema (fun schemaId =>
    orRaise (.noSuchTable (qualifiedName schema viewName))
      ((catalog.view? schemaId viewName).bind query)) fun _ => True
  have hlisted := exists_schemaId_bind_iff catalog schema
    (fun schemaId => .ok (catalog.namesOfType tableTypeView schemaId)) (viewName ∈ ·)
  simp only [and_true] at hdefined
  apply hdefined.trans
  apply Iff.trans _ hlisted.symm
  apply exists_congr
  intro s
  apply and_congr_right
  intro _
  simp only [orRaise_eq_ok_iff, Option.bind_eq_some_iff, catalog.view?_eq_some_iff,
    Except.ok.injEq, exists_eq_left', catalog.mem_namesOfType]
  constructor
  · rintro ⟨_, t, ⟨ht, htype, hname, hid⟩, -⟩
    exact ⟨t, ht, htype, hid, hname⟩
  · rintro ⟨t, ht, htype, hid, hname⟩
    obtain ⟨definition, hdefinition⟩ := Option.isSome_iff_exists.mp (hquery t ht htype)
    exact ⟨definition, t, ⟨ht, htype, hname, hid⟩, hdefinition⟩

/-- A default of a column draws from a sequence of a name in a schema. -/
def Catalog.DrawnByName (schemaId : ObjectId) (sequenceName : String) : Prop :=
  ∃ s ∈ catalog.sequences, s.schemaId = schemaId ∧ s.name = sequenceName ∧
    catalog.drawnByDefault s

/-- A sequence exists exactly when it is listed or a default draws from it. -/
theorem hasSequence_iff (schema : Option String) (sequenceName : String) :
  hasSequence catalog sequenceName schema ↔
    ∃ s names, catalog.schema? schema = some s ∧ getSequenceNames catalog schema = .ok names ∧
      (sequenceName ∈ names ∨ catalog.DrawnByName s.id sequenceName)
  := by
  rw [hasSequence, getSequenceNames]
  cases hs : catalog.schema? schema with
  | none =>
      rw [schemaId_of_none catalog hs]
      simp
  | some s =>
      rw [schemaId_of_some catalog hs]
      simp only [List.any_eq_true, decide_eq_true_eq, Option.some_inj]
      constructor
      · rintro ⟨q, hq, hname, hid⟩
        refine ⟨s, _, rfl, rfl, ?_⟩
        by_cases hdrawn : catalog.drawnByDefault q
        · exact .inr ⟨q, hq, hid, hname, hdrawn⟩
        · left
          rw [Query.mem_orderBy, List.mem_map]
          refine ⟨q, List.mem_filter.mpr ⟨hq, ?_⟩, hname⟩
          exact decide_eq_true ⟨hid, hdrawn⟩
      · rintro ⟨_, names, rfl, hnames, hlisted | ⟨q, hq, hid, hname, -⟩⟩
        · obtain rfl := Except.ok.inj hnames
          rw [Query.mem_orderBy, List.mem_map] at hlisted
          obtain ⟨q, hq, hname⟩ := hlisted
          obtain ⟨hq, hid⟩ := List.mem_filter.mp hq
          exact ⟨q, hq, hname, (of_decide_eq_true hid).1⟩
        · exact ⟨q, hq, hname, hid⟩

/-! ### Indexes -/

/-- What a getter of a single table answers: the entry of the table that the name resolves
to. -/
theorem AnswersByTable.one_eq {α : Type} {multi : MultiGetter α} {single : SingleGetter α}
    {schema : Option String} {entry : ObjectId → α}
    (h : AnswersByTable catalog multi single schema entry) {infoCache : Option InfoCache}
    (hearlier : Earlier catalog infoCache) (tableName : String) :
  (single tableName schema infoCache).1
    = orRaise (.noSuchTable tableName)
        ((catalog.resolved? tableName schema).map fun t => entry t.id)
  := by
  have hkeys := mem_keys_oneTable catalog tableName schema
  rw [h.one tableName infoCache hearlier, hearlier.resolveRequest_fst]
  rw [Dict.keys] at hkeys
  cases hitems : (resolveTables catalog (oneTable tableName schema)).tables.items with
  | nil =>
      cases hresolved : catalog.resolved? tableName schema with
      | none => rfl
      | some t =>
          have hmem := (hkeys t.id).mpr ⟨t, hresolved, rfl⟩
          rw [hitems] at hmem
          cases hmem
  | cons p items =>
      rw [hitems] at hkeys
      obtain ⟨t, ht, hid⟩ := (hkeys p.1).mp List.mem_cons_self
      rw [ht]
      apply congrArg (Except.ok ∘ entry) hid.symm

/-- An index of a table that reflection reports: it has a column, and only a unique key may
have its name. -/
def KeyCatalog.Reports (c : KeyCatalog) (id : ObjectId) (i : IdxRow) : Prop :=
  i ∈ c.idxs ∧ i.tableId = id ∧ (∃ o ∈ c.objects, i.id = o.id) ∧
    ∀ k ∈ c.keys, k.name = i.name → k.tableId = i.tableId → k.type = keyTypeUnique

theorem KeyCatalog.mem_keys_indexDict {c : KeyCatalog} (hc : c.WellFormed) (id : ObjectId)
    (name : String) :
  name ∈ (c.indexDict id).keys ↔ ∃ i, c.Reports id i ∧ i.name = name
  := by
  constructor
  · intro h
    rw [indexDict, Dict.mem_keys_groupBy] at h
    obtain ⟨r, hr, rfl⟩ := h
    have hjoin := hr
    rw [indexRows, Query.mem_orderBy, List.mem_filter, decide_eq_true_eq,
      List.mem_singleton] at hjoin
    obtain ⟨hjoin, rfl, -⟩ := hjoin
    have hinner := (Query.mem_innerJoin _ _ _ _ _).mp (Query.mem_of_mem_leftJoin hjoin)
    have hrow : r ∈ (indexRows c [r.1.1.tableId]).filter (fun r' => r'.1.1.name = r.1.1.name) :=
      List.mem_filter.mpr ⟨hr, decide_eq_true rfl⟩
    rw [hc.filter_indexRows hinner.1] at hrow
    split at hrow
    · rename_i hkey
      rw [hc.all_key?_iff] at hkey
      refine ⟨r.1.1, ⟨hinner.1, rfl, ⟨r.1.2, hinner.2.1, ?_⟩, ?_⟩, rfl⟩
      · apply of_decide_eq_true hinner.2.2
      · intro k hk hname htable
        apply of_decide_eq_true (hkey k hk hname htable)
    · cases hrow
  · rintro ⟨i, ⟨hi, rfl, hcolumns, hkey⟩, rfl⟩
    have hall : (c.key? i).all fun k => k.type = keyTypeUnique := by
      rw [hc.all_key?_iff]
      intro k hk hname htable
      apply decide_eq_true (hkey k hk hname htable)
    obtain ⟨index, hget, -⟩ := hc.get?_indexDict_of_all hi hcolumns hall
    apply (Dict.mem_keys_iff _ _).mpr ⟨index, hget⟩

/-- `has_index` does not raise, and finds exactly the indexes that reflection reports of the
table that the name resolves to. -/
theorem hasIndex_eq (hsys : catalog.sys.WellFormed) (htmp : catalog.tmp.WellFormed)
    (tableName indexName : String) (schema : Option String) :
  ∃ found, hasIndex catalog tableName indexName schema = .ok found ∧
    (found ↔ ∃ t i, catalog.resolved? tableName schema = some t ∧
      (catalog.home t.id).Reports t.id i ∧ i.name = indexName)
  := by
  have hearlier : Earlier catalog none := ⟨none, [], .inl rfl, rfl⟩
  rw [hasIndex, (answersByTable_indexes catalog schema).one_eq catalog hearlier]
  cases hresolved : catalog.resolved? tableName schema with
  | none => exact ⟨false, rfl, by simp⟩
  | some t =>
      refine ⟨_, rfl, ?_⟩
      have hc := catalog.wellFormed_home hsys htmp t.id
      change ((catalog.indexesOf t.id).any _ = true) ↔ _
      rw [catalog.indexesOf_eq, List.any_eq_true]
      simp only [decide_eq_true_eq, Option.some_inj, exists_and_left, exists_eq_left']
      rw [← KeyCatalog.mem_keys_indexDict hc, ← KeyCatalog.map_name_indexDict, List.mem_map]

/-! ### All of them -/

/-- The lookups of one object agree with the lists of names, and with the catalog. -/
structure LookupsAgree (query : TableRow → Option String) (schema : Option String) : Prop where
  schemas : (∃ id, schemaId catalog schema = .ok id) ↔
    schema.getD catalog.currentSchema ∈ getSchemaNames catalog
  views : ∀ viewName,
    (∃ definition, getViewDefinition catalog query viewName schema = .ok definition) ↔
      ∃ names, getViewNames catalog schema = .ok names ∧ viewName ∈ names
  sequences : ∀ sequenceName, hasSequence catalog sequenceName schema ↔
    ∃ s names, catalog.schema? schema = some s ∧ getSequenceNames catalog schema = .ok names ∧
      (sequenceName ∈ names ∨ catalog.DrawnByName s.id sequenceName)
  /-- `has_index` does not raise. -/
  indexes : ∀ tableName indexName, ∃ found,
    hasIndex catalog tableName indexName schema = .ok found ∧
      (found ↔ ∃ t i, catalog.resolved? tableName schema = some t ∧
        (catalog.home t.id).Reports t.id i ∧ i.name = indexName)

/-- The lookups agree with the lists, for every schema argument. -/
theorem lookupsAgree (hsys : catalog.sys.WellFormed) (htmp : catalog.tmp.WellFormed)
    {query : TableRow → Option String}
    (hquery : ∀ t ∈ catalog.tables, t.type = tableTypeView → (query t).isSome)
    (schema : Option String) :
  LookupsAgree catalog query schema
  := by
  constructor
  · simp only [schemaId_eq_ok_iff, catalog.schema?_eq_some_iff, getSchemaNames,
      Query.mem_orderBy, List.mem_map]
    constructor
    · rintro ⟨_, s, hs, -⟩
      exact ⟨s, hs⟩
    · rintro ⟨s, hs⟩
      exact ⟨s.id, s, hs, rfl⟩
  · apply getViewDefinition_iff catalog hquery
  · apply hasSequence_iff
  · intro tableName indexName
    apply hasIndex_eq catalog hsys htmp

/-- A catalog of a table and a view, with an index and with two sequences, one of which a default
draws from. -/
def shopCatalog : Catalog where
  schemas := [⟨2000, "app"⟩, ⟨2114, "tmp"⟩]
  tables := [⟨8000, "orders", 2000, 0⟩, ⟨8001, "open_orders", 2000, 1⟩]
  columns :=
    [{ id := 8002, tableId := 8000, name := "no", type := "int", number := 0
       default := some (nextValueFor "app" "order_no") }]
  sequences :=
    [{ id := 8003, schemaId := 2000, name := "order_no" },
      { id := 8004, schemaId := 2000, name := "parcel_no" }]
  sys :=
    { objects := [⟨8005, "no", 0⟩]
      idxs := [⟨8005, 8000, "ix_orders_no"⟩] }
  currentSchema := "app"
  schemaIds := appSchemaIds
  schemaNames := appSchemaNames
  tableIds := by decide
  tableNames := by decide
  sequenceNames := by decide
  currentSchema_mem := app_mem_schemas

/-- The query of the view. -/
def shopQuery (t : TableRow) : Option String :=
  if t.type = tableTypeView then some "SELECT * FROM app.orders" else none

theorem lookupsAgree_shop :
  LookupsAgree shopCatalog shopQuery none
  := by
  apply lookupsAgree
  · constructor <;> decide
  · constructor <;> decide
  · decide

end MonetDB
