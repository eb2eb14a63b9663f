import MonetdbAdbc.Catalog.Reflection
import MonetdbAdbc.Library.Dict
import MonetdbAdbc.Library.Machine

/-!
# Resolving a request

A batched request names a schema, optionally some tables, a scope and kinds of objects.
`resolveTables` finds the tables it is about and which of them are temporary.  Of the tables
of one name it keeps one, a permanent table before a temporary one: `mem_tables_iff` says
which.

Resolved requests are kept in the `info_cache` that SQLAlchemy may pass along, under all
of their arguments, and `reflectionMachine` answers one request after the other from it.
-/

namespace MonetDB

/-! ### Requests -/

/-- `ObjectKind`, a set of flags. -/
structure ObjectKind where
  table : Bool
  view : Bool
  materializedView : Bool
deriving DecidableEq, Repr

/-- `ObjectKind.TABLE`. -/
def ObjectKind.TABLE : ObjectKind := ⟨true, false, false⟩

/-- `ObjectKind.ANY`. -/
def ObjectKind.ANY : ObjectKind := ⟨true, true, true⟩

/-- `ObjectScope`, a set of flags. -/
structure ObjectScope where
  default : Bool
  temporary : Bool
deriving DecidableEq, Repr

/-- `ObjectScope.DEFAULT`. -/
def ObjectScope.DEFAULT : ObjectScope := ⟨true, false⟩

/-- `ObjectScope.TEMPORARY`. -/
def ObjectScope.TEMPORARY : ObjectScope := ⟨false, true⟩

/-- `ObjectScope.ANY`. -/
def ObjectScope.ANY : ObjectScope := ⟨true, true⟩

/-- The reflection arguments of a batched request. -/
structure Request where
  schema : Option String := none
  filterNames : Option (List String) := none
  scope : ObjectScope := .DEFAULT
  kind : ObjectKind := .TABLE
deriving DecidableEq, Repr

/-- The tables of a request, by their identity, and those of them that are temporary. -/
structure Resolved where
  tables : Dict ObjectId String
  temporary : List ObjectId

/-! ### Resolving -/

/-- The types of tables that a request admits in its schema. -/
def Request.types (kw : Request) : List Int :=
  (if kw.kind.table then
    if kw.filterNames.isSome then tableTypes ++ [tableTypeSystemTable] else [tableTypeTable]
  else
    [])
    ++
  (if kw.kind.view then
    if kw.filterNames.isSome then [tableTypeView, tableTypeSystemView] else [tableTypeView]
  else
    [])

/-- A table of one of the requested types in the requested schema. -/
def Request.inSchema (kw : Request) (currentSchema : String) (r : TableRow × SchemaRow) : Bool :=
  r.2.name = kw.schema.getD currentSchema ∧ r.1.type ∈ kw.types

/-- A local temporary table. -/
def inTemporary (r : TableRow × SchemaRow) : Bool :=
  r.2.name = "tmp" ∧ r.1.type = tableTypeLocalTemporary

/-- The conditions of a request, of which a table must satisfy one. -/
def Request.scopes (kw : Request) (currentSchema : String) :
    List (TableRow × SchemaRow → Bool) :=
  (if kw.types ≠ [] ∧ kw.scope.default then [kw.inSchema currentSchema] else [])
    ++ (if kw.scope.temporary ∧ kw.kind.table ∧ kw.schema = none then [inTemporary] else [])

variable (catalog : Catalog)

/-- The tables that satisfy a condition of a request and have one of its names. -/
def Request.rows (kw : Request) : List TableRow :=
  let joined := Query.innerJoin (fun t s => t.schemaId = s.id) catalog.tables catalog.schemas
  let wanted := joined.filter fun r =>
    ((kw.scopes catalog.currentSchema).any fun scope => scope r)
      ∧ kw.filterNames.all fun names => r.1.name ∈ names
  wanted.map Prod.fst

/-- One table for each name, a permanent one if there is one. -/
def Request.selected (kw : Request) : Dict String TableRow :=
  Dict.groupBy TableRow.name (fun t o => o.getD t)
    (Query.orderBy (fun t => decide (t.type = tableTypeLocalTemporary)) (kw.rows catalog))

/-- `_resolve_tables`. -/
def resolveTables (kw : Request) : Resolved :=
  if kw.filterNames = some [] ∨ (kw.scopes catalog.currentSchema).isEmpty then
    ⟨Dict.empty, []⟩
  else
    let selected := (kw.selected catalog).values
    { tables := Dict.ofList (selected.map fun t => (t.id, t.name))
      temporary :=
        (selected.filter fun t => t.type = tableTypeLocalTemporary).map TableRow.id }

/-! ### What a request resolves to -/

/-- A table lies in the schema of a name. -/
def Catalog.InSchema (t : TableRow) (schema : String) : Prop :=
  ∃ s ∈ catalog.schemas, t.schemaId = s.id ∧ s.name = schema

/-- The request admits a table as one of the schema it names. -/
structure Request.AdmitsOwn (kw : Request) (t : TableRow) : Prop where
  scope : kw.scope.default
  type : t.type ∈ kw.types
  schema : catalog.InSchema t (kw.schema.getD catalog.currentSchema)

/-- The request admits a table as a temporary one. -/
structure Request.AdmitsTemporary (kw : Request) (t : TableRow) : Prop where
  scope : kw.scope.temporary
  kind : kw.kind.table
  unqualified : kw.schema = none
  type : t.type = tableTypeLocalTemporary
  schema : catalog.InSchema t "tmp"

/-- The request is about tables of a name. -/
def Request.Names (kw : Request) (name : String) : Prop :=
  ∀ names, kw.filterNames = some names → name ∈ names

/-- The request admits a table of the catalog. -/
structure Request.Admits (kw : Request) (t : TableRow) : Prop where
  mem : t ∈ catalog.tables
  named : kw.Names t.name
  scope : kw.AdmitsOwn catalog t ∨ kw.AdmitsTemporary catalog t

/-- The request resolves to a table: it admits the table, and no permanent table of its name
if the table is temporary. -/
structure Request.Selects (kw : Request) (t : TableRow) : Prop where
  admits : kw.Admits catalog t
  first : t.type = tableTypeLocalTemporary →
    ∀ t', kw.Admits catalog t' → t'.name = t.name → t'.type = tableTypeLocalTemporary

theorem Catalog.inSchema_iff (t : TableRow) (name : String) :
  catalog.InSchema t name ↔ ∃ s, catalog.schema? (some name) = some s ∧ t.schemaId = s.id
  := by
  simp only [InSchema, schema?_eq_some_iff, Option.getD_some]
  apply exists_congr
  tauto

theorem Catalog.schema_unique {t t' : TableRow} {schema : String}
    (h : catalog.InSchema t schema) (h' : catalog.InSchema t' schema) :
  t.schemaId = t'.schemaId
  := by
  obtain ⟨s, hs, hid, hname⟩ := h
  obtain ⟨s', hs', hid', hname'⟩ := h'
  rw [hid, hid', catalog.schema_eq_of_name hs hs' (hname.trans hname'.symm)]

theorem Request.mem_types (kw : Request) (type : Int) :
  type ∈ kw.types ↔
    (kw.kind.table ∧ (type = tableTypeTable ∨
      kw.filterNames.isSome ∧ (type ∈ tableTypes ∨ type = tableTypeSystemTable))) ∨
    (kw.kind.view ∧ (type = tableTypeView ∨
      kw.filterNames.isSome ∧ type = tableTypeSystemView))
  := by
  have htypes : type = tableTypeTable → type ∈ tableTypes := by
    rintro rfl
    apply List.mem_cons_self
  cases hfilter : kw.filterNames.isSome <;> cases htable : kw.kind.table <;>
    cases hview : kw.kind.view <;> simp [types, hfilter, htable, hview] <;> tauto

/-- No request admits temporary tables as its own. -/
theorem Request.type_ne_of_mem_types {kw : Request} {type : Int} (h : type ∈ kw.types) :
  type ≠ tableTypeLocalTemporary
  := by
  rintro rfl
  rw [mem_types] at h
  revert h
  simp [tableTypeLocalTemporary, tableTypeTable, tableTypes, tableTypeMerge, tableTypeRemote,
    tableTypeReplica, tableTypeSystemTable, tableTypeView, tableTypeSystemView]

theorem Request.any_scopes (kw : Request) (t : TableRow) (s : SchemaRow) :
  ((kw.scopes catalog.currentSchema).any fun scope => scope (t, s)) ↔
    (kw.scope.default ∧ t.type ∈ kw.types ∧ s.name = kw.schema.getD catalog.currentSchema) ∨
    (kw.scope.temporary ∧ kw.kind.table ∧ kw.schema = none ∧
      t.type = tableTypeLocalTemporary ∧ s.name = "tmp")
  := by
  have hne : t.type ∈ kw.types → kw.types ≠ [] := List.ne_nil_of_mem
  rw [scopes, List.any_append, Bool.or_eq_true]
  apply or_congr
  · split
    · rename_i h
      simp [inSchema, h.2, and_comm]
    · rename_i h
      simp only [List.any_nil, Bool.false_eq_true, false_iff]
      rintro ⟨hdefault, htype, -⟩
      apply h ⟨hne htype, hdefault⟩
  · split
    · rename_i h
      simp [inTemporary, h, and_comm]
    · rename_i h
      simp only [List.any_nil, Bool.false_eq_true, false_iff]
      rintro ⟨htemporary, hkind, hschema, -⟩
      apply h ⟨htemporary, hkind, hschema⟩

/-- The rows of the query are the tables that the request admits. -/
theorem Request.mem_rows (kw : Request) (t : TableRow) :
  t ∈ kw.rows catalog ↔ kw.Admits catalog t
  := by
  have hnames : (kw.filterNames.all fun names => t.name ∈ names) ↔ kw.Names t.name := by
    cases h : kw.filterNames <;> simp [Names, h]
  simp only [rows, List.mem_map, List.mem_filter, Prod.exists, exists_and_right,
    exists_eq_right, Query.mem_innerJoin, decide_eq_true_eq, any_scopes, hnames]
  constructor
  · rintro ⟨s, ⟨ht, hs, hid⟩, hscope, hname⟩
    use ht, hname
    apply Or.imp _ _ hscope
    · rintro ⟨hdefault, htype, hschema⟩
      exact ⟨hdefault, htype, s, hs, hid, hschema⟩
    · rintro ⟨htemporary, hkind, hnone, htype, hschema⟩
      exact ⟨htemporary, hkind, hnone, htype, s, hs, hid, hschema⟩
  · rintro ⟨ht, hname, ⟨hdefault, htype, s, hs, hid, hschema⟩ |
      ⟨htemporary, hkind, hnone, htype, s, hs, hid, hschema⟩⟩
    · exact ⟨s, ⟨ht, hs, hid⟩, Or.inl ⟨hdefault, htype, hschema⟩, hname⟩
    · exact ⟨s, ⟨ht, hs, hid⟩, Or.inr ⟨htemporary, hkind, hnone, htype, hschema⟩, hname⟩

/-- Two admitted tables of one name that are both permanent, or both temporary, are the
same. -/
theorem Request.Admits.eq_of_name {kw : Request} {t t' : TableRow}
    (h : kw.Admits catalog t) (h' : kw.Admits catalog t') (hname : t.name = t'.name)
    (htype : t.type = tableTypeLocalTemporary ↔ t'.type = tableTypeLocalTemporary) :
  t = t'
  := by
  apply catalog.table_eq_of_name h.mem h'.mem _ hname
  rcases h.scope with hs | hs <;> rcases h'.scope with hs' | hs'
  · apply catalog.schema_unique hs.schema hs'.schema
  · exact absurd (htype.mpr hs'.type) (type_ne_of_mem_types hs.type)
  · exact absurd (htype.mp hs.type) (type_ne_of_mem_types hs'.type)
  · apply catalog.schema_unique hs.schema hs'.schema

/-- An admitted table is in a schema. -/
theorem Request.Admits.exists_schema {kw : Request} {t : TableRow} (h : kw.Admits catalog t) :
  ∃ s ∈ catalog.schemas, t.schemaId = s.id
  := by
  rcases h.scope with hscope | hscope
  · obtain ⟨s, hs, hid, -⟩ := hscope.schema
    exact ⟨s, hs, hid⟩
  · obtain ⟨s, hs, hid, -⟩ := hscope.schema
    exact ⟨s, hs, hid⟩

/-- A request resolves to one table for each name. -/
theorem Request.Selects.eq_of_name {kw : Request} {t t' : TableRow}
    (h : kw.Selects catalog t) (h' : kw.Selects catalog t') (hname : t.name = t'.name) :
  t = t'
  := by
  apply h.admits.eq_of_name catalog h'.admits hname
  constructor
  · intro htype
    apply h.first htype t' h'.admits hname.symm
  · intro htype
    apply h'.first htype t h.admits hname

theorem Request.selects_of_get?_selected (kw : Request) {name : String} {t : TableRow}
    (h : (kw.selected catalog).get? name = some t) :
  kw.Selects catalog t ∧ t.name = name
  := by
  rw [selected, Dict.get?_groupBy_setDefault] at h
  obtain ⟨hmem, hname, hleast⟩ := Query.find?_orderBy h
  have hname : t.name = name := of_decide_eq_true hname
  constructor
  · constructor
    · apply (kw.mem_rows catalog t).mp hmem
    · intro htype t' ht' hname'
      have := hleast t' ((kw.mem_rows catalog t').mpr ht') (decide_eq_true (hname'.trans hname))
      simpa [htype, Bool.le_iff_imp] using this
  · apply hname

theorem Request.Admits.mem_keys_selected {kw : Request} {t : TableRow}
    (h : kw.Admits catalog t) :
  t.name ∈ (kw.selected catalog).keys
  := by
  rw [selected, Dict.mem_keys_groupBy]
  use t
  rw [Query.mem_orderBy, mem_rows]
  exact ⟨h, rfl⟩

/-- Of every name that it admits a table of, a request resolves to one. -/
theorem Request.Admits.exists_selects {kw : Request} {t : TableRow}
    (h : kw.Admits catalog t) :
  ∃ t', kw.Selects catalog t' ∧ t'.name = t.name
  := by
  obtain ⟨t', ht'⟩ := (Dict.mem_keys_iff _ _).mp (h.mem_keys_selected catalog)
  use t'
  apply kw.selects_of_get?_selected catalog ht'

/-- The table of a name that a request resolves to. -/
theorem Request.get?_selected (kw : Request) (name : String) (t : TableRow) :
  (kw.selected catalog).get? name = some t ↔ kw.Selects catalog t ∧ t.name = name
  := by
  constructor
  · apply kw.selects_of_get?_selected
  · rintro ⟨ht, rfl⟩
    obtain ⟨t', ht'⟩ := (Dict.mem_keys_iff _ _).mp (ht.admits.mem_keys_selected catalog)
    obtain ⟨hsel, hname⟩ := kw.selects_of_get?_selected catalog ht'
    rw [ht', hsel.eq_of_name catalog ht hname]

theorem Request.mem_values_selected (kw : Request) (t : TableRow) :
  t ∈ (kw.selected catalog).values ↔ kw.Selects catalog t
  := by
  rw [Dict.mem_values_iff]
  simp only [get?_selected, exists_and_left, exists_eq', and_true]

/-- The tables selected have different identities. -/
theorem Request.nodup_selected (kw : Request) :
  (((kw.selected catalog).values.map fun t => (t.id, t.name)).map Prod.fst).Nodup
  := by
  have hname : (kw.selected catalog).values.map TableRow.name = (kw.selected catalog).keys := by
    rw [Dict.values, Dict.keys, List.map_map]
    apply List.map_congr_left
    rintro ⟨name, t⟩ hmem
    rw [Dict.mem_items_iff, get?_selected] at hmem
    apply hmem.2
  have hnodup : ((kw.selected catalog).values.map TableRow.name).Nodup := by
    rw [hname]
    apply Dict.keys_nodup
  rw [List.map_map]
  apply List.Nodup.map_on _ hnodup.of_map
  intro t ht t' ht' hid
  rw [mem_values_selected] at ht ht'
  apply catalog.table_eq_of_id ht.admits.mem ht'.admits.mem hid

/-- Without names to look for, or without a condition, a request resolves to no table. -/
theorem Request.not_selects {kw : Request}
    (h : kw.filterNames = some [] ∨ (kw.scopes catalog.currentSchema).isEmpty) (t : TableRow) :
  ¬ kw.Selects catalog t
  := by
  intro ht
  rcases h with h | h
  · have := ht.admits.named [] h
    simp at this
  · have hmem := (kw.mem_rows catalog t).mpr ht.admits
    rw [List.isEmpty_iff] at h
    simp [rows, h] at hmem

/-- The tables that a request resolves to. -/
theorem mem_tables_iff (kw : Request) (id : ObjectId) (name : String) :
  (id, name) ∈ (resolveTables catalog kw).tables.items ↔
    ∃ t, kw.Selects catalog t ∧ t.id = id ∧ t.name = name
  := by
  unfold resolveTables
  split
  · rename_i h
    simp [kw.not_selects catalog h]
  · dsimp only
    rw [Dict.items_ofList (kw.nodup_selected catalog)]
    simp only [List.mem_map, Request.mem_values_selected, Prod.mk.injEq]

theorem mem_temporary_iff (kw : Request) (id : ObjectId) :
  id ∈ (resolveTables catalog kw).temporary ↔
    ∃ t, kw.Selects catalog t ∧ t.type = tableTypeLocalTemporary ∧ t.id = id
  := by
  unfold resolveTables
  split
  · rename_i h
    simp [kw.not_selects catalog h]
  · simp only [List.mem_map, List.mem_filter, Request.mem_values_selected, decide_eq_true_eq,
      and_assoc]

/-- A request resolves each name to one table. -/
theorem names_nodup (kw : Request) :
  ((resolveTables catalog kw).tables.items.map Prod.snd).Nodup
  := by
  apply List.Nodup.map_on _ (Dict.keys_nodup _).of_map
  rintro ⟨id, name⟩ h ⟨id', name'⟩ h' hname
  rw [mem_tables_iff] at h h'
  obtain ⟨t, ht, rfl, rfl⟩ := h
  obtain ⟨t', ht', rfl, rfl⟩ := h'
  rw [ht.eq_of_name catalog ht' hname]

/-! ### The cache -/

/-- The resolved requests in an `info_cache`, by their arguments. -/
abbrev InfoCache := Dict Request Resolved

/-- `_resolve_request`, with the cache it leaves. -/
def resolveRequest (kw : Request) (infoCache : Option InfoCache) :
    Resolved × Option InfoCache :=
  match infoCache.bind (·.get? kw) with
  | some resolved => (resolved, infoCache)
  | none =>
    let resolved := resolveTables catalog kw
    (resolved, infoCache.map (·.set kw resolved))

/-- Requests over an unchanged catalog, one after the other. -/
def reflectionMachine : Machine (Option InfoCache) Request Resolved where
  step infoCache kw := resolveRequest catalog kw infoCache

/-- The `info_cache` that earlier requests leave: there is none, or it was empty before
them. -/
def Earlier (infoCache : Option InfoCache) : Prop :=
  ∃ start requests, (start = none ∨ start = some Dict.empty) ∧
    (reflectionMachine catalog).final start requests = infoCache

/-- What the cache holds of a request is what the request resolves to. -/
def Faithful (infoCache : Option InfoCache) : Prop :=
  ∀ cache ∈ infoCache, ∀ kw resolved, cache.get? kw = some resolved →
    resolved = resolveTables catalog kw

/-- A request leaves a faithful cache faithful. -/
theorem Faithful.resolveRequest {infoCache : Option InfoCache}
    (h : Faithful catalog infoCache) (kw : Request) :
  Faithful catalog (resolveRequest catalog kw infoCache).2
  := by
  unfold MonetDB.resolveRequest
  split
  · apply h
  · rename_i hmiss
    cases infoCache with
    | none => simp [Faithful]
    | some cache =>
        intro cache' hcache'
        obtain rfl : cache.set kw (resolveTables catalog kw) = cache' := by
          simpa using hcache'
        intro kw' resolved hget
        rw [Dict.get?_set] at hget
        split at hget
        · rename_i hkw
          rw [hkw, ← Option.some_inj, hget]
        · apply h cache rfl kw' resolved hget

theorem Earlier.faithful {infoCache : Option InfoCache} (h : Earlier catalog infoCache) :
  Faithful catalog infoCache
  := by
  obtain ⟨start, requests, hstart, rfl⟩ := h
  have hfaithful : Faithful catalog start := by
    rcases hstart with rfl | rfl
    · simp [Faithful]
    · intro cache hcache kw resolved hget
      obtain rfl : Dict.empty = cache := by simpa using hcache
      simp at hget
  apply (reflectionMachine catalog).invariant_of_next _ hfaithful
  intro infoCache kw hcache
  apply hcache.resolveRequest

/-- Whatever requests ran before it, a request resolves to the same tables. -/
theorem Earlier.resolveRequest_fst {infoCache : Option InfoCache}
    (h : Earlier catalog infoCache) (kw : Request) :
  (resolveRequest catalog kw infoCache).1 = resolveTables catalog kw
  := by
  unfold resolveRequest
  split
  · rename_i resolved hhit
    obtain ⟨cache, hcache, hget⟩ := Option.bind_eq_some_iff.mp hhit
    apply h.faithful catalog cache hcache kw resolved hget
  · rfl

end MonetDB
