import MonetdbAdbc.Catalog.Getters

/-!
# Batched, single-table and cached reflection

The entry that a batched getter gives for a table depends only on the table and on the
schema argument: not on the other tables of the request, nor on the requests that filled
the cache.  `AnswersByTable` says so, and that the getter of a single table gives the same
entry; `reflection_answersByTable` proves it of the seven getters.

The rows that `_fetch` reads for a table are those of its own query, since every query
selects by table (`Query.SelectsBy`), and the sequence that a column is
generated by is looked up by the default of that column.
-/

namespace MonetDB

variable {α γ ρ : Type}

/-! ### The rows of one table -/

variable (catalog : Catalog)

/-- The rows that are fetched for a table are those of a query for it alone, in the catalog
of its kind. -/
theorem filter_fetch {tableId : ρ → ObjectId} {query : KeyCatalog → List ObjectId → List ρ}
    (hquery : ∀ c, Query.SelectsBy tableId (query c)) (resolved : Resolved) {id : ObjectId}
    (hid : id ∈ resolved.tables.keys) :
  (fetch catalog query resolved).filter (tableId · = id)
    = query (if id ∈ resolved.temporary then catalog.tmp else catalog.sys) [id]
  := by
  have hgroup : ∀ (c : KeyCatalog) (ids : List ObjectId),
      (if ids.isEmpty then [] else query c ids).filter (tableId · = id)
        = if id ∈ ids then query c [id] else [] := by
    intro c ids
    by_cases hids : id ∈ ids
    · have hne : ids.isEmpty = false := by
        rw [List.isEmpty_eq_false_iff]
        apply List.ne_nil_of_mem hids
      rw [hne, if_pos hids, ← (hquery c).filter_eq ids id hids]
      rfl
    · rw [if_neg hids, List.filter_eq_nil_iff]
      intro r hr
      split at hr
      · simp at hr
      · rw [decide_eq_true_eq]
        rintro rfl
        apply hids ((hquery c).within ids r hr)
  unfold fetch
  dsimp only
  by_cases htmp : id ∈ resolved.temporary
  · have hne : resolved.temporary.isEmpty = false := by
      rw [List.isEmpty_eq_false_iff]
      apply List.ne_nil_of_mem htmp
    simp only [hne, Bool.false_eq_true, if_false, List.flatMap_cons, List.flatMap_nil,
      List.filter_append, hgroup]
    simp [hid, htmp]
  · split <;> simp only [List.flatMap_cons, List.flatMap_nil, List.filter_append, hgroup] <;>
      simp [hid, htmp]

/-- Every row that is fetched is a row of the query. -/
theorem exists_of_mem_fetch {query : KeyCatalog → List ObjectId → List ρ} {resolved : Resolved}
    {r : ρ} (hr : r ∈ fetch catalog query resolved) :
  ∃ c ids, r ∈ query c ids
  := by
  obtain ⟨group, -, hr⟩ := List.mem_flatMap.mp hr
  split at hr
  · simp at hr
  · use group.1, group.2

/-- The catalog of the keys and indexes of a table. -/
def Catalog.home (id : ObjectId) : KeyCatalog :=
  if catalog.tables.any fun t => t.id = id ∧ t.type = tableTypeLocalTemporary then
    catalog.tmp
  else
    catalog.sys

theorem home_eq {kw : Request} {id : ObjectId}
    (hid : id ∈ (resolveTables catalog kw).tables.keys) :
  (if id ∈ (resolveTables catalog kw).temporary then catalog.tmp else catalog.sys)
    = catalog.home id
  := by
  obtain ⟨name, hmem⟩ := (Dict.mem_keys_iff _ _).mp hid
  rw [← Dict.mem_items_iff, mem_tables_iff] at hmem
  obtain ⟨t, ht, rfl, rfl⟩ := hmem
  have htype : t.id ∈ (resolveTables catalog kw).temporary ↔
      (catalog.tables.any fun t' => t'.id = t.id ∧ t'.type = tableTypeLocalTemporary) := by
    rw [mem_temporary_iff, List.any_eq_true]
    constructor
    · rintro ⟨t', ht', htype, hid⟩
      use t', ht'.admits.mem
      simp [htype, hid]
    · rintro ⟨t', ht', h⟩
      obtain ⟨hid, htype⟩ := of_decide_eq_true h
      obtain rfl := catalog.table_eq_of_id ht' ht.admits.mem hid
      exact ⟨t', ht, htype, rfl⟩
  simp only [Catalog.home, htype]

/-- The entry of a table that grouping the fetched rows gives. -/
def Catalog.entry (query : KeyCatalog → List ObjectId → List ρ) (step : ρ → Option γ → γ)
    (answer : Option γ → α) (id : ObjectId) : α :=
  answer (Dict.foldGroup step none (query (catalog.home id) [id]))

theorem answerByTable_fetch {tableId : ρ → ObjectId}
    {query : KeyCatalog → List ObjectId → List ρ}
    (hquery : ∀ c, Query.SelectsBy tableId (query c))
    (step : ρ → Option γ → γ) (answer : Option γ → α) (schema : Option String) (kw : Request) :
  answerByTable tableId step answer schema (resolveTables catalog kw)
      (fetch catalog query (resolveTables catalog kw))
    = (resolveTables catalog kw).tables.items.map fun p =>
        ((schema, p.2), catalog.entry query step answer p.1)
  := by
  unfold answerByTable
  apply List.map_congr_left
  intro p hp
  have hid : p.1 ∈ (resolveTables catalog kw).tables.keys := List.mem_map_of_mem hp
  rw [Dict.get?_groupBy, filter_fetch catalog hquery _ hid, home_eq catalog hid]
  rfl

/-! ### The queries select by table -/

theorem selectsBy_columnRows (c : KeyCatalog) :
  Query.SelectsBy (fun r => r.1.tableId) (columnRows catalog c)
  := (Query.selectsBy_mem _ _).orderBy _

theorem selectsBy_keyColumns (type : Int) (c : KeyCatalog) :
  Query.SelectsBy (fun r => r.1.tableId) (keyColumns type c)
  := Query.selectsBy_filter _ _ _

theorem selectsBy_primaryKeyRows (c : KeyCatalog) :
  Query.SelectsBy (fun r => r.1.tableId) (primaryKeyRows c)
  := (selectsBy_keyColumns keyTypePrimary c).orderBy _

theorem selectsBy_uniqueRows (c : KeyCatalog) :
  Query.SelectsBy (fun r => r.1.tableId) (uniqueRows c)
  := (selectsBy_keyColumns keyTypeUnique c).orderBy _

theorem selectsBy_checkRows (c : KeyCatalog) :
  Query.SelectsBy (fun r => r.1.1.tableId) (checkRows catalog c)
  := (Query.selectsBy_filter _ _ _).orderBy _

theorem selectsBy_foreignKeyRows (c : KeyCatalog) :
  Query.SelectsBy (fun r => r.fkk.tableId) (foreignKeyRows catalog c)
  := (Query.selectsBy_mem _ _).orderBy _

theorem selectsBy_indexRows (c : KeyCatalog) :
  Query.SelectsBy (fun r => r.1.1.tableId) (indexRows c)
  := (Query.selectsBy_filter _ _ _).orderBy _

theorem selectsBy_commentRows (c : KeyCatalog) :
  Query.SelectsBy CommentRow.id (commentRows catalog c)
  := Query.selectsBy_mem _ _

/-! ### The columns of a table -/

/-- The column of a row, given the sequences of the catalog. -/
def Catalog.column (r : ColumnRow × Option CommentRow) : ReflectedColumn :=
  reflectedColumn (fun key => (catalog.sequence? key).map fun s =>
    (catalog.generated s.1, s.1.identity)) r

/-- What the other columns of a request draw from does not matter to a column. -/
theorem reflectedColumn_eq {resolved : Resolved} {r : ColumnRow × Option CommentRow}
    (hr : r ∈ fetch catalog (columnRows catalog) resolved) :
  reflectedColumn (requestSequences catalog resolved).get? r = catalog.column r
  := by
  have hsequence : (r.1.default.bind autoincrementDefault).bind
        (requestSequences catalog resolved).get?
      = (r.1.default.bind autoincrementDefault).bind fun key =>
        (catalog.sequence? key).map fun s => (catalog.generated s.1, s.1.identity) := by
    cases hkey : r.1.default.bind autoincrementDefault with
    | none => rfl
    | some key =>
        obtain ⟨default, hdefault, hmatch⟩ := Option.bind_eq_some_iff.mp hkey
        apply get?_sequenceReflection catalog _ hmatch
        rw [← hdefault]
        apply List.mem_map_of_mem hr
  simp only [Catalog.column, reflectedColumn, hsequence]

/-- The columns of a table. -/
def Catalog.columnsOf (id : ObjectId) : List ReflectedColumn :=
  (columnRows catalog (catalog.home id) [id]).map catalog.column

theorem answerByTable_columns (schema : Option String) (kw : Request) :
  answerByTable (fun r => r.1.tableId)
      (fun r columns => columns.getD [] ++
        [reflectedColumn (requestSequences catalog (resolveTables catalog kw)).get? r])
      (fun columns => columns.getD []) schema (resolveTables catalog kw)
      (fetch catalog (columnRows catalog) (resolveTables catalog kw))
    = (resolveTables catalog kw).tables.items.map fun p =>
        ((schema, p.2), catalog.columnsOf p.1)
  := by
  unfold answerByTable
  apply List.map_congr_left
  intro p hp
  have hid : p.1 ∈ (resolveTables catalog kw).tables.keys := List.mem_map_of_mem hp
  have hrows := filter_fetch catalog (selectsBy_columnRows catalog) _ hid
  rw [Dict.get?_groupBy]
  dsimp only
  rw [Dict.foldGroup_append, Catalog.columnsOf, ← home_eq catalog hid, ← hrows]
  congr 1
  apply List.map_congr_left
  intro r hr
  apply reflectedColumn_eq
  apply (List.mem_filter.mp hr).1

/-! ### Agreement -/

/-- The getters of a kind of object answer by table: after whatever earlier requests, a
batched request has one entry for each table that it resolves, and the single-table getter
gives the entry of the table that it resolves. -/
structure AnswersByTable (multi : MultiGetter α) (single : SingleGetter α)
    (schema : Option String) (entry : ObjectId → α) : Prop where
  batched : ∀ kw infoCache, kw.schema = schema → Earlier catalog infoCache →
    (multi kw infoCache).1
      = (resolveRequest catalog kw infoCache).1.tables.items.map fun p =>
          ((schema, p.2), entry p.1)
  once : ∀ kw infoCache, kw.schema = schema → Earlier catalog infoCache →
    ((multi kw infoCache).1.map Prod.fst).Nodup
  one : ∀ tableName infoCache, Earlier catalog infoCache →
    (single tableName schema infoCache).1
      = match (resolveRequest catalog (oneTable tableName schema) infoCache).1.tables.items with
        | [] => .error (.noSuchTable tableName)
        | p :: _ => .ok (entry p.1)
  /-- What a call does to the cache is what a request does. -/
  cache : ∀ kw infoCache, (multi kw infoCache).2 = (reflectionMachine catalog).next infoCache kw
  one_cache : ∀ tableName infoCache, (single tableName schema infoCache).2
    = (reflectionMachine catalog).next infoCache (oneTable tableName schema)

theorem getMulti_fst {infoCache : Option InfoCache} (h : Earlier catalog infoCache)
    (answers : Option String → Resolved → List (TableKey × α)) (kw : Request) :
  (getMulti catalog answers kw infoCache).1
    = if (resolveTables catalog kw).tables.items.isEmpty then []
      else answers kw.schema (resolveTables catalog kw)
  := by rw [← h.resolveRequest_fst catalog kw, getMulti]

theorem reflectOne_fst (multi : MultiGetter α) (tableName : String) (schema : Option String)
    (infoCache : Option InfoCache) :
  (reflectOne multi tableName schema infoCache).1
    = match (multi (oneTable tableName schema) infoCache).1 with
      | [] => .error (.noSuchTable tableName)
      | p :: _ => .ok p.2
  := by
  unfold reflectOne
  rcases multi (oneTable tableName schema) infoCache with ⟨_ | ⟨p, entries⟩, infoCache⟩ <;> rfl

theorem reflectOne_snd (multi : MultiGetter α) (tableName : String) (schema : Option String)
    (infoCache : Option InfoCache) :
  (reflectOne multi tableName schema infoCache).2
    = (multi (oneTable tableName schema) infoCache).2
  := by
  unfold reflectOne
  rcases multi (oneTable tableName schema) infoCache with ⟨_ | ⟨p, entries⟩, infoCache⟩ <;> rfl

/-- A getter whose answer for the resolved tables is an entry for each answers by table. -/
theorem answersByTable_getMulti {answers : Option String → Resolved → List (TableKey × α)}
    {schema : Option String} {entry : ObjectId → α}
    (h : ∀ kw, answers schema (resolveTables catalog kw)
      = (resolveTables catalog kw).tables.items.map fun p => ((schema, p.2), entry p.1)) :
  AnswersByTable catalog (getMulti catalog answers) (reflectOne (getMulti catalog answers)) schema
    entry
  := by
  have hbatched : ∀ kw infoCache, kw.schema = schema → Earlier catalog infoCache →
      (getMulti catalog answers kw infoCache).1
        = (resolveRequest catalog kw infoCache).1.tables.items.map fun p =>
            ((schema, p.2), entry p.1) := by
    intro kw infoCache hschema hearlier
    rw [getMulti_fst catalog hearlier, hearlier.resolveRequest_fst, hschema, h]
    split
    · rename_i hempty
      rw [List.isEmpty_iff.mp hempty, List.map_nil]
    · rfl
  constructor
  · apply hbatched
  · intro kw infoCache hschema hearlier
    rw [hbatched kw infoCache hschema hearlier, hearlier.resolveRequest_fst, List.map_map]
    apply List.Nodup.of_map Prod.snd
    rw [List.map_map]
    apply names_nodup
  · intro tableName infoCache hearlier
    rw [reflectOne_fst, hbatched _ _ rfl hearlier]
    cases (resolveRequest catalog (oneTable tableName schema) infoCache).1.tables.items <;> rfl
  · intros
    rfl
  · intro tableName infoCache
    rw [reflectOne_snd]
    rfl

/-! ### The entries of a table -/

/-- The primary key of a table. -/
def Catalog.primaryKeyOf : ObjectId → ReflectedPrimaryKeyConstraint :=
  catalog.entry primaryKeyRows addPrimaryKeyColumn fun constraint =>
    constraint.getD { constrainedColumns := [], name := none }

/-- The unique constraints of a table. -/
def Catalog.uniqueConstraintsOf : ObjectId → List ReflectedUniqueConstraint :=
  catalog.entry uniqueRows (Dict.alterIn (fun r => r.1.name) addUniqueColumn) fun constraints =>
    (constraints.getD Dict.empty).items.map fun p => { name := p.1, columnNames := p.2 }

/-- The foreign keys of a table. -/
def Catalog.foreignKeysOf (schema : Option String) :
    ObjectId → List ReflectedForeignKeyConstraint :=
  catalog.entry (foreignKeyRows catalog)
    (Dict.alterIn (fun r => r.fkk.name) (addForeignKeyColumn schema)) fun constraints =>
      (constraints.getD Dict.empty).values

/-- The indexes of a table. -/
def Catalog.indexesOf : ObjectId → List ReflectedIndex :=
  catalog.entry indexRows (Dict.alterIn (fun r => r.1.1.name) addIndexColumn) fun indexes =>
    (indexes.getD Dict.empty).values

/-- The check constraints of a table. -/
def Catalog.checkConstraintsOf : ObjectId → List ReflectedCheckConstraint :=
  catalog.entry (checkRows catalog) (addCheckConstraint catalog) fun constraints =>
    constraints.getD []

/-- The comment of a table. -/
def Catalog.commentOf : ObjectId → ReflectedTableComment :=
  catalog.entry (commentRows catalog) (fun c _ => c.remark) ReflectedTableComment.mk

theorem answersByTable_columns (schema : Option String) :
  AnswersByTable catalog (getMultiColumns catalog) (getColumns catalog) schema catalog.columnsOf
  := by
  apply answersByTable_getMulti
  apply answerByTable_columns

theorem answersByTable_pkConstraint (schema : Option String) :
  AnswersByTable catalog (getMultiPkConstraint catalog) (getPkConstraint catalog) schema
    catalog.primaryKeyOf
  := by
  apply answersByTable_getMulti
  intro kw
  apply answerByTable_fetch catalog selectsBy_primaryKeyRows

theorem answersByTable_foreignKeys (schema : Option String) :
  AnswersByTable catalog (getMultiForeignKeys catalog) (getForeignKeys catalog) schema
    (catalog.foreignKeysOf schema)
  := by
  apply answersByTable_getMulti
  intro kw
  apply answerByTable_fetch catalog (selectsBy_foreignKeyRows catalog)

theorem answersByTable_indexes (schema : Option String) :
  AnswersByTable catalog (getMultiIndexes catalog) (getIndexes catalog) schema catalog.indexesOf
  := by
  apply answersByTable_getMulti
  intro kw
  apply answerByTable_fetch catalog selectsBy_indexRows

theorem answersByTable_uniqueConstraints (schema : Option String) :
  AnswersByTable catalog (getMultiUniqueConstraints catalog) (getUniqueConstraints catalog) schema
    catalog.uniqueConstraintsOf
  := by
  apply answersByTable_getMulti
  intro kw
  apply answerByTable_fetch catalog selectsBy_uniqueRows

theorem answersByTable_checkConstraints (schema : Option String) :
  AnswersByTable catalog (getMultiCheckConstraints catalog) (getCheckConstraints catalog) schema
    catalog.checkConstraintsOf
  := by
  apply answersByTable_getMulti
  intro kw
  apply answerByTable_fetch catalog (selectsBy_checkRows catalog)

theorem answersByTable_tableComment (schema : Option String) :
  AnswersByTable catalog (getMultiTableComment catalog) (getTableComment catalog) schema
    catalog.commentOf
  := by
  apply answersByTable_getMulti
  intro kw
  apply answerByTable_fetch catalog (selectsBy_commentRows catalog)

/-- The entry of a resolved table is the one under its name. -/
theorem AnswersByTable.mem_iff {multi : MultiGetter α} {single : SingleGetter α}
    {kw : Request} {entry : ObjectId → α}
    (h : AnswersByTable catalog multi single kw.schema entry) {infoCache : Option InfoCache}
    (hearlier : Earlier catalog infoCache) {id : ObjectId} {name : String}
    (hitem : (id, name) ∈ (resolveRequest catalog kw infoCache).1.tables.items) (value : α) :
  ((kw.schema, name), value) ∈ (multi kw infoCache).1 ↔ value = entry id
  := by
  rw [h.batched kw infoCache rfl hearlier, List.mem_map]
  constructor
  · rintro ⟨⟨id', name'⟩, hitem', heq⟩
    obtain ⟨hkey, rfl⟩ := Prod.mk.inj heq
    obtain rfl : name' = name := (Prod.mk.inj hkey).2
    rw [hearlier.resolveRequest_fst] at hitem hitem'
    have hid := List.inj_on_of_nodup_map (names_nodup catalog kw) hitem' hitem rfl
    rw [(Prod.mk.inj hid).1]
  · rintro rfl
    use (id, name), hitem

/-- What holds of the getters that answer by table holds of all getters. -/
theorem forAllGetters_of_answersByTable (schema : Option String)
    {P : ∀ {α : Type}, MultiGetter α → SingleGetter α → Prop}
    (h : ∀ {α : Type} {multi : MultiGetter α} {single : SingleGetter α} {entry : ObjectId → α},
      AnswersByTable catalog multi single schema entry → P multi single) :
  ForAllGetters catalog P
  := by
  constructor
  · apply h (answersByTable_columns catalog schema)
  · apply h (answersByTable_pkConstraint catalog schema)
  · apply h (answersByTable_foreignKeys catalog schema)
  · apply h (answersByTable_indexes catalog schema)
  · apply h (answersByTable_uniqueConstraints catalog schema)
  · apply h (answersByTable_checkConstraints catalog schema)
  · apply h (answersByTable_tableComment catalog schema)

/-- Batched, single-table and cached reflection agree. -/
theorem reflection_answersByTable (schema : Option String) :
  ForAllGetters catalog fun multi single =>
    ∃ entry, AnswersByTable catalog multi single schema entry
  := by
  apply forAllGetters_of_answersByTable catalog schema
  intro α multi single entry h
  use entry

end MonetDB
