import MonetdbAdbc.Catalog.IndexStore
import MonetdbAdbc.Compiler.DdlReading
import MonetdbAdbc.Library.Machine

/-!
# Indexes across runs of statements

An `IndexStore` is what an application means by its indexes: what each name on each table stands
for.  Creating an index sets an entry and dropping one clears it.  A `DdlServer` is sent the texts
that the compiler writes; it accepts a statement or rejects it, and what it records of a statement
that it accepts is `Records`: a unique constraint is backed by an index of its name.

`indexStore_run` says that the catalog follows the store over every run of statements, and
`reflectedIndexes_run` that reflection shows the store.
-/

namespace MonetDB

/-! ### Stores of indexes -/

/-- The indexes of all tables, by table and name. -/
abbrev IndexStore := ObjectId → String → Option IndexEntry

namespace IndexStore

/-- Set or clear the entry of a name on a table. -/
def set (store : IndexStore) (id : ObjectId) (name : String) (e : Option IndexEntry) : IndexStore :=
  fun id' name' => if id' = id ∧ name' = name then e else store id' name'

/-- An index of a name is on one of the tables of a schema. -/
def has (store : IndexStore) (tables : List TableRow) (schemaId : ObjectId) (name : String) :
    Bool :=
  tables.any fun t => t.schemaId = schemaId ∧ (store t.id name).isSome

/-- Clear the entries of a name on the tables of a schema. -/
def clear (store : IndexStore) (tables : List TableRow) (schemaId : ObjectId) (name : String) :
    IndexStore :=
  fun id' name' =>
    if name' = name ∧ tables.any fun t => t.id = id' ∧ t.schemaId = schemaId then
      none
    else
      store id' name'

end IndexStore

/-- The table that a statement names. -/
def Catalog.namedTable? (catalog : Catalog) (o : ObjectName) : Option TableRow :=
  (catalog.schema? o.schema).bind fun s => catalog.table? s.id o.name

/-- The store after a statement that is accepted, with the names that the catalog gives to tables
and schemas.  Where there is an index of the name already, it is accepted that it is kept. -/
def IndexStore.apply (catalog : Catalog) (store : IndexStore) : DdlElement → IndexStore
  | .createIndex index _ =>
      match catalog.namedTable? index.table.objectName, index.columns with
      | some t, some columns =>
          if store.has catalog.tables t.schemaId index.name then
            store
          else
            store.set t.id index.name <| some
              { columns := columns.map Name.text
                backs := if index.unique then some keyTypeUnique else none }
      | _, _ => store
  | .dropIndex index _ =>
      if index.unique then
        match catalog.namedTable? index.table.objectName with
        | some t =>
            if (store t.id index.name).any fun e => e.backs.isSome then
              store.set t.id index.name none
            else
              store
        | none => store
      else
        match catalog.schema? index.table.objectName.schema with
        | some s => store.clear catalog.tables s.id index.name
        | none => store
  | _ => store

/-- The store as statements are accepted or rejected. -/
def declaredMachine (catalog : Catalog) : Machine IndexStore (DdlElement × Bool) Unit where
  step store e := ((), if e.2 then store.apply catalog e.1 else store)

/-! ### What the server records -/

namespace Catalog

variable (catalog : Catalog)

/-- The store that a catalog holds. -/
def indexStore : IndexStore := fun id name =>
  (catalog.home id).entryOf? id name

/-- Change the catalog of the keys and indexes of a table. -/
def updateHome (id : ObjectId) (f : KeyCatalog → KeyCatalog) : Catalog :=
  if catalog.tables.any fun t => t.id = id ∧ t.type = tableTypeLocalTemporary then
    { catalog with tmp := f catalog.tmp }
  else
    { catalog with sys := f catalog.sys }

/-- An index of a name is on one of the tables of a schema. -/
abbrev HasIndex (schemaId : ObjectId) (name : String) : Prop :=
  catalog.indexStore.has catalog.tables schemaId name

/-- Two catalogs have the same schemas and tables. -/
structure SameTables (catalog' : Catalog) : Prop where
  schemas : catalog'.schemas = catalog.schemas
  tables : catalog'.tables = catalog.tables
  currentSchema : catalog'.currentSchema = catalog.currentSchema

end Catalog

/-- A statement creates or drops an index or a constraint. -/
def Statement.concernsIndexes : Statement → Bool
  | .createIndex .. | .dropIndex .. | .addUnique .. | .dropConstraint .. => true
  | _ => false

open KeyCatalog in
/-- The catalog after a statement that the server accepts.  An index has a name that no index of
its schema has, a unique constraint is backed by an index of its name, and an index that backs a
constraint is dropped with it and not by itself. -/
inductive Records (catalog : Catalog) : Statement → Catalog → Prop
  | createIndex {ifNotExists : Bool} {name : String} {table : ObjectName} {columns : List String}
      {t : TableRow} {id : ObjectId} (ht : catalog.namedTable? table = some t)
      (hname : ¬ catalog.HasIndex t.schemaId name) (hid : (catalog.home t.id).Unused id) :
    Records catalog (.createIndex ifNotExists name table columns)
      (catalog.updateHome t.id fun c => c.addIndex ⟨id, t.id, name⟩ columns)
  | indexExists {name : String} {table : ObjectName} {columns : List String} {t : TableRow}
      (ht : catalog.namedTable? table = some t) (hname : catalog.HasIndex t.schemaId name) :
    Records catalog (.createIndex true name table columns) catalog
  | dropIndex {ifExists : Bool} {index : ObjectName} {s : SchemaRow} {t : TableRow} {i : IdxRow}
      (hs : catalog.schema? index.schema = some s) (ht : t ∈ catalog.tables)
      (hschema : t.schemaId = s.id) (hi : (catalog.home t.id).index? t.id index.name = some i)
      (hkey : (catalog.home t.id).keyNamed? t.id index.name = none) :
    Records catalog (.dropIndex ifExists index) (catalog.updateHome t.id fun c => c.removeIndex i)
  | indexMissing {index : ObjectName}
      (h : ∀ s, catalog.schema? index.schema = some s → ¬ catalog.HasIndex s.id index.name) :
    Records catalog (.dropIndex true index) catalog
  | addUnique {table : ObjectName} {name : String} {columns : List String} {t : TableRow}
      {key index : ObjectId} (ht : catalog.namedTable? table = some t)
      (hname : ¬ catalog.HasIndex t.schemaId name)
      (hnew : (catalog.home t.id).NewKey
        { id := key, tableId := t.id, type := keyTypeUnique, name } index) :
    Records catalog (.addUnique table name columns)
      (catalog.updateHome t.id fun c =>
        c.addBackedKey { id := key, tableId := t.id, type := keyTypeUnique, name } index columns)
  | dropConstraint {table : ObjectName} {ifExists : Bool} {name : String} {t : TableRow}
      {k : KeyRow} (ht : catalog.namedTable? table = some t)
      (hk : (catalog.home t.id).keyNamed? t.id name = some k) :
    Records catalog (.dropConstraint table ifExists name)
      (catalog.updateHome t.id fun c => c.removeBackedKey k)
  | constraintMissing {table : ObjectName} {name : String}
      (h : ∀ t, catalog.namedTable? table = some t →
        (catalog.home t.id).keyNamed? t.id name = none) :
    Records catalog (.dropConstraint table true name) catalog
  | other {s : Statement} {catalog' : Catalog} (hs : s.concernsIndexes = false)
      (htables : catalog.SameTables catalog') (hsys : catalog'.sys = catalog.sys)
      (htmp : catalog'.tmp = catalog.tmp) :
    Records catalog s catalog'

/-- A server: its lexical rules, and the catalog after a statement if it accepts the statement. -/
structure DdlServer where
  lexis : MonetLexis
  execute : Catalog → Statement → Option Catalog
  records : ∀ catalog s catalog', execute catalog s = some catalog' → Records catalog s catalog'

/-- The catalog as the texts of elements are sent, and whether each is accepted. -/
def DdlServer.machine (server : DdlServer) (C : SqlCompiler) :
    Machine Catalog DdlElement Bool where
  step catalog element :=
    match (readStatement server.lexis (element.compile C)).bind (server.execute catalog) with
    | some catalog' => (true, catalog')
    | none => (false, catalog)

/-! ### One change of the catalog -/

namespace Catalog

variable {catalog : Catalog}

theorem SameTables.refl (catalog : Catalog) :
  catalog.SameTables catalog
  := ⟨rfl, rfl, rfl⟩

theorem SameTables.trans {catalog' catalog'' : Catalog} (h : catalog.SameTables catalog')
    (h' : catalog'.SameTables catalog'') :
  catalog.SameTables catalog''
  := by
  constructor
  · rw [h'.schemas, h.schemas]
  · rw [h'.tables, h.tables]
  · rw [h'.currentSchema, h.currentSchema]

theorem sameTables_updateHome (catalog : Catalog) (id : ObjectId) (f : KeyCatalog → KeyCatalog) :
  catalog.SameTables (catalog.updateHome id f)
  := by
  unfold updateHome
  split <;> exact ⟨rfl, rfl, rfl⟩

/-- The catalog of a table changes with that of another table, or neither is changed. -/
theorem home_updateHome (catalog : Catalog) (id id' : ObjectId) (f : KeyCatalog → KeyCatalog) :
  (catalog.updateHome id f).home id' = f (catalog.home id) ∧ catalog.home id' = catalog.home id ∨
    (catalog.updateHome id f).home id' = catalog.home id' ∧ id' ≠ id
  := by
  unfold updateHome home
  by_cases h : catalog.tables.any fun t => t.id = id ∧ t.type = tableTypeLocalTemporary
  · by_cases h' : catalog.tables.any fun t => t.id = id' ∧ t.type = tableTypeLocalTemporary
    · left
      simp only [h, h', if_true]
      trivial
    · right
      simp only [h, if_true, h', if_false, Bool.false_eq_true]
      use trivial
      rintro rfl
      apply h' h
  · by_cases h' : catalog.tables.any fun t => t.id = id' ∧ t.type = tableTypeLocalTemporary
    · right
      simp only [h, if_false, h', if_true, Bool.false_eq_true]
      use trivial
      rintro rfl
      apply h h'
    · left
      simp only [h, h', if_false, Bool.false_eq_true]
      trivial

/-- A change of one entry in the catalog of a table is that change of the store. -/
theorem indexStore_updateHome {id : ObjectId} {name : String} {e : Option IndexEntry}
    {f : KeyCatalog → KeyCatalog}
    (hf : ∀ id' name', (f (catalog.home id)).entryOf? id' name'
      = if id' = id ∧ name' = name then e else (catalog.home id).entryOf? id' name') :
  (catalog.updateHome id f).indexStore = catalog.indexStore.set id name e
  := by
  funext id' name'
  obtain ⟨hhome, heq⟩ | ⟨hhome, hne⟩ := catalog.home_updateHome id id' f
  · simp only [indexStore, IndexStore.set, hhome, heq, hf]
  · simp only [indexStore, IndexStore.set, hhome, hne, false_and, if_false]

/-- The catalog as the server keeps it; an index has a name that no other index of its schema
has. -/
structure IndexesKept (catalog : Catalog) : Prop where
  sys : catalog.sys.Kept
  tmp : catalog.tmp.Kept
  schemaNames : ∀ t ∈ catalog.tables, ∀ t' ∈ catalog.tables, t.schemaId = t'.schemaId →
    ∀ name, (catalog.indexStore t.id name).isSome → (catalog.indexStore t'.id name).isSome →
      t = t'

theorem IndexesKept.home (hc : catalog.IndexesKept) (id : ObjectId) :
  (catalog.home id).Kept
  := by
  unfold Catalog.home
  split
  · apply hc.tmp
  · apply hc.sys

theorem hasIndex_iff (catalog : Catalog) (schemaId : ObjectId) (name : String) :
  catalog.HasIndex schemaId name ↔
    ∃ t ∈ catalog.tables, t.schemaId = schemaId ∧ (catalog.indexStore t.id name).isSome
  := by
  rw [HasIndex, IndexStore.has, List.any_eq_true]
  simp only [decide_eq_true_eq]

/-- The catalog stays as it is kept when an entry is cleared, or set to a name that is new in its
schema. -/
theorem IndexesKept.updateHome (hc : catalog.IndexesKept) {t : TableRow} (ht : t ∈ catalog.tables)
    {name : String} {e : Option IndexEntry} {f : KeyCatalog → KeyCatalog}
    (hf : (f (catalog.home t.id)).Kept)
    (hstore : (catalog.updateHome t.id f).indexStore = catalog.indexStore.set t.id name e)
    (hname : e = none ∨ ¬ catalog.HasIndex t.schemaId name) :
  (catalog.updateHome t.id f).IndexesKept
  := by
  have hset : ∀ t' ∈ catalog.tables, ∀ name',
      ((catalog.updateHome t.id f).indexStore t'.id name').isSome →
        (catalog.indexStore t'.id name').isSome ∨
          t' = t ∧ name' = name ∧ ¬ catalog.HasIndex t.schemaId name := by
    intro t' ht' name' h
    rw [hstore, IndexStore.set] at h
    split at h
    · rename_i heq
      right
      use catalog.table_eq_of_id ht' ht heq.1, heq.2
      apply hname.resolve_left
      rintro rfl
      cases h
    · left
      apply h
  constructor
  · unfold Catalog.updateHome
    unfold Catalog.home at hf
    split
    · apply hc.sys
    · rename_i htemporary
      rw [if_neg htemporary] at hf
      apply hf
  · unfold Catalog.updateHome
    unfold Catalog.home at hf
    split
    · rename_i htemporary
      rw [if_pos htemporary] at hf
      apply hf
    · apply hc.tmp
  · rw [(catalog.sameTables_updateHome t.id f).tables]
    intro t₁ ht₁ t₂ ht₂ hschema name' h₁ h₂
    obtain hsome₁ | ⟨rfl, rfl, hnew⟩ := hset t₁ ht₁ name' h₁
    · obtain hsome₂ | ⟨rfl, rfl, hnew⟩ := hset t₂ ht₂ name' h₂
      · apply hc.schemaNames t₁ ht₁ t₂ ht₂ hschema name' hsome₁ hsome₂
      · apply absurd ((catalog.hasIndex_iff _ _).mpr ⟨t₁, ht₁, hschema, hsome₁⟩) hnew
    · obtain hsome₂ | ⟨rfl, -, -⟩ := hset t₂ ht₂ name' h₂
      · apply absurd ((catalog.hasIndex_iff _ _).mpr ⟨t₂, ht₂, hschema.symm, hsome₂⟩) hnew
      · rfl

theorem mem_of_namedTable? {o : ObjectName} {t : TableRow} (h : catalog.namedTable? o = some t) :
  t ∈ catalog.tables
  := by
  obtain ⟨s, -, ht⟩ := Option.bind_eq_some_iff.mp h
  apply List.mem_of_find?_eq_some ht

/-- No index of a name is on a table whose schema has none. -/
theorem index?_eq_none_of_not_hasIndex {t : TableRow} (ht : t ∈ catalog.tables) {name : String}
    (h : ¬ catalog.HasIndex t.schemaId name) :
  (catalog.home t.id).index? t.id name = none
  := by
  rw [← KeyCatalog.entryOf?_eq_none_iff, ← Option.not_isSome_iff_eq_none]
  intro hsome
  apply h
  apply (catalog.hasIndex_iff _ _).mpr ⟨t, ht, rfl, hsome⟩

/-- A catalog has the tables of another, is kept, and holds a store. -/
structure Holds (catalog : Catalog) (store : IndexStore) (catalog' : Catalog) : Prop where
  tables : catalog.SameTables catalog'
  kept : catalog'.IndexesKept
  store : catalog'.indexStore = store

/-- A change of one entry. -/
theorem holds_updateHome (hc : catalog.IndexesKept) {t : TableRow} (ht : t ∈ catalog.tables)
    {name : String} {e : Option IndexEntry} {f : KeyCatalog → KeyCatalog}
    (hkept : (f (catalog.home t.id)).Kept)
    (hf : ∀ id' name', (f (catalog.home t.id)).entryOf? id' name'
      = if id' = t.id ∧ name' = name then e else (catalog.home t.id).entryOf? id' name')
    (hname : e = none ∨ ¬ catalog.HasIndex t.schemaId name) :
  catalog.Holds (catalog.indexStore.set t.id name e) (catalog.updateHome t.id f)
  := by
  have hstore := indexStore_updateHome hf
  constructor
  · apply sameTables_updateHome
  · apply hc.updateHome ht hkept hstore hname
  · apply hstore

theorem holds_self (hc : catalog.IndexesKept) :
  catalog.Holds catalog.indexStore catalog
  := ⟨SameTables.refl catalog, hc, rfl⟩

theorem home_eq_of_sameTables {catalog' : Catalog} (h : catalog.SameTables catalog')
    (hsys : catalog'.sys = catalog.sys) (htmp : catalog'.tmp = catalog.tmp) (id : ObjectId) :
  catalog'.home id = catalog.home id
  := by rw [home, home, h.tables, hsys, htmp]

theorem holds_of_sameTables (hc : catalog.IndexesKept) {catalog' : Catalog}
    (h : catalog.SameTables catalog') (hsys : catalog'.sys = catalog.sys)
    (htmp : catalog'.tmp = catalog.tmp) :
  catalog.Holds catalog.indexStore catalog'
  := by
  have hstore : catalog'.indexStore = catalog.indexStore := by
    funext id name
    rw [indexStore, indexStore, home_eq_of_sameTables h hsys htmp]
  have hkept : catalog'.IndexesKept := by
    constructor
    · rw [hsys]
      apply hc.sys
    · rw [htmp]
      apply hc.tmp
    · rw [h.tables, hstore]
      apply hc.schemaNames
  exact ⟨h, hkept, hstore⟩

theorem set_eq_self {store : IndexStore} {id : ObjectId} {name : String}
    {e : Option IndexEntry} (h : store id name = e) :
  store.set id name e = store
  := by
  funext id' name'
  rw [IndexStore.set]
  split
  · rename_i heq
    rw [heq.1, heq.2, h]
  · rfl

/-- The one index of a name is cleared with all of that name in its schema. -/
theorem IndexesKept.clear_eq (hc : catalog.IndexesKept) {t : TableRow} (ht : t ∈ catalog.tables)
    {name : String} (hsome : (catalog.indexStore t.id name).isSome) :
  catalog.indexStore.clear catalog.tables t.schemaId name
    = catalog.indexStore.set t.id name none
  := by
  funext id' name'
  rw [IndexStore.clear, IndexStore.set]
  by_cases hname : name' = name
  · subst hname
    by_cases hid : id' = t.id
    · rw [if_pos, if_pos ⟨hid, rfl⟩]
      use rfl
      apply List.any_eq_true.mpr
      exact ⟨t, ht, decide_eq_true ⟨hid.symm, rfl⟩⟩
    · have hne : ¬ (id' = t.id ∧ name' = name') := fun h => hid h.1
      rw [if_neg hne]
      split
      · rename_i h
        obtain ⟨t', ht', heq⟩ := List.any_eq_true.mp h.2
        obtain ⟨rfl, hschema⟩ := of_decide_eq_true heq
        symm
        rw [← Option.not_isSome_iff_eq_none]
        intro hsome'
        apply hid
        rw [hc.schemaNames t' ht' t ht hschema name' hsome' hsome]
      · rfl
  · simp [hname]

theorem clear_eq_self {schemaId : ObjectId} {name : String}
    (h : ¬ catalog.HasIndex schemaId name) :
  catalog.indexStore.clear catalog.tables schemaId name = catalog.indexStore
  := by
  funext id' name'
  rw [IndexStore.clear]
  split
  · rename_i hclear
    obtain ⟨t, ht, heq⟩ := List.any_eq_true.mp hclear.2
    obtain ⟨rfl, hschema⟩ := of_decide_eq_true heq
    symm
    rw [← Option.not_isSome_iff_eq_none, hclear.1]
    intro hsome
    apply h
    apply (catalog.hasIndex_iff _ _).mpr ⟨t, ht, hschema, hsome⟩
  · rfl

/-- No index is given the name of a check of its table. -/
def NamesNoCheck (catalog : Catalog) : DdlElement → Prop
  | .createIndex index _ =>
      ∀ t ∈ catalog.namedTable? index.table.objectName,
        ∀ k ∈ (catalog.home t.id).keyNamed? t.id index.name, k.type ≠ keyTypeCheck
  | _ => True

instance (catalog : Catalog) : DecidablePred catalog.NamesNoCheck
  | .createSequence _ => inferInstanceAs (Decidable True)
  | .dropSequence _ => inferInstanceAs (Decidable True)
  | .setColumnComment _ => inferInstanceAs (Decidable True)
  | .dropColumnComment _ => inferInstanceAs (Decidable True)
  | .createIndex _ _ => inferInstanceAs (Decidable (∀ _ ∈ _, ∀ _ ∈ _, _))
  | .dropIndex _ _ => inferInstanceAs (Decidable True)

section Step

variable {catalog' : Catalog} {index : Index} {columns : List Name}

theorem map_val_ne_nil (h : index.columns = some columns) :
  columns.map Name.text ≠ []
  := by
  intro hnil
  apply MonetDB.columns_ne_nil h
  apply List.map_eq_nil_iff.mp hnil

variable (hc : catalog.IndexesKept)
include hc

theorem holds_createIndex (hcolumns : index.columns = some columns) (hunique : ¬ index.unique)
    {ifNotExists : Bool} (hcheck : catalog.NamesNoCheck (.createIndex index ifNotExists))
    (h : Records catalog (.createIndex ifNotExists index.name index.table.objectName
      (columns.map Name.text)) catalog') :
  catalog.Holds (catalog.indexStore.apply catalog (.createIndex index ifNotExists)) catalog'
  := by
  cases h with
  | createIndex ht hname hid =>
      have hnone := index?_eq_none_of_not_hasIndex (mem_of_namedTable? ht) hname
      have hkey := (hc.home _).keyNamed?_eq_none hnone (hcheck _ ht)
      simp only [IndexStore.apply, ht, hcolumns]
      rw [if_neg hname, if_neg hunique]
      apply holds_updateHome hc (mem_of_namedTable? ht) _ _ (Or.inr hname)
      · apply (hc.home _).addIndex hid hnone hkey
      · intro id' name'
        rw [KeyCatalog.entryOf?_addIndex hid hnone, hkey]
        rfl
  | indexExists ht hname =>
      simp only [IndexStore.apply, ht, hcolumns]
      rw [if_pos hname]
      apply holds_self hc
  | other hs => cases hs

theorem holds_addUnique (hcolumns : index.columns = some columns) (hunique : index.unique)
    {ifNotExists : Bool}
    (h : Records catalog (.addUnique index.table.objectName index.name
      (columns.map Name.text)) catalog') :
  catalog.Holds (catalog.indexStore.apply catalog (.createIndex index ifNotExists)) catalog'
  := by
  cases h with
  | addUnique ht hname hnew =>
      simp only [IndexStore.apply, ht, hcolumns]
      rw [if_neg hname, if_pos hunique]
      apply holds_updateHome hc (mem_of_namedTable? ht) _ _ (Or.inr hname)
      · have hcheck : keyTypeUnique ≠ keyTypeCheck := by decide
        apply (hc.home _).addBackedKey hnew hcheck
        apply map_val_ne_nil hcolumns
      · apply KeyCatalog.entryOf?_addBackedKey hnew
  | other hs => cases hs

theorem holds_removeIndex {t : TableRow} (ht : t ∈ catalog.tables) {name : String} {i : IdxRow}
    (hi : (catalog.home t.id).index? t.id name = some i)
    (hkey : (catalog.home t.id).keyNamed? t.id name = none) :
  catalog.Holds (catalog.indexStore.clear catalog.tables t.schemaId name)
    (catalog.updateHome t.id fun c => c.removeIndex i)
  := by
  obtain ⟨hmem, htable, hname⟩ := KeyCatalog.index_of_index? hi
  have hsome : (catalog.indexStore t.id name).isSome := by
    rw [indexStore, KeyCatalog.entryOf?, hi]
    rfl
  rw [hc.clear_eq ht hsome]
  apply holds_updateHome hc ht _ _ (Or.inl rfl)
  · apply (hc.home _).removeIndex hmem
    rw [htable, hname, hkey]
  · intro id' name'
    rw [KeyCatalog.entryOf?_removeIndex (hc.home _).toDistinct hmem, htable, hname]

theorem holds_removeBackedKey {t : TableRow} (ht : t ∈ catalog.tables) {name : String} {k : KeyRow}
    (hk : (catalog.home t.id).keyNamed? t.id name = some k) :
  catalog.Holds
    (if (catalog.indexStore t.id name).any fun e => e.backs.isSome then
      catalog.indexStore.set t.id name none
    else
      catalog.indexStore)
    (catalog.updateHome t.id fun c => c.removeBackedKey k)
  := by
  obtain ⟨hmem, htable, hname⟩ := ((hc.home t.id).keyNamed?_eq_some_iff _ _ k).mp hk
  have h : catalog.Holds (catalog.indexStore.set t.id name none)
      (catalog.updateHome t.id fun c => c.removeBackedKey k) := by
    apply holds_updateHome hc ht _ _ (Or.inl rfl)
    · apply (hc.home _).removeBackedKey hmem
    · intro id' name'
      rw [KeyCatalog.entryOf?_removeBackedKey (hc.home _) hmem, htable, hname]
  split
  · apply h
  · rename_i hany
    rw [set_eq_self] at h
    · apply h
    · rw [Option.eq_none_iff_forall_ne_some]
      intro e he
      apply hany
      rw [he, Option.any_some, KeyCatalog.backs_of_entryOf? he, hk]
      rfl

theorem holds_dropIndex (hunique : ¬ index.unique) {ifExists : Bool}
    (h : Records catalog (.dropIndex ifExists { index.table.objectName with name := index.name })
      catalog') :
  catalog.Holds (catalog.indexStore.apply catalog (.dropIndex index ifExists)) catalog'
  := by
  cases h with
  | dropIndex hs ht hschema hi hkey =>
      dsimp only at hs hi hkey
      simp only [IndexStore.apply, hs]
      rw [if_neg hunique, ← hschema]
      apply holds_removeIndex hc ht hi hkey
  | indexMissing h =>
      dsimp only at h
      simp only [IndexStore.apply]
      rw [if_neg hunique]
      cases hs : catalog.schema? index.table.objectName.schema with
      | none => apply holds_self hc
      | some s =>
          dsimp only
          rw [clear_eq_self (h s hs)]
          apply holds_self hc
  | other hs => cases hs

theorem holds_dropConstraint (hunique : index.unique) {ifExists : Bool}
    (h : Records catalog (.dropConstraint index.table.objectName ifExists index.name) catalog') :
  catalog.Holds (catalog.indexStore.apply catalog (.dropIndex index ifExists)) catalog'
  := by
  cases h with
  | dropConstraint ht hk =>
      simp only [IndexStore.apply, ht]
      rw [if_pos hunique]
      apply holds_removeBackedKey hc (mem_of_namedTable? ht) hk
  | constraintMissing h =>
      simp only [IndexStore.apply]
      rw [if_pos hunique]
      cases ht : catalog.namedTable? index.table.objectName with
      | none => apply holds_self hc
      | some t =>
          dsimp only
          rw [if_neg]
          · apply holds_self hc
          · rw [Option.any_eq_true]
            rintro ⟨e, he, hbacks⟩
            rw [KeyCatalog.backs_of_entryOf? he, h t ht] at hbacks
            cases hbacks
  | other hs => cases hs

/-- The catalog that is recorded of a statement holds the store after it. -/
theorem holds_of_records {element : DdlElement} {s : Statement}
    (hmeaning : element.meaning = some s) (hcheck : catalog.NamesNoCheck element)
    (h : Records catalog s catalog') :
  catalog.Holds (catalog.indexStore.apply catalog element) catalog'
  := by
  have hother : s.concernsIndexes = false → catalog.Holds catalog.indexStore catalog' := by
    intro hs
    cases h with
    | other _ htables hsys htmp => apply holds_of_sameTables hc htables hsys htmp
    | indexExists | indexMissing | constraintMissing => apply holds_self hc
    | createIndex | dropIndex | addUnique | dropConstraint => cases hs
  cases element with
  | createSequence sequence =>
      cases hmeaning
      apply hother rfl
  | dropSequence sequence =>
      cases hmeaning
      apply hother rfl
  | setColumnComment column =>
      cases hmeaning
      apply hother rfl
  | dropColumnComment column =>
      cases hmeaning
      apply hother rfl
  | createIndex index ifNotExists =>
      obtain ⟨columns, hcolumns, rfl⟩ := Option.map_eq_some_iff.mp hmeaning
      by_cases hunique : index.unique
      · rw [if_pos hunique] at h
        apply holds_addUnique hc hcolumns hunique h
      · rw [if_neg hunique] at h
        apply holds_createIndex hc hcolumns hunique hcheck h
  | dropIndex index ifExists =>
      rw [DdlElement.meaning] at hmeaning
      by_cases hunique : index.unique
      · rw [if_pos hunique] at hmeaning
        cases hmeaning
        apply holds_dropConstraint hc hunique h
      · rw [if_neg hunique] at hmeaning
        cases hmeaning
        apply holds_dropIndex hc hunique h

end Step

end Catalog

/-! ### Runs -/

section Runs

variable (server : DdlServer) (C : SqlCompiler)

theorem namedTable?_congr {catalog catalog' : Catalog} (h : catalog.SameTables catalog')
    (o : ObjectName) :
  catalog'.namedTable? o = catalog.namedTable? o
  := by
  simp only [Catalog.namedTable?, Catalog.schema?, Catalog.table?, h.schemas, h.tables,
    h.currentSchema]

/-- Names mean the same in a catalog with the same schemas and tables. -/
theorem apply_congr {catalog catalog' : Catalog} (h : catalog.SameTables catalog')
    (store : IndexStore) (element : DdlElement) :
  store.apply catalog' element = store.apply catalog element
  := by
  unfold IndexStore.apply
  simp only [namedTable?_congr h, Catalog.schema?, h.schemas, h.tables, h.currentSchema]

/-- The names of an element are preparable, and its index has columns if it is one. -/
structure DdlElement.Readable (L : MonetLexis) (element : DdlElement) : Prop where
  preparable : element.Preparable L
  meaning : element.meaning.isSome

theorem declaredMachine_congr {catalog catalog' : Catalog} (h : catalog.SameTables catalog') :
  declaredMachine catalog' = declaredMachine catalog
  := by
  unfold declaredMachine
  simp only [apply_congr h]

/-- One text that is sent: the catalog follows the store. -/
theorem holds_next {catalog : Catalog} (hc : catalog.IndexesKept) {element : DdlElement}
    (hreadable : element.Readable server.lexis) (hcheck : catalog.NamesNoCheck element) :
  catalog.Holds
    ((declaredMachine catalog).next catalog.indexStore
      (element, (server.machine C).output catalog element))
    ((server.machine C).next catalog element)
  := by
  obtain ⟨s, hmeaning⟩ := Option.isSome_iff_exists.mp hreadable.meaning
  obtain ⟨ts, hlex, hreads⟩ := exists_reads_compile (C := C) hreadable.preparable hmeaning
  have hread := readStatement_of_reads hlex hreads
  simp only [Machine.next, Machine.output, DdlServer.machine, declaredMachine, hread,
    Option.bind_some]
  cases hexecute : server.execute catalog s with
  | none =>
      rw [if_neg Bool.false_ne_true]
      apply Catalog.holds_self hc
  | some catalog' =>
      rw [if_pos rfl]
      apply Catalog.holds_of_records hc hmeaning hcheck
      apply server.records catalog s catalog' hexecute

/-- The catalog follows the store over every run. -/
theorem indexStore_run {catalog : Catalog} (hc : catalog.IndexesKept)
    {elements : List DdlElement}
    (hreadable : ∀ element ∈ elements, element.Readable server.lexis)
    (hchecks : (server.machine C).Along Catalog.NamesNoCheck catalog elements) :
  catalog.Holds
    ((declaredMachine catalog).final catalog.indexStore
      (elements.zip ((server.machine C).outputs catalog elements)))
    ((server.machine C).final catalog elements)
  := by
  induction elements generalizing catalog with
  | nil => apply Catalog.holds_self hc
  | cons element elements ih =>
      obtain ⟨helement, helements⟩ := List.forall_mem_cons.mp hreadable
      have hnext := holds_next server C hc helement hchecks.1
      have hrest := ih hnext.kept helements hchecks.2
      rw [declaredMachine_congr hnext.tables, hnext.store] at hrest
      rw [Machine.outputs_cons, List.zip_cons_cons, Machine.final_cons, Machine.final_cons]
      exact ⟨hnext.tables.trans hrest.tables, hrest.kept, hrest.store⟩

end Runs

/-! ### What is reported -/

/-- The indexes and the unique constraints that are reported of a table are those of a store, each
once and sorted by name. -/
structure IndexStore.Shows (store : IndexStore) (id : ObjectId) (indexes : List ReflectedIndex)
    (constraints : List ReflectedUniqueConstraint) : Prop where
  indexNames : (indexes.map ReflectedIndex.name).Pairwise (· < ·)
  mem_indexes : ∀ index, index ∈ indexes ↔
    ∃ e, store id index.name = some e ∧ e.reflected index.name = some index
  constraintNames : (constraints.map ReflectedUniqueConstraint.name).Pairwise (· < ·)
  mem_constraints : ∀ u, u ∈ constraints ↔
    store id u.name = some ⟨u.columnNames, some keyTypeUnique⟩

theorem uniqueConstraintsOf_eq (catalog : Catalog) (id : ObjectId) :
  catalog.uniqueConstraintsOf id
    = ((catalog.home id).uniqueDict id).items.map fun p => { name := p.1, columnNames := p.2 }
  := by
  rw [Catalog.uniqueConstraintsOf, Catalog.entry, Dict.foldGroup_alterIn]
  rfl

theorem shows_of_kept {catalog : Catalog} (hc : catalog.IndexesKept) (id : ObjectId) :
  catalog.indexStore.Shows id (catalog.indexesOf id) (catalog.uniqueConstraintsOf id)
  := by
  have hkept := hc.home id
  constructor
  · rw [catalog.indexesOf_eq]
    apply KeyCatalog.sorted_indexDict
  · intro index
    rw [catalog.indexesOf_eq, hkept.mem_indexDict]
    rfl
  · rw [uniqueConstraintsOf_eq, List.map_map]
    apply KeyCatalog.sorted_uniqueDict
  · intro u
    rw [uniqueConstraintsOf_eq, List.mem_map]
    constructor
    · rintro ⟨p, hp, rfl⟩
      apply (hkept.mem_uniqueDict id p.1 p.2).mp hp
    · intro h
      use (u.name, u.columnNames), (hkept.mem_uniqueDict id u.name u.columnNames).mpr h

namespace KeyCatalog

/-- An identity above those of all rows. -/
def newId (c : KeyCatalog) : ObjectId :=
  (c.keys.map KeyRow.id ++ c.idxs.map IdxRow.id ++ c.objects.map ObjectRow.id).foldr max 0 + 1

theorem unused_of_newId_le {c : KeyCatalog} {id : ObjectId} (h : c.newId ≤ id) :
  c.Unused id
  := by
  have hlt : ∀ ids : List ObjectId, ∀ i ∈ ids, i ≤ ids.foldr max 0 := by
    intro ids
    induction ids with
    | nil => simp
    | cons a ids ih =>
        intro i hi
        rw [List.foldr_cons, le_max_iff]
        obtain rfl | hi := List.mem_cons.mp hi
        · left
          apply le_refl
        · right
          apply ih i hi
  have hne : ∀ i ∈ c.keys.map KeyRow.id ++ c.idxs.map IdxRow.id ++ c.objects.map ObjectRow.id,
      i ≠ id := by
    intro i hi
    apply ne_of_lt
    apply lt_of_lt_of_le (Int.lt_add_one_of_le (hlt _ i hi)) h
  constructor
  · intro hid
    apply hne id _ rfl
    apply List.mem_append_left _ (List.mem_append_left _ hid)
  · intro hid
    apply hne id _ rfl
    apply List.mem_append_left _ (List.mem_append_right _ hid)
  · intro hid
    apply hne id _ rfl
    apply List.mem_append_right _ hid

end KeyCatalog

/-- The catalog after a statement, with the next identities that are free; sequences and comments
are not recorded. -/
def Catalog.execute (catalog : Catalog) : Statement → Option Catalog
  | .createIndex ifNotExists name table columns =>
      match catalog.namedTable? table with
      | none => none
      | some t =>
          if catalog.HasIndex t.schemaId name then
            if ifNotExists then some catalog else none
          else
            let id := (catalog.home t.id).newId
            some (catalog.updateHome t.id fun c => c.addIndex ⟨id, t.id, name⟩ columns)
  | .dropIndex ifExists index =>
      match catalog.schema? index.schema with
      | none => if ifExists then some catalog else none
      | some s =>
          let found := catalog.tables.find? fun t =>
            t.schemaId = s.id ∧ (catalog.indexStore t.id index.name).isSome
          match found with
          | none => if ifExists then some catalog else none
          | some t =>
              match (catalog.home t.id).index? t.id index.name,
                  (catalog.home t.id).keyNamed? t.id index.name with
              | some i, none => some (catalog.updateHome t.id fun c => c.removeIndex i)
              | _, _ => none
  | .addUnique table name columns =>
      match catalog.namedTable? table with
      | none => none
      | some t =>
          if catalog.HasIndex t.schemaId name then
            none
          else
            match (catalog.home t.id).keyNamed? t.id name with
            | some _ => none
            | none =>
                let id := (catalog.home t.id).newId
                some (catalog.updateHome t.id fun c => c.addBackedKey
                  { id, tableId := t.id, type := keyTypeUnique, name } (id + 1) columns)
  | .dropConstraint table ifExists name =>
      match catalog.namedTable? table with
      | none => if ifExists then some catalog else none
      | some t =>
          match (catalog.home t.id).keyNamed? t.id name with
          | none => if ifExists then some catalog else none
          | some k => some (catalog.updateHome t.id fun c => c.removeBackedKey k)
  | _ => some catalog

theorem records_execute (catalog : Catalog) (s : Statement) (catalog' : Catalog)
    (h : catalog.execute s = some catalog') :
  Records catalog s catalog'
  := by
  cases s with
  | createSequence | dropSequence | commentOnColumn =>
      obtain rfl := Option.some.inj h
      exact .other rfl (Catalog.SameTables.refl catalog) rfl rfl
  | createIndex ifNotExists name table columns =>
      simp only [Catalog.execute] at h
      split at h
      · cases h
      · rename_i t ht
        split at h
        · rename_i hname
          split at h
          · rename_i hexists
            obtain rfl := Option.some.inj h
            rw [hexists]
            exact .indexExists ht hname
          · cases h
        · rename_i hname
          obtain rfl := Option.some.inj h
          exact .createIndex ht hname (KeyCatalog.unused_of_newId_le (le_refl _))
  | dropIndex ifExists index =>
      simp only [Catalog.execute] at h
      split at h
      · rename_i hs
        split at h
        · rename_i hexists
          obtain rfl := Option.some.inj h
          rw [hexists]
          apply Records.indexMissing
          intro s hs'
          rw [hs] at hs'
          cases hs'
        · cases h
      · rename_i s hs
        split at h
        · rename_i hfound
          split at h
          · rename_i hexists
            obtain rfl := Option.some.inj h
            rw [hexists]
            apply Records.indexMissing
            intro s' hs'
            obtain rfl := Option.some.inj (hs.symm.trans hs')
            rw [Catalog.hasIndex_iff]
            rintro ⟨t, ht, hschema, hsome⟩
            apply List.find?_eq_none.mp hfound t ht
            apply decide_eq_true ⟨hschema, hsome⟩
          · cases h
        · rename_i t hfound
          have hrow := List.find?_some hfound
          obtain ⟨hschema, -⟩ := of_decide_eq_true hrow
          split at h
          · rename_i i hi hkey
            obtain rfl := Option.some.inj h
            exact .dropIndex hs (List.mem_of_find?_eq_some hfound) hschema hi hkey
          · cases h
  | addUnique table name columns =>
      simp only [Catalog.execute] at h
      split at h
      · cases h
      · rename_i t ht
        split at h
        · cases h
        · rename_i hname
          split at h
          · cases h
          · rename_i hkey
            obtain rfl := Option.some.inj h
            apply Records.addUnique ht hname
            constructor
            · apply KeyCatalog.unused_of_newId_le (le_refl _)
            · apply KeyCatalog.unused_of_newId_le (Int.le_add_one (le_refl _))
            · apply ne_of_lt (Int.lt_succ _)
            · apply hkey
            · apply Catalog.index?_eq_none_of_not_hasIndex (Catalog.mem_of_namedTable? ht) hname
  | dropConstraint table ifExists name =>
      simp only [Catalog.execute] at h
      split at h
      · rename_i ht
        split at h
        · rename_i hexists
          obtain rfl := Option.some.inj h
          rw [hexists]
          apply Records.constraintMissing
          intro t ht'
          rw [ht] at ht'
          cases ht'
        · cases h
      · rename_i t ht
        split at h
        · rename_i hkey
          split at h
          · rename_i hexists
            obtain rfl := Option.some.inj h
            rw [hexists]
            apply Records.constraintMissing
            intro t' ht'
            obtain rfl := Option.some.inj (ht.symm.trans ht')
            apply hkey
          · cases h
        · rename_i k hk
          obtain rfl := Option.some.inj h
          exact .dropConstraint ht hk

/-- A catalog of one table that has no index yet. -/
def itemsCatalog : Catalog where
  schemas := [⟨2000, "app"⟩, ⟨2114, "tmp"⟩]
  tables := [⟨8000, "items", 2000, 0⟩]
  currentSchema := "app"
  schemaIds := appSchemaIds
  schemaNames := appSchemaNames
  tableIds := by decide
  tableNames := by decide
  sequenceNames := noSequenceNames
  currentSchema_mem := app_mem_schemas

/-- A unique index of the table. -/
def valueIndex : Index where
  name := ⟨"uq_items_value", none, by decide⟩
  table := ⟨none, ⟨"items", none, by decide⟩⟩
  unique := true
  expressions := [.column ⟨"value", none, by decide⟩]
  ne_nil := List.cons_ne_nil _ _
  length_le := by decide

/-- An index of two columns of the table, one of them in descending order. -/
def placeIndex : Index where
  name := ⟨"ix_items_place", none, by decide⟩
  table := valueIndex.table
  unique := false
  expressions :=
    [.column ⟨"value", none, by decide⟩, .modified .desc (.column ⟨"place", none, by decide⟩)]
  ne_nil := List.cons_ne_nil _ _
  length_le := by decide

/-- A server that accepts what it can record. -/
def recordingServer : DdlServer where
  lexis := plainLexis
  execute := Catalog.execute
  records := records_execute

/-- The server, with a compiler that leaves names bare where that is possible. -/
abbrev recordingMachine : Machine Catalog DdlElement Bool :=
  recordingServer.machine bareCompiler

/-- Both indexes are created and the unique one is dropped again. -/
def itemsRun : List DdlElement :=
  [.createIndex valueIndex false, .createIndex placeIndex false, .dropIndex valueIndex false]

example : (getMultiIndexes (recordingMachine.final itemsCatalog itemsRun) {} none).1
    = [((none, "items"), [⟨"ix_items_place", ["value", "place"], false, none⟩])] := by
  decide +kernel

theorem KeyCatalog.kept_empty :
  ({} : KeyCatalog).Kept
  := by
  use ⟨by decide, by decide, by decide⟩
  · intro k hk
    cases hk
  · intro k hk
    cases hk

theorem itemsCatalog_kept :
  itemsCatalog.IndexesKept
  := by
  constructor
  · apply KeyCatalog.kept_empty
  · apply KeyCatalog.kept_empty
  · intro t ht t' ht' _ _ _ _
    rw [List.mem_singleton.mp ht, List.mem_singleton.mp ht']

end MonetDB
