import MonetdbAdbc.Catalog.Agreement

/-!
# Foreign keys

The query for foreign keys has a row for each column of a foreign key, with the column at the
same position of the key that it refers to, and with the tables and schemas of both.  The
rows are grouped by their table and then by the name of the foreign key.
`foreignKeys_reconstructed` says that a table gets one constraint for each of its foreign keys,
in the order of their names, and what a constraint consists of.
-/

namespace MonetDB

/-! ### Keys and the keys that they refer to -/

namespace KeyCatalog

variable (c : KeyCatalog)

/-- The columns of a key, as the catalog lists them. -/
def keyObjects (k : KeyRow) : List ObjectRow :=
  c.objects.filter fun o => k.id = o.id

/-- The positions of the columns of a key. -/
def positions (k : KeyRow) : List Int :=
  (c.keyObjects k).map ObjectRow.nr

/-- The columns of a key, in the order of their positions. -/
def columnsOf (k : KeyRow) : List ObjectRow :=
  Query.orderBy ObjectRow.nr (c.keyObjects k)

/-- The foreign keys of a table, in the order of their names. -/
def foreignKeys (id : ObjectId) : List KeyRow :=
  Query.orderBy KeyRow.name (c.keys.filter fun k => k.tableId = id ∧ k.type = keyTypeForeign)

/-- Two keys have columns at the same positions: at least one, and each position once. -/
structure SamePositions (k p : KeyRow) : Prop where
  ne_nil : c.positions k ≠ []
  nodup : (c.positions k).Nodup
  nodup_referred : (c.positions p).Nodup
  mem_iff : ∀ nr, nr ∈ c.positions k ↔ nr ∈ c.positions p

end KeyCatalog

variable (catalog : Catalog)

/-- A key refers to a key of the same key catalog, of a table in a schema. -/
structure Catalog.RefersTo (c : KeyCatalog) (k p : KeyRow) (pt : TableRow) (ps : SchemaRow) :
    Prop where
  key : p ∈ c.keys ∧ k.rkey = p.id
  table : pt ∈ catalog.tables ∧ p.tableId = pt.id
  schema : ps ∈ catalog.schemas ∧ pt.schemaId = ps.id

/-- Keys have identities of their own and names of their own within a table; a foreign key
refers to a key with columns at the same positions, and no other key refers to one. -/
structure Catalog.ForeignKeysRefer (c : KeyCatalog) : Prop where
  keyIds : (c.keys.map KeyRow.id).Nodup
  keyNames : (c.keys.map fun k => (k.tableId, k.name)).Nodup
  refers : ∀ k ∈ c.keys, k.type = keyTypeForeign →
    ∃ p pt ps, catalog.RefersTo c k p pt ps ∧ c.SamePositions k p
  others : ∀ k ∈ c.keys, k.type ≠ keyTypeForeign → ∀ p ∈ c.keys, k.rkey ≠ p.id

/-! ### The rows of a foreign key -/

namespace KeyCatalog

variable {c : KeyCatalog} {catalog} {k p : KeyRow}

/-- The column of a key at the position of a column. -/
def atPosition (c : KeyCatalog) (p : KeyRow) (o : ObjectRow) : ObjectRow :=
  ((c.keyObjects p).find? fun q => q.nr = o.nr).getD o

theorem SamePositions.find?_eq (h : c.SamePositions k p) {o : ObjectRow}
    (ho : o ∈ c.keyObjects k) :
  (c.keyObjects p).find? (fun q => q.nr = o.nr) = some (c.atPosition p o)
  := by
  have hnr : o.nr ∈ c.positions p := (h.mem_iff o.nr).mp (List.mem_map_of_mem ho)
  obtain ⟨q, hq, hqnr⟩ := List.mem_map.mp hnr
  have hfind := (Query.find?_eq_some_iff h.nodup_referred o.nr q).mpr ⟨hq, hqnr⟩
  rw [atPosition, hfind, Option.getD_some]

theorem SamePositions.atPosition_spec (h : c.SamePositions k p) {o : ObjectRow}
    (ho : o ∈ c.keyObjects k) :
  c.atPosition p o ∈ c.keyObjects p ∧ (c.atPosition p o).nr = o.nr
  := (Query.find?_eq_some_iff h.nodup_referred o.nr _).mp (h.find?_eq ho)

/-- A column of the key has one partner in the key that is referred to. -/
theorem SamePositions.filter_eq (h : c.SamePositions k p) {o : ObjectRow}
    (ho : o ∈ c.keyObjects k) :
  c.objects.filter (fun q => p.id = q.id ∧ o.nr = q.nr) = [c.atPosition p o]
  := by
  have hfilter : c.objects.filter (fun q => p.id = q.id ∧ o.nr = q.nr)
      = (c.keyObjects p).filter fun q => q.nr = o.nr := by
    rw [keyObjects, List.filter_filter]
    apply List.filter_congr
    intro q _
    simp [Bool.and_comm, eq_comm]
  rw [hfilter, Query.filter_eq_toList_find? h.nodup_referred, h.find?_eq ho]
  rfl

/-- The partners of the columns of a key are the columns of the key that it refers to. -/
theorem SamePositions.map_columnsOf (h : c.SamePositions k p) :
  (c.columnsOf k).map (c.atPosition p) = c.columnsOf p
  := by
  have hnr : ((c.keyObjects k).map (c.atPosition p)).map ObjectRow.nr = c.positions k := by
    rw [List.map_map]
    apply List.map_congr_left
    intro o ho
    apply (h.atPosition_spec ho).2
  have hnodup : (((c.keyObjects k).map (c.atPosition p)).map ObjectRow.nr).Nodup := by
    rw [hnr]
    apply h.nodup
  have hperm : ((c.keyObjects k).map (c.atPosition p)).Perm (c.keyObjects p) := by
    rw [List.perm_ext_iff_of_nodup hnodup.of_map h.nodup_referred.of_map]
    intro q
    rw [List.mem_map]
    constructor
    · rintro ⟨o, ho, rfl⟩
      apply (h.atPosition_spec ho).1
    · intro hq
      have hmem : q.nr ∈ c.positions k := (h.mem_iff q.nr).mpr (List.mem_map_of_mem hq)
      obtain ⟨o, ho, honr⟩ := List.mem_map.mp hmem
      use o, ho
      obtain ⟨hpartner, hpartnernr⟩ := h.atPosition_spec ho
      apply List.inj_on_of_nodup_map h.nodup_referred hpartner hq (hpartnernr.trans honr)
  rw [columnsOf, columnsOf, ← Query.orderBy_eq_of_perm hperm hnodup]
  apply Query.map_orderBy
  intro a ha b hb
  rw [(h.atPosition_spec ha).2, (h.atPosition_spec hb).2]

end KeyCatalog

/-- The row of a column of a foreign key. -/
def ForeignKeyRow.ofColumn (c : KeyCatalog) (k p : KeyRow) (t pt : TableRow) (s ps : SchemaRow)
    (o : ObjectRow) : ForeignKeyRow where
  fkk := k
  fkc := o
  pkk := p
  pkc := c.atPosition p o
  fkt := t
  fs := s
  pkt := pt
  ps := ps

variable {catalog} {c : KeyCatalog} {k p : KeyRow} {t pt : TableRow} {s ps : SchemaRow}

theorem KeyCatalog.SamePositions.joins (hpositions : c.SamePositions k p) (hk : k ∈ c.keys)
    (ht : t ∈ catalog.tables ∧ k.tableId = t.id) (hs : s ∈ catalog.schemas ∧ t.schemaId = s.id)
    (hrefers : catalog.RefersTo c k p pt ps) {o : ObjectRow} (ho : o ∈ c.keyObjects k) :
  (ForeignKeyRow.ofColumn c k p t pt s ps o).Joins catalog c
  := by
  obtain ⟨hcolumn, hid⟩ := List.mem_filter.mp ho
  obtain ⟨hpartner, hnr⟩ := hpositions.atPosition_spec ho
  obtain ⟨hpartner, hpartnerid⟩ := List.mem_filter.mp hpartner
  constructor
  · apply hk
  · exact ⟨hcolumn, of_decide_eq_true hid⟩
  · apply hrefers.key
  · exact ⟨hpartner, of_decide_eq_true hpartnerid, hnr.symm⟩
  · apply ht
  · apply hs
  · apply hrefers.table
  · apply hrefers.schema

/-- The rows of a foreign key in the join. -/
theorem filter_foreignKeyJoin (hc : catalog.ForeignKeysRefer c) (hk : k ∈ c.keys)
    (ht : t ∈ catalog.tables ∧ k.tableId = t.id) (hs : s ∈ catalog.schemas ∧ t.schemaId = s.id)
    (hrefers : catalog.RefersTo c k p pt ps) (hpositions : c.SamePositions k p) :
  (foreignKeyJoin catalog c).filter (fun r => (t.id, k.name) = (r.fkk.tableId, r.fkk.name))
    = (c.keyObjects k).map (.ofColumn c k p t pt s ps)
  := by
  let isKey : KeyRow → Bool := fun k' => (t.id, k.name) = (k'.tableId, k'.name)
  have hkey : c.keys.filter isKey = [k] := by
    apply Query.filter_eq_singleton hc.keyNames hk
    rw [ht.2]
  have hcolumns : (Query.innerJoin (fun fkk fkc => fkk.id = fkc.id) c.keys c.objects).filter
        (fun r => isKey r.1)
      = (c.keyObjects k).map (Prod.mk k) := by
    rw [Query.filter_innerJoin, hkey]
    simp [Query.innerJoin, KeyCatalog.keyObjects]
  have hrows : ∀ (row : _ → ForeignKeyRow) joined, joined = ((c.keyObjects k).map fun o =>
        (((((((k, o), p), c.atPosition p o), t), s), pt), ps)) →
      joined.map row = (c.keyObjects k).map fun o =>
        row (((((((k, o), p), c.atPosition p o), t), s), pt), ps) := by
    rintro row joined rfl
    rw [List.map_map]
    rfl
  rw [foreignKeyJoin, List.filter_map]
  apply hrows
  -- the joins from the last to the first, each with one partner for every row
  apply Query.filter_innerJoin_eq_map
      (p := isKey ∘ Prod.fst ∘ Prod.fst ∘ Prod.fst ∘ Prod.fst ∘ Prod.fst ∘ Prod.fst) _ fun _ _ =>
    Query.filter_eq_singleton catalog.schemaIds hrefers.schema.1 hrefers.schema.2
  apply Query.filter_innerJoin_eq_map
      (p := isKey ∘ Prod.fst ∘ Prod.fst ∘ Prod.fst ∘ Prod.fst ∘ Prod.fst) _ fun _ _ =>
    Query.filter_eq_singleton catalog.tableIds hrefers.table.1 hrefers.table.2
  apply Query.filter_innerJoin_eq_map
      (p := isKey ∘ Prod.fst ∘ Prod.fst ∘ Prod.fst ∘ Prod.fst) _ fun _ _ =>
    Query.filter_eq_singleton catalog.schemaIds hs.1 hs.2
  apply Query.filter_innerJoin_eq_map (p := isKey ∘ Prod.fst ∘ Prod.fst ∘ Prod.fst) _ fun _ _ =>
    Query.filter_eq_singleton catalog.tableIds ht.1 ht.2
  apply Query.filter_innerJoin_eq_map (p := isKey ∘ Prod.fst ∘ Prod.fst) _ fun _ ho =>
    hpositions.filter_eq ho
  apply Query.filter_innerJoin_eq_map (p := isKey ∘ Prod.fst) hcolumns fun _ _ =>
    Query.filter_eq_singleton hc.keyIds hrefers.key.1 hrefers.key.2

/-- The rows of a foreign key that the query has for its table, in the order of the positions. -/
theorem filter_foreignKeyRows (hc : catalog.ForeignKeysRefer c) (hk : k ∈ c.keys)
    (ht : t ∈ catalog.tables ∧ k.tableId = t.id) (hs : s ∈ catalog.schemas ∧ t.schemaId = s.id)
    (hrefers : catalog.RefersTo c k p pt ps) (hpositions : c.SamePositions k p) :
  (foreignKeyRows catalog c [t.id]).filter (fun r => r.fkk.name = k.name)
    = (c.columnsOf k).map (.ofColumn c k p t pt s ps)
  := by
  have hfilter : ((foreignKeyJoin catalog c).filter fun r => r.fkk.tableId ∈ [t.id]).filter
        (fun r => r.fkk.name = k.name)
      = (foreignKeyJoin catalog c).filter fun r =>
        (t.id, k.name) = (r.fkk.tableId, r.fkk.name) := by
    rw [List.filter_filter]
    apply List.filter_congr
    intro r _
    simp [Bool.and_comm, eq_comm]
  rw [foreignKeyRows, Query.filter_orderBy, hfilter,
    filter_foreignKeyJoin hc hk ht hs hrefers hpositions, KeyCatalog.columnsOf]
  symm
  apply Query.map_orderBy
  intro a _ b _
  simp [ForeignKeyRow.ofColumn, Prod.Lex.toLex_le_toLex]

/-! ### The constraints of a table -/

/-- The foreign keys of a table, by their names. -/
def Catalog.foreignKeyDict (catalog : Catalog) (schema : Option String) (id : ObjectId) :
    Dict String ReflectedForeignKeyConstraint :=
  Dict.groupBy (fun r => r.fkk.name) (addForeignKeyColumn schema)
    (foreignKeyRows catalog (catalog.home id) [id])

variable (catalog) (schema : Option String)

theorem Catalog.foreignKeysOf_eq (id : ObjectId) :
  catalog.foreignKeysOf schema id = (catalog.foreignKeyDict schema id).values
  := by
  rw [foreignKeysOf, entry, Dict.foldGroup_alterIn]
  rfl

/-- The names of the constraints are those of the rows. -/
theorem Catalog.mem_keys_foreignKeyDict (id : ObjectId) (name : String) :
  name ∈ (catalog.foreignKeyDict schema id).keys ↔
    ∃ r : ForeignKeyRow,
      r.Joins catalog (catalog.home id) ∧ r.fkk.tableId = id ∧ r.fkk.name = name
  := by
  rw [foreignKeyDict, Dict.mem_keys_groupBy]
  simp only [foreignKeyRows, Query.mem_orderBy, List.mem_filter, mem_foreignKeyJoin,
    List.mem_singleton, decide_eq_true_eq, and_assoc]

theorem Catalog.exists_foreignKeysOf_iff (id : ObjectId) (name : String) :
  (∃ f ∈ catalog.foreignKeysOf schema id, f.name = name) ↔
    ∃ r : ForeignKeyRow,
      r.Joins catalog (catalog.home id) ∧ r.fkk.tableId = id ∧ r.fkk.name = name
  := by
  have hnames : (catalog.foreignKeyDict schema id).values.map ReflectedForeignKeyConstraint.name
      = (catalog.foreignKeyDict schema id).keys := by
    apply Dict.map_values_groupBy
    intro r o ho
    cases o with
    | none => rfl
    | some constraint => apply ho constraint rfl
  rw [foreignKeysOf_eq, ← List.mem_map, hnames, mem_keys_foreignKeyDict]

theorem foldGroup_addForeignKeyColumn (rows : List ForeignKeyRow)
    (constraint : ReflectedForeignKeyConstraint) :
  Dict.foldGroup (addForeignKeyColumn schema) (some constraint) rows
    = some { constraint with
        constrainedColumns := constraint.constrainedColumns ++ rows.map fun r => r.fkc.name
        referredColumns := constraint.referredColumns ++ rows.map fun r => r.pkc.name }
  := by
  induction rows generalizing constraint with
  | nil => simp
  | cons r rows ih =>
      rw [Dict.foldGroup_cons, ih]
      simp [addForeignKeyColumn]

/-- The constraint of a name is that of the rows of the name, if there are any. -/
theorem Catalog.get?_foreignKeyDict (id : ObjectId) (name : String) :
  (catalog.foreignKeyDict schema id).get? name
    = match (foreignKeyRows catalog (catalog.home id) [id]).filter fun r => r.fkk.name = name with
      | [] => none
      | r :: rows =>
        some { r.constraint schema with
          constrainedColumns := (r :: rows).map fun r => r.fkc.name
          referredColumns := (r :: rows).map fun r => r.pkc.name }
  := by
  rw [foreignKeyDict, Dict.get?_groupBy]
  cases (foreignKeyRows catalog (catalog.home id) [id]).filter fun r => r.fkk.name = name with
  | nil => rfl
  | cons r rows =>
      rw [Dict.foldGroup_cons, foldGroup_addForeignKeyColumn]
      simp [addForeignKeyColumn, ForeignKeyRow.constraint]

variable {catalog}

/-- The rows of a table are in the order of the names of their foreign keys. -/
theorem sorted_foreignKeyRows (c : KeyCatalog) (id : ObjectId) :
  ((foreignKeyRows catalog c [id]).map fun r => r.fkk.name).Pairwise (· ≤ ·)
  := by
  have hid : ∀ r ∈ foreignKeyRows catalog c [id], r.fkk.tableId = id := by
    intro r hr
    apply List.mem_singleton.mp
    apply (selectsBy_foreignKeyRows catalog c).within [id] r hr
  have hsorted : (foreignKeyRows catalog c [id]).Pairwise fun a b =>
      toLex (a.fkk.tableId, toLex (a.fkk.name, a.fkc.nr))
        ≤ toLex (b.fkk.tableId, toLex (b.fkk.name, b.fkc.nr)) := Query.orderBy_sorted _ _
  rw [List.pairwise_map]
  apply hsorted.imp_of_mem
  intro a b ha hb hab
  rw [Prod.Lex.toLex_le_toLex, hid a ha, hid b hb] at hab
  obtain hlt | ⟨-, hle⟩ := hab
  · exact absurd hlt (lt_irrefl _)
  · apply Prod.Lex.monotone_fst _ _ hle

theorem KeyCatalog.mem_foreignKeys (c : KeyCatalog) (id : ObjectId) (k : KeyRow) :
  k ∈ c.foreignKeys id ↔ k ∈ c.keys ∧ k.tableId = id ∧ k.type = keyTypeForeign
  := by rw [foreignKeys, Query.mem_orderBy, List.mem_filter, decide_eq_true_eq]

theorem nodup_foreignKeys (hc : catalog.ForeignKeysRefer c) (id : ObjectId) :
  ((c.foreignKeys id).map KeyRow.name).Nodup
  := by
  have hperm : (c.foreignKeys id).Perm (c.keys.filter fun k => k.tableId = id ∧
      k.type = keyTypeForeign) := Query.orderBy_perm _ _
  have hnodup : (c.foreignKeys id).Nodup := by
    rw [hperm.nodup_iff]
    apply hc.keyNames.of_map.filter
  apply hnodup.map_on
  intro k hk k' hk' hname
  rw [c.mem_foreignKeys] at hk hk'
  apply List.inj_on_of_nodup_map hc.keyNames hk.1 hk'.1
  rw [hk.2.1, hk'.2.1, hname]

/-- The names of the constraints are those of the foreign keys, in the same order. -/
theorem keys_foreignKeyDict (ht : t ∈ catalog.tables)
    (hs : s ∈ catalog.schemas ∧ t.schemaId = s.id)
    (hc : catalog.ForeignKeysRefer (catalog.home t.id)) :
  (catalog.foreignKeyDict schema t.id).keys
    = ((catalog.home t.id).foreignKeys t.id).map KeyRow.name
  := by
  apply Query.eq_of_sorted
  · apply List.Pairwise.sublist (Dict.sublist_keys_groupBy _ _ _)
    apply sorted_foreignKeyRows
  · rw [List.pairwise_map]
    apply Query.orderBy_sorted
  · apply Dict.keys_nodup
  · apply nodup_foreignKeys hc
  · intro name
    rw [catalog.mem_keys_foreignKeyDict, List.mem_map]
    constructor
    · rintro ⟨r, hjoins, hid, rfl⟩
      use r.fkk
      rw [KeyCatalog.mem_foreignKeys]
      refine ⟨⟨hjoins.fkk, hid, ?_⟩, rfl⟩
      by_contra htype
      apply hc.others r.fkk hjoins.fkk htype r.pkk hjoins.pkk.1 hjoins.pkk.2
    · rintro ⟨k, hk, rfl⟩
      rw [KeyCatalog.mem_foreignKeys] at hk
      obtain ⟨p, pt, ps, hrefers, hpositions⟩ := hc.refers k hk.1 hk.2.2
      obtain ⟨nr, hnr⟩ := List.exists_mem_of_ne_nil _ hpositions.ne_nil
      obtain ⟨o, ho, -⟩ := List.mem_map.mp hnr
      use .ofColumn (catalog.home t.id) k p t pt s ps o
      exact ⟨hpositions.joins hk.1 ⟨ht, hk.2.1⟩ hs hrefers ho, hk.2.1, rfl⟩

/-! ### Reconstruction -/

/-- The action of a code, other than the default one. -/
def FkAction (code : Int) (name : String) : Prop :=
  (code, name) ∈ fkActions ∧ name ≠ "NO ACTION"

theorem fkOption_eq_some_iff (code : Int) (name : String) :
  fkOption code = some name ↔ FkAction code name
  := by
  have hlookup := Dict.lookup_eq_some_iff (l := fkActions) (by decide) code
  rw [fkOption, FkAction, ← hlookup]
  cases fkActions.lookup code with
  | none => simp
  | some action =>
      simp only [Option.getD_some, Option.some_inj]
      constructor
      · intro h
        split at h
        · rename_i hne
          obtain rfl := Option.some.inj h
          exact ⟨rfl, hne⟩
        · cases h
      · rintro ⟨rfl, hne⟩
        apply if_pos hne

/-- A constraint reconstructs a foreign key of a table, given the key that it refers to with
the table and schema of that key. -/
structure Reconstructs (c : KeyCatalog) (schema : Option String) (t : TableRow) (k p : KeyRow)
    (pt : TableRow) (ps : SchemaRow) (f : ReflectedForeignKeyConstraint) : Prop where
  name : f.name = k.name
  constrainedColumns : f.constrainedColumns = (c.columnsOf k).map ObjectRow.name
  referredColumns : f.referredColumns = (c.columnsOf p).map ObjectRow.name
  /-- Columns are paired by their positions. -/
  positions : (c.columnsOf k).map ObjectRow.nr = (c.columnsOf p).map ObjectRow.nr
  length : f.constrainedColumns.length = f.referredColumns.length
  referredTable : f.referredTable = pt.name
  unqualified : f.referredSchema = none ↔ schema = none ∧ t.schemaId = pt.schemaId
  qualified : ∀ name, f.referredSchema = some name → name = ps.name
  /-- The actions are encoded in the two low bytes. -/
  actions : ∀ (low next : Fin 256) (high : Int), k.action = low + 256 * next + 65536 * high →
    (∀ name, f.ondelete = some name ↔ FkAction low name) ∧
      ∀ name, f.onupdate = some name ↔ FkAction next name

/-- What a request for foreign keys yields: every table of the request once, with a constraint
for each of its foreign keys in the order of their names. -/
structure ForeignKeysReconstructed (catalog : Catalog) (kw : Request)
    (entries : List (TableKey × List ReflectedForeignKeyConstraint)) : Prop where
  once : (entries.map Prod.fst).Nodup
  requested : ∀ entry ∈ entries, ∃ t, kw.Selects catalog t ∧ entry.1 = (kw.schema, t.name)
  each : ∀ t, kw.Selects catalog t → ∃ constraints,
    ((kw.schema, t.name), constraints) ∈ entries ∧
      List.Forall₂ (fun k f => ∃ p pt ps, catalog.RefersTo (catalog.home t.id) k p pt ps ∧
          Reconstructs (catalog.home t.id) kw.schema t k p pt ps f)
        ((catalog.home t.id).foreignKeys t.id) constraints

theorem ForeignKeyRow.referredSchema_eq_none_iff (r : ForeignKeyRow) :
  (r.constraint schema).referredSchema = none ↔ schema = none ∧ r.ps.name = r.fs.name
  := by simp [constraint]

theorem ForeignKeyRow.eq_of_referredSchema_eq_some {r : ForeignKeyRow} {name : String}
    (h : (r.constraint schema).referredSchema = some name) :
  name = r.ps.name
  := by
  rw [constraint] at h
  split_ifs at h
  exact (Option.some.inj h).symm

/-- The bytes of an action value are taken out by division. -/
theorem ForeignKeyRow.actions_constraint (r : ForeignKeyRow) {low next : Fin 256} {high : Int}
    (h : r.fkk.action = low + 256 * next + 65536 * high) :
  (r.constraint schema).ondelete = fkOption low ∧ (r.constraint schema).onupdate = fkOption next
  := by
  have hlow : r.fkk.action % 256 = low := by omega
  have hnext : r.fkk.action / 256 % 256 = next := by omega
  rw [constraint, hlow, hnext]
  exact ⟨rfl, rfl⟩

/-- Two tables lie in the same schema when their schemas have one name. -/
theorem Catalog.name_eq_iff {catalog : Catalog} (hs : s ∈ catalog.schemas ∧ t.schemaId = s.id)
    (hps : ps ∈ catalog.schemas ∧ pt.schemaId = ps.id) :
  ps.name = s.name ↔ t.schemaId = pt.schemaId
  := by
  rw [hs.2, hps.2]
  constructor
  · intro hname
    rw [catalog.schema_eq_of_name hps.1 hs.1 hname]
  · intro hid
    rw [catalog.schema_eq_of_id hs.1 hps.1 hid]

/-- The constraint of a foreign key reconstructs it. -/
theorem reconstructs_of_get? (hc : catalog.ForeignKeysRefer (catalog.home t.id))
    (hk : k ∈ (catalog.home t.id).keys) (ht : t ∈ catalog.tables ∧ k.tableId = t.id)
    (hs : s ∈ catalog.schemas ∧ t.schemaId = s.id)
    (hrefers : catalog.RefersTo (catalog.home t.id) k p pt ps)
    (hpositions : (catalog.home t.id).SamePositions k p) {f : ReflectedForeignKeyConstraint}
    (hget : (catalog.foreignKeyDict schema t.id).get? k.name = some f) :
  Reconstructs (catalog.home t.id) schema t k p pt ps f
  := by
  let row : ObjectRow → ForeignKeyRow := .ofColumn (catalog.home t.id) k p t pt s ps
  have hpartners := hpositions.map_columnsOf
  have hconstrained : (((catalog.home t.id).columnsOf k).map row).map (fun r => r.fkc.name)
      = ((catalog.home t.id).columnsOf k).map ObjectRow.name := by
    rw [List.map_map]
    rfl
  have hreferred : (((catalog.home t.id).columnsOf k).map row).map (fun r => r.pkc.name)
      = ((catalog.home t.id).columnsOf p).map ObjectRow.name := by
    rw [← hpartners, List.map_map, List.map_map]
    rfl
  have hsame := Catalog.name_eq_iff hs hrefers.schema
  rw [catalog.get?_foreignKeyDict, filter_foreignKeyRows hc hk ht hs hrefers hpositions] at hget
  split at hget
  · cases hget
  · rename_i r rows hrows
    obtain rfl := Option.some.inj hget
    have hr : r ∈ ((catalog.home t.id).columnsOf k).map row := by
      rw [hrows]
      apply List.mem_cons_self
    obtain ⟨o, -, rfl⟩ := List.mem_map.mp hr
    rw [← hrows, hconstrained, hreferred]
    constructor
    · rfl
    · rfl
    · rfl
    · rw [← hpartners, List.map_map]
      apply List.map_congr_left
      intro o ho
      symm
      apply (hpositions.atPosition_spec ((Query.mem_orderBy _ _ _).mp ho)).2
    · rw [← hpartners, List.length_map, List.length_map, List.length_map]
    · rfl
    · rw [← hsame]
      apply (row o).referredSchema_eq_none_iff schema
    · intro name hname
      apply (row o).eq_of_referredSchema_eq_some schema hname
    · intro low next high haction
      obtain ⟨hondelete, honupdate⟩ := (row o).actions_constraint schema haction
      constructor
      · intro name
        rw [← fkOption_eq_some_iff, ← hondelete]
      · intro name
        rw [← fkOption_eq_some_iff, ← honupdate]

/-- Foreign keys are reconstructed: a request yields each of its tables once, with one
constraint for each foreign key of the table. -/
theorem foreignKeys_reconstructed (catalog : Catalog)
    (hsys : catalog.ForeignKeysRefer catalog.sys) (htmp : catalog.ForeignKeysRefer catalog.tmp)
    {infoCache : Option InfoCache} (hearlier : Earlier catalog infoCache) (kw : Request) :
  ForeignKeysReconstructed catalog kw (getMultiForeignKeys catalog kw infoCache).1
  := by
  have hanswers := answersByTable_foreignKeys catalog kw.schema
  have hentries := hanswers.batched kw infoCache rfl hearlier
  rw [hearlier.resolveRequest_fst] at hentries
  constructor
  · apply hanswers.once kw infoCache rfl hearlier
  · intro entry hentry
    rw [hentries, List.mem_map] at hentry
    obtain ⟨⟨id, name⟩, hitem, rfl⟩ := hentry
    obtain ⟨t, ht, rfl, rfl⟩ := (mem_tables_iff catalog kw id name).mp hitem
    use t, ht
  · intro t ht
    have hitem := (mem_tables_iff catalog kw t.id t.name).mpr ⟨t, ht, rfl, rfl⟩
    have hc : catalog.ForeignKeysRefer (catalog.home t.id) := by
      rw [Catalog.home]
      split
      · apply htmp
      · apply hsys
    obtain ⟨s, hs⟩ := ht.admits.exists_schema
    use catalog.foreignKeysOf kw.schema t.id
    constructor
    · rw [hentries]
      exact List.mem_map.mpr ⟨(t.id, t.name), hitem, rfl⟩
    · rw [catalog.foreignKeysOf_eq]
      apply Dict.forall₂_values (keys_foreignKeyDict kw.schema ht.admits.mem hs hc)
      intro k hk f hget
      rw [KeyCatalog.mem_foreignKeys] at hk
      obtain ⟨p, pt, ps, hrefers, hpositions⟩ := hc.refers k hk.1 hk.2.2
      exact ⟨p, pt, ps, hrefers, reconstructs_of_get? kw.schema hc hk.1
        ⟨ht.admits.mem, hk.2.1⟩ hs hrefers hpositions hget⟩

/-- A catalog with a foreign key of two columns, which cascades deletes and restricts
updates. -/
def referringCatalog : Catalog where
  schemas := [⟨2000, "app"⟩, ⟨2114, "tmp"⟩]
  tables := [⟨8000, "parent", 2000, 0⟩, ⟨8010, "child", 2000, 0⟩]
  sys :=
    { keys :=
        [{ id := 8001, tableId := 8000, type := keyTypePrimary, name := "parent_pk" },
          { id := 8011, tableId := 8010, type := keyTypeForeign, name := "child_fk", rkey := 8001
            action := 513 }]
      objects := [⟨8001, "b", 1⟩, ⟨8001, "a", 0⟩, ⟨8011, "x", 0⟩, ⟨8011, "y", 1⟩] }
  currentSchema := "app"
  schemaIds := appSchemaIds
  schemaNames := appSchemaNames
  tableIds := by decide
  tableNames := by decide
  sequenceNames := noSequenceNames
  currentSchema_mem := app_mem_schemas

theorem foreignKeys_reconstructed_referring :
  ForeignKeysReconstructed referringCatalog {} (getMultiForeignKeys referringCatalog {} none).1
  := by
  have hsys : referringCatalog.ForeignKeysRefer referringCatalog.sys := by
    constructor
    · decide
    · decide
    · intro k hk htype
      obtain rfl | hk := List.mem_cons.mp hk
      · cases htype
      · obtain rfl := List.mem_singleton.mp hk
        use { id := 8001, tableId := 8000, type := keyTypePrimary, name := "parent_pk" },
          ⟨8000, "parent", 2000, 0⟩, ⟨2000, "app"⟩
        constructor
        · constructor <;> decide
        · constructor
          · decide
          · decide
          · decide
          · intro nr
            change nr ∈ [(0 : Int), 1] ↔ nr ∈ [(1 : Int), 0]
            simp [or_comm]
    · decide
  apply foreignKeys_reconstructed referringCatalog hsys
  · constructor
    · decide
    · decide
    · nofun
    · nofun
  · exact ⟨none, [], Or.inl rfl, rfl⟩

end MonetDB
