import MonetdbAdbc.Catalog.ForeignKeys

/-!
# Which indexes are reported

The query for indexes leaves out an index that shares its name with a key of its table,
unless the key is unique.  The index of a primary or a foreign key is left out because the
key is reported instead; but the query does not ask whether it is, and leaves out the index
of any other key as well.  `noIndexLost_iff` says exactly of which tables no index is lost.
-/

namespace MonetDB

/-- Names of keys and of indexes are unique within a table, and unique keys have columns. -/
structure KeyCatalog.WellFormed (c : KeyCatalog) : Prop where
  keyNames : (c.keys.map fun k => (k.tableId, k.name)).Nodup
  indexNames : (c.idxs.map fun i => (i.tableId, i.name)).Nodup
  uniqueKeys : ∀ k ∈ c.keys, k.type = keyTypeUnique → ∃ o ∈ c.objects, k.id = o.id

namespace KeyCatalog

variable {c : KeyCatalog}

/-- The key that shares its name and its table with an index. -/
def key? (c : KeyCatalog) (i : IdxRow) : Option KeyRow :=
  c.keys.find? fun k => k.name = i.name ∧ k.tableId = i.tableId

/-- The columns of an index, in the order of their positions. -/
def indexColumns (c : KeyCatalog) (i : IdxRow) : List ObjectRow :=
  Query.orderBy ObjectRow.nr (c.objects.filter fun o => i.id = o.id)

theorem WellFormed.key_unique (hc : c.WellFormed) {k k' : KeyRow} (hk : k ∈ c.keys)
    (hk' : k' ∈ c.keys) (htable : k.tableId = k'.tableId) (hname : k.name = k'.name) :
  k = k'
  := by
  apply List.inj_on_of_nodup_map hc.keyNames hk hk'
  rw [htable, hname]

theorem WellFormed.key?_eq_some_iff (hc : c.WellFormed) (i : IdxRow) (k : KeyRow) :
  c.key? i = some k ↔ k ∈ c.keys ∧ k.name = i.name ∧ k.tableId = i.tableId
  := by
  rw [key?, Query.find?_eq_some_iff_of_unique, decide_eq_true_eq]
  intro k hk k' hk' h h'
  obtain ⟨hname, htable⟩ := of_decide_eq_true h
  obtain ⟨hname', htable'⟩ := of_decide_eq_true h'
  apply hc.key_unique hk hk' (htable.trans htable'.symm) (hname.trans hname'.symm)

/-- Whether the key of an index lets it be reported, as a condition on the keys. -/
theorem WellFormed.all_key?_iff (hc : c.WellFormed) (i : IdxRow) (p : KeyRow → Bool) :
  (c.key? i).all p ↔ ∀ k ∈ c.keys, k.name = i.name → k.tableId = i.tableId → p k
  := by
  rw [Option.all_eq_true]
  constructor
  · intro h k hk hname htable
    apply h k
    apply (hc.key?_eq_some_iff i k).mpr ⟨hk, hname, htable⟩
  · intro h k hkey
    obtain ⟨hk, hname, htable⟩ := (hc.key?_eq_some_iff i k).mp hkey
    apply h k hk hname htable

/-- An index has at most one key of its name. -/
theorem WellFormed.filter_keys (hc : c.WellFormed) (i : IdxRow) :
  (c.keys.filter fun k => k.name = i.name ∧ k.tableId = i.tableId) = (c.key? i).toList
  := by
  have hkey : ∀ k : KeyRow, decide (k.name = i.name ∧ k.tableId = i.tableId)
      = decide ((k.tableId, k.name) = (i.tableId, i.name)) := by
    intro k
    simp [and_comm]
  simp only [key?, hkey]
  apply Query.filter_eq_toList_find? hc.keyNames

/-- The rows of an index, if its key lets it be reported. -/
theorem WellFormed.filter_idxs (hc : c.WellFormed) {i : IdxRow} (hi : i ∈ c.idxs)
    (p : IdxRow → Bool) :
  (c.idxs.filter fun i' => (i'.tableId = i.tableId ∧ i'.name = i.name) ∧ p i')
    = if p i then [i] else []
  := by
  have hfilter : c.idxs.filter (fun i' => (i'.tableId = i.tableId ∧ i'.name = i.name) ∧ p i')
      = (c.idxs.filter fun i' => (i.tableId, i.name) = (i'.tableId, i'.name)).filter p := by
    rw [List.filter_filter]
    apply List.filter_congr
    intro i' _
    simp [and_comm, eq_comm (a := i.tableId), eq_comm (a := i.name)]
  rw [hfilter, Query.filter_eq_singleton hc.indexNames hi rfl]
  by_cases hp : p i <;> simp [hp]

/-- The rows of the query that are about an index. -/
theorem WellFormed.filter_indexRows (hc : c.WellFormed) {i : IdxRow} (hi : i ∈ c.idxs) :
  (indexRows c [i.tableId]).filter (fun r => r.1.1.name = i.name)
    = if (c.key? i).all fun k => k.type = keyTypeUnique then
        (c.indexColumns i).map fun o => ((i, o), c.key? i)
      else
        []
  := by
  let p : IdxRow → Bool := fun i => (c.key? i).all fun k => k.type = keyTypeUnique
  have hjoin : Query.leftJoin (fun r k => k.name = r.1.name ∧ k.tableId = r.1.tableId)
        (Query.innerJoin (fun i o => i.id = o.id) c.idxs c.objects) c.keys
      = (Query.innerJoin (fun i o => i.id = o.id) c.idxs c.objects).map
          fun r => (r, c.key? r.1) :=
    Query.leftJoin_eq_map fun r _ => hc.filter_keys r.1
  have hinner : (Query.innerJoin (fun i o => i.id = o.id) c.idxs c.objects).filter
        (fun r => (r.1.tableId = i.tableId ∧ r.1.name = i.name) ∧ p r.1)
      = if p i then (c.objects.filter fun o => i.id = o.id).map (Prod.mk i) else [] := by
    rw [Query.filter_innerJoin _ (fun i' => (i'.tableId = i.tableId ∧ i'.name = i.name) ∧ p i'),
      hc.filter_idxs hi]
    split <;> simp [Query.innerJoin]
  have hrows : (Query.innerJoin (fun i o => i.id = o.id) c.idxs c.objects).filter
        ((fun r : (IdxRow × ObjectRow) × Option KeyRow =>
          decide (r.1.1.name = i.name) && decide (r.1.1.tableId ∈ [i.tableId] ∧
            (r.2.all fun k => k.type = keyTypeUnique))) ∘ fun r => (r, c.key? r.1))
      = if p i then (c.objects.filter fun o => i.id = o.id).map (Prod.mk i) else [] := by
    rw [← hinner]
    apply List.filter_congr
    intro r _
    simp [p, and_assoc, Bool.and_left_comm]
  rw [indexRows, Query.filter_orderBy, hjoin, List.filter_filter, List.filter_map, hrows]
  by_cases hp : p i
  · rw [if_pos hp, if_pos hp, List.map_map, indexColumns]
    symm
    apply Query.map_orderBy
    intro a _ b _
    simp [Prod.Lex.toLex_le_toLex]
  · rw [if_neg hp, if_neg hp]
    rfl

/-! ### The indexes of a table -/

/-- The indexes of a table, by their names. -/
def indexDict (c : KeyCatalog) (id : ObjectId) : Dict String ReflectedIndex :=
  Dict.groupBy (fun r => r.1.1.name) addIndexColumn (indexRows c [id])

theorem foldGroup_addIndexColumn (rows : List ((IdxRow × ObjectRow) × Option KeyRow))
    (index : ReflectedIndex) :
  Dict.foldGroup addIndexColumn (some index) rows
    = some { index with columnNames := index.columnNames ++ rows.map fun r => r.1.2.name }
  := by
  induction rows generalizing index with
  | nil => simp
  | cons r rows ih =>
      rw [Dict.foldGroup_cons, ih]
      simp [addIndexColumn]

/-- The index of a name is that of the rows of the name, if there are any. -/
theorem get?_indexDict (c : KeyCatalog) (id : ObjectId) (name : String) :
  (c.indexDict id).get? name
    = match (indexRows c [id]).filter (fun r => r.1.1.name = name) with
      | [] => none
      | r :: rows =>
        some { reflectedIndex r with columnNames := (r :: rows).map fun r => r.1.2.name }
  := by
  rw [indexDict, Dict.get?_groupBy]
  cases (indexRows c [id]).filter (fun r => r.1.1.name = name) with
  | nil => rfl
  | cons r rows =>
      rw [Dict.foldGroup_cons, foldGroup_addIndexColumn]
      simp [addIndexColumn, reflectedIndex]

theorem name_addIndexColumn (r : (IdxRow × ObjectRow) × Option KeyRow)
    (o : Option ReflectedIndex) (ho : ∀ index ∈ o, index.name = r.1.1.name) :
  (addIndexColumn r o).name = r.1.1.name
  := by
  cases o with
  | none => rfl
  | some index => apply ho index rfl

/-- The names of the indexes are the names that they are kept by. -/
theorem map_name_indexDict (c : KeyCatalog) (id : ObjectId) :
  (c.indexDict id).values.map ReflectedIndex.name = (c.indexDict id).keys
  := Dict.map_values_groupBy name_addIndexColumn _

theorem nodup_map_name_indexDict (c : KeyCatalog) (id : ObjectId) :
  ((c.indexDict id).values.map ReflectedIndex.name).Nodup
  := by
  rw [map_name_indexDict]
  apply Dict.keys_nodup

/-- There is at most one index of a name. -/
theorem filter_values_indexDict (c : KeyCatalog) (id : ObjectId) (name : String) :
  (c.indexDict id).values.filter (fun index => index.name = name)
    = ((c.indexDict id).get? name).toList
  := by
  have hnodup := c.nodup_map_name_indexDict id
  rw [Query.filter_eq_toList_find? hnodup]
  apply congrArg
  ext index
  rw [Query.find?_eq_some_iff hnodup, Dict.mem_values_iff]
  constructor
  · rintro ⟨⟨name', hget⟩, rfl⟩
    rw [Dict.name_of_get?_groupBy name_addIndexColumn hget]
    apply hget
  · intro hget
    exact ⟨⟨name, hget⟩, Dict.name_of_get?_groupBy name_addIndexColumn hget⟩

/-- An index with columns whose key lets it be reported. -/
theorem WellFormed.get?_indexDict_of_all (hc : c.WellFormed) {i : IdxRow} (hi : i ∈ c.idxs)
    (hcolumns : ∃ o ∈ c.objects, i.id = o.id)
    (hkey : (c.key? i).all fun k => k.type = keyTypeUnique) :
  ∃ index, (c.indexDict i.tableId).get? i.name = some index ∧
    index.columnNames = (c.indexColumns i).map ObjectRow.name
  := by
  rw [get?_indexDict, hc.filter_indexRows hi, if_pos hkey]
  have hne : c.indexColumns i ≠ [] := by
    obtain ⟨o, ho, hid⟩ := hcolumns
    apply List.ne_nil_of_mem (a := o)
    rw [indexColumns, Query.mem_orderBy, List.mem_filter]
    exact ⟨ho, decide_eq_true hid⟩
  cases hrows : c.indexColumns i with
  | nil => exact absurd hrows hne
  | cons o rows =>
      use { reflectedIndex ((i, o), c.key? i) with
        columnNames := (o :: rows).map ObjectRow.name }
      simp

theorem WellFormed.get?_indexDict_of_not_all (hc : c.WellFormed) {i : IdxRow} (hi : i ∈ c.idxs)
    (hkey : ¬ (c.key? i).all fun k => k.type = keyTypeUnique) :
  (c.indexDict i.tableId).get? i.name = none
  := by rw [get?_indexDict, hc.filter_indexRows hi, if_neg hkey]

/-- An index with columns is reported once, with its columns in order, exactly when its key
lets it be reported. -/
theorem WellFormed.reportedOnce_iff (hc : c.WellFormed) {i : IdxRow} (hi : i ∈ c.idxs)
    (hcolumns : ∃ o ∈ c.objects, i.id = o.id) :
  (∃ index, (c.indexDict i.tableId).values.filter (fun index => index.name = i.name) = [index] ∧
      index.columnNames = (c.indexColumns i).map ObjectRow.name) ↔
    (c.key? i).all fun k => k.type = keyTypeUnique
  := by
  rw [filter_values_indexDict]
  constructor
  · rintro ⟨index, hfilter, -⟩
    by_contra hkey
    rw [hc.get?_indexDict_of_not_all hi hkey] at hfilter
    cases hfilter
  · intro hkey
    obtain ⟨index, hget, hnames⟩ := hc.get?_indexDict_of_all hi hcolumns hkey
    use index
    rw [hget]
    exact ⟨rfl, hnames⟩

/-- An index that is reported as unique duplicates a unique key of its table. -/
theorem unique_of_get?_indexDict {id : ObjectId} {name : String} {index : ReflectedIndex}
    (h : (c.indexDict id).get? name = some index) (hunique : index.unique) :
  index.duplicatesConstraint = some name ∧
    ∃ k ∈ c.keys, k.type = keyTypeUnique ∧ k.name = name ∧ k.tableId = id
  := by
  rw [get?_indexDict] at h
  split at h
  · simp at h
  · rename_i r rows hrows
    obtain rfl := Option.some.inj h
    have hr : r ∈ (indexRows c [id]).filter (fun r => r.1.1.name = name) := by
      rw [hrows]
      apply List.mem_cons_self
    obtain ⟨⟨i, o⟩, key⟩ := r
    rw [List.mem_filter, indexRows, Query.mem_orderBy, List.mem_filter] at hr
    obtain ⟨⟨hjoin, hselect⟩, hrow⟩ := hr
    have hname : i.name = name := of_decide_eq_true hrow
    have htable : i.tableId = id := List.mem_singleton.mp (of_decide_eq_true hselect).1
    cases key with
    | none => simp [reflectedIndex] at hunique
    | some k =>
        have htype : k.type = keyTypeUnique := by simpa [reflectedIndex] using hunique
        obtain ⟨-, hk, hon⟩ := (Query.some_mem_leftJoin _ _ _ _ _).mp hjoin
        obtain ⟨hkname, hktable⟩ := of_decide_eq_true hon
        constructor
        · simp [reflectedIndex, htype, hname]
        · exact ⟨k, hk, htype, hkname.trans hname, hktable.trans htable⟩

/-! ### The keys that are reported -/

/-- A key owns the first row of the primary keys of its table: in the order of the positions
of their columns, and then of the catalog. -/
def LeadsPrimary (c : KeyCatalog) (k : KeyRow) : Prop :=
  ∃ before o after,
    ((Query.innerJoin (fun k o => k.id = o.id) c.keys c.objects).filter fun r =>
      r.1.tableId = k.tableId ∧ r.1.type = keyTypePrimary) = before ++ (k, o) :: after ∧
    (∀ r ∈ before, o.nr < r.2.nr) ∧ ∀ r ∈ after, o.nr ≤ r.2.nr

/-- The rows of the primary keys of a table, before they are sorted. -/
theorem filter_keyColumns (c : KeyCatalog) (id : ObjectId) :
  keyColumns keyTypePrimary c [id]
    = (Query.innerJoin (fun k o => k.id = o.id) c.keys c.objects).filter fun r =>
        r.1.tableId = id ∧ r.1.type = keyTypePrimary
  := by simp [keyColumns]

theorem head?_primaryKeyRows (c : KeyCatalog) (k : KeyRow) (o : ObjectRow) :
  (primaryKeyRows c [k.tableId]).head? = some (k, o) ↔
    ∃ before after,
      ((Query.innerJoin (fun k o => k.id = o.id) c.keys c.objects).filter fun r =>
        r.1.tableId = k.tableId ∧ r.1.type = keyTypePrimary) = before ++ (k, o) :: after ∧
      (∀ r ∈ before, o.nr < r.2.nr) ∧ ∀ r ∈ after, o.nr ≤ r.2.nr
  := by
  rw [primaryKeyRows, Query.head?_orderBy, filter_keyColumns]
  apply exists_congr
  intro before
  apply exists_congr
  intro after
  apply and_congr_right
  intro hsplit
  have htable : ∀ r ∈ before ++ (k, o) :: after, r.1.tableId = k.tableId := by
    intro r hr
    rw [← hsplit] at hr
    apply (of_decide_eq_true (List.mem_filter.mp hr).2).1
  apply and_congr
  · apply forall₂_congr
    intro r hr
    rw [Prod.Lex.toLex_lt_toLex, htable r (List.mem_append_left _ hr)]
    simp
  · apply forall₂_congr
    intro r hr
    rw [Prod.Lex.toLex_le_toLex,
      htable r (List.mem_append_right _ (List.mem_cons_of_mem _ hr))]
    simp

/-- The primary key that is reported of a table is the key that owns its first row. -/
theorem WellFormed.leadsPrimary_iff (hc : c.WellFormed) {k : KeyRow} (hk : k ∈ c.keys) :
  c.LeadsPrimary k ↔
    ∃ r, (primaryKeyRows c [k.tableId]).head? = some r ∧ r.1.name = k.name
  := by
  constructor
  · rintro ⟨before, o, after, h⟩
    use (k, o)
    exact ⟨(head?_primaryKeyRows c k o).mpr ⟨before, after, h⟩, rfl⟩
  · rintro ⟨⟨k', o⟩, hhead, hname⟩
    have hrow := List.mem_of_head? hhead
    rw [primaryKeyRows, Query.mem_orderBy, filter_keyColumns, List.mem_filter,
      Query.mem_innerJoin] at hrow
    obtain rfl := hc.key_unique hrow.1.1 hk (of_decide_eq_true hrow.2).1 hname
    obtain ⟨before, after, h⟩ := (head?_primaryKeyRows c k' o).mp hhead
    exact ⟨before, o, after, h⟩

end KeyCatalog

/-! ### The entries of a table -/

variable (catalog : Catalog)

theorem Catalog.indexesOf_eq (id : ObjectId) :
  catalog.indexesOf id = ((catalog.home id).indexDict id).values
  := by
  rw [indexesOf, entry, Dict.foldGroup_alterIn]
  rfl

theorem foldGroup_addPrimaryKeyColumn (rows : List (KeyRow × ObjectRow))
    (constraint : ReflectedPrimaryKeyConstraint) :
  Dict.foldGroup addPrimaryKeyColumn (some constraint) rows
    = some { constraint with
        constrainedColumns := constraint.constrainedColumns ++ rows.map fun r => r.2.name }
  := by
  induction rows generalizing constraint with
  | nil => simp
  | cons r rows ih =>
      rw [Dict.foldGroup_cons, ih]
      simp [addPrimaryKeyColumn]

/-- The name of the primary key of a table is that of the first row. -/
theorem Catalog.name_primaryKeyOf (id : ObjectId) :
  (catalog.primaryKeyOf id).name
    = (primaryKeyRows (catalog.home id) [id]).head?.map fun r => r.1.name
  := by
  rw [primaryKeyOf, entry]
  cases primaryKeyRows (catalog.home id) [id] with
  | nil => rfl
  | cons r rows =>
      rw [Dict.foldGroup_cons, foldGroup_addPrimaryKeyColumn]
      rfl

/-- A unique key with a column is reported. -/
theorem Catalog.exists_uniqueConstraintsOf {k : KeyRow} (hk : k ∈ (catalog.home k.tableId).keys)
    (htype : k.type = keyTypeUnique)
    (hcolumn : ∃ o ∈ (catalog.home k.tableId).objects, k.id = o.id) :
  ∃ u ∈ catalog.uniqueConstraintsOf k.tableId, u.name = k.name
  := by
  obtain ⟨o, ho, hid⟩ := hcolumn
  have hrow : (k, o) ∈ uniqueRows (catalog.home k.tableId) [k.tableId] := by
    rw [uniqueRows, Query.mem_orderBy, keyColumns, List.mem_filter, Query.mem_innerJoin]
    exact ⟨⟨hk, ho, decide_eq_true hid⟩, by simp [htype]⟩
  rw [uniqueConstraintsOf, entry, Dict.foldGroup_alterIn]
  obtain ⟨columns, hcolumns⟩ := (Dict.mem_keys_iff _ _).mp
    ((Dict.mem_keys_groupBy (fun r : KeyRow × ObjectRow => r.1.name) addUniqueColumn _ k.name).mpr
      ⟨(k, o), hrow, rfl⟩)
  use { name := k.name, columnNames := columns }
  constructor
  · rw [List.mem_map]
    exact ⟨(k.name, columns), (Dict.mem_items_iff _ _ _).mpr hcolumns, rfl⟩
  · rfl

/-! ### No index is lost -/

/-- A key has a row in the join that finds the foreign keys: a column at a position at which
the key that it refers to has one, and the table of that key is in a schema. -/
def Catalog.Refers (c : KeyCatalog) (k : KeyRow) : Prop :=
  ∃ fkc ∈ c.objects, k.id = fkc.id ∧ ∃ pkk ∈ c.keys, k.rkey = pkk.id ∧
    (∃ pkc ∈ c.objects, pkk.id = pkc.id ∧ fkc.nr = pkc.nr) ∧
    ∃ pkt ∈ catalog.tables, pkk.tableId = pkt.id ∧ ∃ ps ∈ catalog.schemas, pkt.schemaId = ps.id

/-- No index of a table is lost: every index with columns is reported once, with its columns
in the order of their positions, or a primary or foreign key of its name is reported instead;
and an index reported as unique duplicates a unique constraint that is reported. -/
structure IndexesReported (c : KeyCatalog) (id : ObjectId) (indexes : List ReflectedIndex)
    (primaryKey : ReflectedPrimaryKeyConstraint)
    (foreignKeys : List ReflectedForeignKeyConstraint)
    (uniqueConstraints : List ReflectedUniqueConstraint) : Prop where
  complete : ∀ i ∈ c.idxs, i.tableId = id → (∃ o ∈ c.objects, i.id = o.id) →
    (∃ index, indexes.filter (fun index => index.name = i.name) = [index] ∧
      index.columnNames = (c.indexColumns i).map ObjectRow.name) ∨
    ∃ k ∈ c.keys, k.tableId = id ∧ k.name = i.name ∧
      (k.type = keyTypePrimary ∨ k.type = keyTypeForeign) ∧
      (primaryKey.name = some k.name ∨ ∃ f ∈ foreignKeys, f.name = k.name)
  once : (indexes.map ReflectedIndex.name).Nodup
  unique : ∀ index ∈ indexes, index.unique →
    ∃ u ∈ uniqueConstraints, index.duplicatesConstraint = some u.name

/-- What the getters yield for a table of a request loses no index of it. -/
def NoIndexLost (kw : Request) (infoCache : Option InfoCache) (id : ObjectId) (name : String) :
    Prop :=
  ∃ indexes primaryKey foreignKeys uniqueConstraints,
    ((kw.schema, name), indexes) ∈ (getMultiIndexes catalog kw infoCache).1 ∧
    ((kw.schema, name), primaryKey) ∈ (getMultiPkConstraint catalog kw infoCache).1 ∧
    ((kw.schema, name), foreignKeys) ∈ (getMultiForeignKeys catalog kw infoCache).1 ∧
    ((kw.schema, name), uniqueConstraints) ∈ (getMultiUniqueConstraints catalog kw infoCache).1 ∧
    IndexesReported (catalog.home id) id indexes primaryKey foreignKeys uniqueConstraints

/-- A key of a table that has the name of an index with columns is unique, or it is a primary
or foreign key that has rows to be reported by. -/
def KeysLeaveIndexes (id : ObjectId) : Prop :=
  ∀ i ∈ (catalog.home id).idxs, i.tableId = id →
    (∃ o ∈ (catalog.home id).objects, i.id = o.id) →
    ∀ k ∈ (catalog.home id).keys, k.tableId = id → k.name = i.name →
      k.type = keyTypeUnique ∨
      (k.type = keyTypePrimary ∨ k.type = keyTypeForeign) ∧
        ((catalog.home id).LeadsPrimary k ∨ catalog.Refers (catalog.home id) k)

/-- The primary key or a foreign key that is reported has the name of a key. -/
theorem reported_iff {kw : Request} (schema : Option String) {t : TableRow}
    (ht : kw.Selects catalog t) (hc : (catalog.home t.id).WellFormed) {k : KeyRow}
    (hk : k ∈ (catalog.home t.id).keys) (htable : k.tableId = t.id) :
  ((catalog.primaryKeyOf t.id).name = some k.name ∨
      ∃ f ∈ catalog.foreignKeysOf schema t.id, f.name = k.name) ↔
    (catalog.home t.id).LeadsPrimary k ∨ catalog.Refers (catalog.home t.id) k
  := by
  apply or_congr
  · rw [catalog.name_primaryKeyOf, hc.leadsPrimary_iff hk, Option.map_eq_some_iff, htable]
  · rw [catalog.exists_foreignKeysOf_iff]
    constructor
    · rintro ⟨r, hr, hrtable, hname⟩
      obtain rfl := hc.key_unique hr.fkk hk (hrtable.trans htable.symm) hname
      exact ⟨r.fkc, hr.fkc.1, hr.fkc.2, r.pkk, hr.pkk.1, hr.pkk.2,
        ⟨r.pkc, hr.pkc.1, hr.pkc.2.1, hr.pkc.2.2⟩, r.pkt, hr.pkt.1, hr.pkt.2,
        r.ps, hr.ps.1, hr.ps.2⟩
    · rintro ⟨fkc, hfkc, hfid, pkk, hpkk, hrkey, ⟨pkc, hpkc, hpid, hnr⟩, pkt, hpkt, hptable,
        ps, hps, hpschema⟩
      obtain ⟨fs, hfs, hfschema⟩ := ht.admits.exists_schema
      use ⟨k, fkc, pkk, pkc, t, fs, pkt, ps⟩
      exact ⟨⟨hk, ⟨hfkc, hfid⟩, ⟨hpkk, hrkey⟩, ⟨hpkc, hpid, hnr⟩, ⟨ht.admits.mem, htable⟩,
        ⟨hfs, hfschema⟩, ⟨hpkt, hptable⟩, ⟨hps, hpschema⟩⟩, htable, rfl⟩

/-- An index with columns is reported once or a key of its name is, exactly when every key of
its name is unique or is reported. -/
theorem complete_iff {kw : Request} (schema : Option String) {t : TableRow}
    (ht : kw.Selects catalog t) (hc : (catalog.home t.id).WellFormed) {i : IdxRow}
    (hi : i ∈ (catalog.home t.id).idxs) (htable : i.tableId = t.id)
    (hcolumns : ∃ o ∈ (catalog.home t.id).objects, i.id = o.id) :
  ((∃ index, (catalog.indexesOf t.id).filter (fun index => index.name = i.name) = [index] ∧
        index.columnNames = ((catalog.home t.id).indexColumns i).map ObjectRow.name) ∨
      ∃ k ∈ (catalog.home t.id).keys, k.tableId = t.id ∧ k.name = i.name ∧
        (k.type = keyTypePrimary ∨ k.type = keyTypeForeign) ∧
        ((catalog.primaryKeyOf t.id).name = some k.name ∨
          ∃ f ∈ catalog.foreignKeysOf schema t.id, f.name = k.name)) ↔
    ∀ k ∈ (catalog.home t.id).keys, k.tableId = t.id → k.name = i.name →
      k.type = keyTypeUnique ∨
      (k.type = keyTypePrimary ∨ k.type = keyTypeForeign) ∧
        ((catalog.home t.id).LeadsPrimary k ∨ catalog.Refers (catalog.home t.id) k)
  := by
  have honce := hc.reportedOnce_iff hi hcolumns
  rw [htable, ← catalog.indexesOf_eq, hc.all_key?_iff, htable] at honce
  rw [honce]
  constructor
  · rintro (hunique | ⟨k', hk', hktable', hname', htype, hreported⟩) k hk hktable hname
    · left
      apply of_decide_eq_true (hunique k hk hname hktable)
    · right
      obtain rfl := hc.key_unique hk' hk (hktable'.trans hktable.symm)
        (hname'.trans hname.symm)
      exact ⟨htype, (reported_iff catalog schema ht hc hk hktable).mp hreported⟩
  · intro h
    by_contra hlost
    obtain ⟨hunique, hkeys⟩ := not_or.mp hlost
    apply hunique
    intro k hk hname hktable
    obtain htype | ⟨htype, hreported⟩ := h k hk hktable hname
    · apply decide_eq_true htype
    · apply absurd _ hkeys
      exact ⟨k, hk, hktable, hname, htype,
        (reported_iff catalog schema ht hc hk hktable).mpr hreported⟩

/-- An index reported as unique duplicates a unique constraint that is reported. -/
theorem exists_uniqueConstraint (id : ObjectId) (hc : (catalog.home id).WellFormed)
    {index : ReflectedIndex} (hindex : index ∈ catalog.indexesOf id) (hunique : index.unique) :
  ∃ u ∈ catalog.uniqueConstraintsOf id, index.duplicatesConstraint = some u.name
  := by
  rw [catalog.indexesOf_eq] at hindex
  obtain ⟨name, hget⟩ := (Dict.mem_values_iff _ _).mp hindex
  obtain ⟨hduplicates, k, hk, htype, hname, rfl⟩ :=
    KeyCatalog.unique_of_get?_indexDict hget hunique
  obtain ⟨u, hu, huname⟩ :=
    catalog.exists_uniqueConstraintsOf hk htype (hc.uniqueKeys k hk htype)
  use u, hu
  rw [hduplicates, huname, hname]

/-- The entries of a table lose no index exactly when the keys leave its indexes. -/
theorem indexesReported_iff {kw : Request} (schema : Option String) {t : TableRow}
    (ht : kw.Selects catalog t) (hc : (catalog.home t.id).WellFormed) :
  IndexesReported (catalog.home t.id) t.id (catalog.indexesOf t.id) (catalog.primaryKeyOf t.id)
      (catalog.foreignKeysOf schema t.id) (catalog.uniqueConstraintsOf t.id) ↔
    KeysLeaveIndexes catalog t.id
  := by
  constructor
  · intro h i hi htable hcolumns
    apply (complete_iff catalog schema ht hc hi htable hcolumns).mp
    apply h.complete i hi htable hcolumns
  · intro h
    constructor
    · intro i hi htable hcolumns
      apply (complete_iff catalog schema ht hc hi htable hcolumns).mpr
      apply h i hi htable hcolumns
    · rw [catalog.indexesOf_eq]
      apply KeyCatalog.nodup_map_name_indexDict
    · intro index hindex hunique
      apply exists_uniqueConstraint catalog t.id hc hindex hunique

theorem Catalog.wellFormed_home (hsys : catalog.sys.WellFormed) (htmp : catalog.tmp.WellFormed)
    (id : ObjectId) :
  (catalog.home id).WellFormed
  := by
  unfold home
  split
  · apply htmp
  · apply hsys

/-- No index of a table is lost exactly when every key with the name of one is unique, or is
reported as the primary key or as a foreign key. -/
theorem noIndexLost_iff (hsys : catalog.sys.WellFormed) (htmp : catalog.tmp.WellFormed)
    {infoCache : Option InfoCache} (hearlier : Earlier catalog infoCache) {kw : Request}
    {id : ObjectId} {name : String}
    (hitem : (id, name) ∈ (resolveRequest catalog kw infoCache).1.tables.items) :
  NoIndexLost catalog kw infoCache id name ↔ KeysLeaveIndexes catalog id
  := by
  unfold NoIndexLost
  simp only [(answersByTable_indexes catalog kw.schema).mem_iff catalog hearlier hitem,
    (answersByTable_pkConstraint catalog kw.schema).mem_iff catalog hearlier hitem,
    (answersByTable_foreignKeys catalog kw.schema).mem_iff catalog hearlier hitem,
    (answersByTable_uniqueConstraints catalog kw.schema).mem_iff catalog hearlier hitem,
    exists_and_left, exists_eq_left]
  rw [hearlier.resolveRequest_fst, mem_tables_iff] at hitem
  obtain ⟨t, ht, rfl, rfl⟩ := hitem
  apply indexesReported_iff catalog kw.schema ht
  apply catalog.wellFormed_home hsys htmp

/-- A catalog in which an index and a check key of its table have the same name. -/
def checkedCatalog : Catalog where
  schemas := [⟨2000, "app"⟩, ⟨2114, "tmp"⟩]
  tables := [⟨8000, "t", 2000, 0⟩]
  sys :=
    { keys := [{ id := 8001, tableId := 8000, type := keyTypeCheck, name := "positive" }]
      objects := [⟨8002, "a", 0⟩]
      idxs := [⟨8002, 8000, "positive"⟩] }
  currentSchema := "app"
  schemaIds := appSchemaIds
  schemaNames := appSchemaNames
  tableIds := by decide
  tableNames := by decide
  sequenceNames := noSequenceNames
  currentSchema_mem := app_mem_schemas

theorem noIndexLost_iff_checked :
  NoIndexLost checkedCatalog {} none 8000 "t" ↔ KeysLeaveIndexes checkedCatalog 8000
  := by
  apply noIndexLost_iff
  · constructor <;> decide
  · constructor <;> decide
  · exact ⟨none, [], Or.inl rfl, rfl⟩
  · decide

/-- The index is not reported, and neither is a primary or foreign key of its name. -/
theorem checked_index_lost :
  ¬ NoIndexLost checkedCatalog {} none 8000 "t"
  := by
  have hentries : (getMultiIndexes checkedCatalog {} none).1 = [((none, "t"), [])] := rfl
  rintro ⟨indexes, primaryKey, foreignKeys, uniqueConstraints, hindexes, -, -, -, h⟩
  obtain rfl : indexes = [] := by simpa [hentries] using hindexes
  rcases h.complete ⟨8002, 8000, "positive"⟩ (by decide) rfl (by decide) with
    ⟨index, hfilter, -⟩ | ⟨k, hk, -, -, htype, -⟩
  · cases hfilter
  · revert k
    decide

end MonetDB
