import MonetdbAdbc.Catalog.Indexes

/-!
# The indexes that a catalog holds

What a catalog says of an index is its `IndexEntry`: the columns of the index in order, and the
type of the key of its name, if there is one.  Recording an index adds an entry; recording a
unique key adds the entry of the index that backs it; removing either takes the entry away, and
no other entry changes.

Reflection reports the entries of indexes that back no key and of those that back a unique key,
and the latter as unique constraints as well (`KeyCatalog.Kept.shown`).
-/

namespace MonetDB

/-- What a catalog says of an index. -/
structure IndexEntry where
  columns : List String
  /-- The type of the key of the same table and name. -/
  backs : Option Int
deriving DecidableEq, Repr

/-- An index of the entry as it is reported, if it is. -/
def IndexEntry.reflected (e : IndexEntry) (name : String) : Option ReflectedIndex :=
  if e.columns ≠ [] ∧ e.backs.all (· = keyTypeUnique) then
    some
      { name
        columnNames := e.columns
        unique := e.backs.isSome
        duplicatesConstraint := if e.backs.isSome then some name else none }
  else
    none

namespace KeyCatalog

variable {c : KeyCatalog}

/-- The columns of a key or of an index, in order. -/
def columnNames (c : KeyCatalog) (id : ObjectId) : List String :=
  (Query.orderBy ObjectRow.nr (c.objects.filter fun o => id = o.id)).map ObjectRow.name

/-- The index of a name on a table. -/
def index? (c : KeyCatalog) (id : ObjectId) (name : String) : Option IdxRow :=
  c.idxs.find? fun i => i.tableId = id ∧ i.name = name

/-- The key of a name on a table. -/
def keyNamed? (c : KeyCatalog) (id : ObjectId) (name : String) : Option KeyRow :=
  c.keys.find? fun k => k.name = name ∧ k.tableId = id

/-- The entry of a name on a table. -/
def entryOf? (c : KeyCatalog) (id : ObjectId) (name : String) : Option IndexEntry :=
  (c.index? id name).map fun i => ⟨c.columnNames i.id, (c.key? i).map KeyRow.type⟩

/-- No row has an identity. -/
structure Unused (c : KeyCatalog) (id : ObjectId) : Prop where
  keys : id ∉ c.keys.map KeyRow.id
  idxs : id ∉ c.idxs.map IdxRow.id
  objects : id ∉ c.objects.map ObjectRow.id

/-- Identities are distinct, and so are the names of the keys and of the indexes of a table. -/
structure Distinct (c : KeyCatalog) : Prop where
  ids : (c.keys.map KeyRow.id ++ c.idxs.map IdxRow.id).Nodup
  keyNames : (c.keys.map fun k => (k.tableId, k.name)).Nodup
  indexNames : (c.idxs.map fun i => (i.tableId, i.name)).Nodup

/-! ### Looking entries up -/

theorem Distinct.index?_eq_some_iff (hc : c.Distinct) (id : ObjectId) (name : String)
    (i : IdxRow) :
  c.index? id name = some i ↔ i ∈ c.idxs ∧ i.tableId = id ∧ i.name = name
  := by
  rw [index?, Query.find?_eq_some_iff_of_unique, decide_eq_true_eq]
  intro i hi i' hi' h h'
  obtain ⟨htable, hname⟩ := of_decide_eq_true h
  obtain ⟨htable', hname'⟩ := of_decide_eq_true h'
  apply List.inj_on_of_nodup_map hc.indexNames hi hi'
  rw [htable, htable', hname, hname']

theorem Distinct.keyNamed?_eq_some_iff (hc : c.Distinct) (id : ObjectId) (name : String)
    (k : KeyRow) :
  c.keyNamed? id name = some k ↔ k ∈ c.keys ∧ k.tableId = id ∧ k.name = name
  := by
  rw [keyNamed?, Query.find?_eq_some_iff_of_unique, decide_eq_true_eq, and_comm (a := k.name = _)]
  intro k hk k' hk' h h'
  obtain ⟨hname, htable⟩ := of_decide_eq_true h
  obtain ⟨hname', htable'⟩ := of_decide_eq_true h'
  apply List.inj_on_of_nodup_map hc.keyNames hk hk'
  rw [htable, htable', hname, hname']

theorem key?_eq (c : KeyCatalog) (i : IdxRow) :
  c.key? i = c.keyNamed? i.tableId i.name
  := rfl

theorem keyNamed?_eq_none_iff (c : KeyCatalog) (id : ObjectId) (name : String) :
  c.keyNamed? id name = none ↔ ∀ k ∈ c.keys, k.tableId = id → k.name ≠ name
  := by
  rw [keyNamed?, List.find?_eq_none]
  simp only [decide_eq_true_eq, not_and]
  constructor
  · intro h k hk htable hname
    apply h k hk hname htable
  · intro h k hk hname htable
    apply h k hk htable hname

/-! ### Recording and removing -/

/-- The rows of the columns of a key or of an index. -/
def columnObjects (id : ObjectId) (columns : List String) : List ObjectRow :=
  columns.mapIdx fun nr name => ⟨id, name, nr⟩

/-- Record an index. -/
def addIndex (c : KeyCatalog) (i : IdxRow) (columns : List String) : KeyCatalog :=
  { c with
    idxs := c.idxs ++ [i]
    objects := c.objects ++ columnObjects i.id columns }

/-- Record a key. -/
def addKey (c : KeyCatalog) (k : KeyRow) (columns : List String) : KeyCatalog :=
  { c with
    keys := c.keys ++ [k]
    objects := c.objects ++ columnObjects k.id columns }

/-- Record a key and the index that backs it. -/
def addBackedKey (c : KeyCatalog) (k : KeyRow) (index : ObjectId) (columns : List String) :
    KeyCatalog :=
  (c.addKey k columns).addIndex ⟨index, k.tableId, k.name⟩ columns

/-- Remove an index. -/
def removeIndex (c : KeyCatalog) (i : IdxRow) : KeyCatalog :=
  { c with
    idxs := c.idxs.filter fun i' => i'.id ≠ i.id
    objects := c.objects.filter fun o => o.id ≠ i.id }

/-- Remove a key. -/
def removeKey (c : KeyCatalog) (k : KeyRow) : KeyCatalog :=
  { c with
    keys := c.keys.filter fun k' => k'.id ≠ k.id
    objects := c.objects.filter fun o => o.id ≠ k.id }

/-- Remove a key and the index that backs it; a check has none. -/
def removeBackedKey (c : KeyCatalog) (k : KeyRow) : KeyCatalog :=
  match if k.type = keyTypeCheck then none else c.index? k.tableId k.name with
  | some i => (c.removeIndex i).removeKey k
  | none => c.removeKey k

/-! ### Columns -/

theorem columnNames_congr {c c' : KeyCatalog} {id : ObjectId}
    (h : c'.objects.filter (fun o => id = o.id) = c.objects.filter fun o => id = o.id) :
  c'.columnNames id = c.columnNames id
  := by rw [columnNames, columnNames, h]

theorem filter_columnObjects_self (id : ObjectId) (columns : List String) :
  (columnObjects id columns).filter (fun o => id = o.id) = columnObjects id columns
  := by
  rw [List.filter_eq_self]
  intro o ho
  obtain ⟨nr, hnr, rfl⟩ := List.mem_mapIdx.mp ho
  apply decide_eq_true rfl

theorem filter_columnObjects_of_ne {id id' : ObjectId} (h : id' ≠ id) (columns : List String) :
  (columnObjects id columns).filter (fun o => id' = o.id) = []
  := by
  rw [List.filter_eq_nil_iff]
  intro o ho
  obtain ⟨nr, hnr, rfl⟩ := List.mem_mapIdx.mp ho
  simpa using h

/-- The rows of the columns are in order. -/
theorem orderBy_columnObjects (id : ObjectId) (columns : List String) :
  Query.orderBy ObjectRow.nr (columnObjects id columns) = columnObjects id columns
  := by
  apply List.Pairwise.insertionSort_eq
  rw [List.pairwise_iff_getElem]
  intro m n hm hn hlt
  simp only [columnObjects, List.getElem_mapIdx]
  omega

theorem map_name_columnObjects (id : ObjectId) (columns : List String) :
  (columnObjects id columns).map ObjectRow.name = columns
  := by
  apply List.ext_getElem
  · simp [columnObjects]
  · intro n _ _
    simp [columnObjects]

/-- What is recorded of new columns is read back. -/
theorem columnNames_self {c c' : KeyCatalog} {id : ObjectId} {columns : List String}
    (h : c'.objects = c.objects ++ columnObjects id columns)
    (hid : id ∉ c.objects.map ObjectRow.id) :
  c'.columnNames id = columns
  := by
  have hnone : c.objects.filter (fun o => id = o.id) = [] := by
    rw [List.filter_eq_nil_iff]
    intro o ho heq
    apply hid
    rw [of_decide_eq_true heq]
    apply List.mem_map_of_mem ho
  rw [columnNames, h, List.filter_append, hnone, List.nil_append, filter_columnObjects_self,
    orderBy_columnObjects, map_name_columnObjects]

/-- New columns of one object are not columns of another. -/
theorem columnNames_append_of_ne {c c' : KeyCatalog} {id id' : ObjectId} {columns : List String}
    (h : c'.objects = c.objects ++ columnObjects id columns) (hne : id' ≠ id) :
  c'.columnNames id' = c.columnNames id'
  := by
  apply columnNames_congr
  rw [h, List.filter_append, filter_columnObjects_of_ne hne, List.append_nil]

/-- Removing the columns of one object keeps those of another. -/
theorem columnNames_filter_of_ne {c c' : KeyCatalog} {id id' : ObjectId}
    (h : c'.objects = c.objects.filter fun o => o.id ≠ id) (hne : id' ≠ id) :
  c'.columnNames id' = c.columnNames id'
  := by
  apply columnNames_congr
  rw [h, List.filter_filter]
  apply List.filter_congr
  intro o _
  by_cases ho : id' = o.id
  · simp [← ho, hne]
  · simp [ho]

/-! ### Identities and names stay distinct -/

theorem index?_eq_none_iff (c : KeyCatalog) (id : ObjectId) (name : String) :
  c.index? id name = none ↔ (id, name) ∉ c.idxs.map fun i => (i.tableId, i.name)
  := by
  rw [index?, List.find?_eq_none, List.mem_map]
  simp only [decide_eq_true_eq, Prod.mk.injEq, not_exists, not_and]

theorem keyNamed?_eq_none_iff_not_mem (c : KeyCatalog) (id : ObjectId) (name : String) :
  c.keyNamed? id name = none ↔ (id, name) ∉ c.keys.map fun k => (k.tableId, k.name)
  := by
  rw [keyNamed?_eq_none_iff, List.mem_map]
  constructor
  · rintro h ⟨k, hk, heq⟩
    obtain ⟨htable, hname⟩ := Prod.mk.inj heq
    apply h k hk htable hname
  · intro h k hk htable hname
    apply h
    use k, hk
    rw [htable, hname]

theorem Distinct.addIndex (hc : c.Distinct) {i : IdxRow} (hid : c.Unused i.id)
    (hname : c.index? i.tableId i.name = none) (columns : List String) :
  (c.addIndex i columns).Distinct
  := by
  constructor
  · have hnew : i.id ∉ c.keys.map KeyRow.id ++ c.idxs.map IdxRow.id := by
      rw [List.mem_append, not_or]
      exact ⟨hid.keys, hid.idxs⟩
    simp only [KeyCatalog.addIndex, List.map_append, ← List.append_assoc]
    apply List.Nodup.append hc.ids (List.nodup_singleton _)
    simpa using hnew
  · apply hc.keyNames
  · simp only [KeyCatalog.addIndex, List.map_append]
    apply List.Nodup.append hc.indexNames (List.nodup_singleton _)
    rw [index?_eq_none_iff] at hname
    simpa using hname

theorem Distinct.addKey (hc : c.Distinct) {k : KeyRow} (hid : c.Unused k.id)
    (hname : c.keyNamed? k.tableId k.name = none) (columns : List String) :
  (c.addKey k columns).Distinct
  := by
  constructor
  · have hnew : k.id ∉ c.keys.map KeyRow.id ++ c.idxs.map IdxRow.id := by
      rw [List.mem_append, not_or]
      exact ⟨hid.keys, hid.idxs⟩
    have hperm : (c.keys.map KeyRow.id ++ [k.id] ++ c.idxs.map IdxRow.id).Perm
        (k.id :: (c.keys.map KeyRow.id ++ c.idxs.map IdxRow.id)) := by
      rw [List.append_assoc]
      apply List.perm_middle
    simp only [KeyCatalog.addKey, List.map_append]
    apply hperm.nodup_iff.mpr
    apply List.nodup_cons.mpr ⟨hnew, hc.ids⟩
  · simp only [KeyCatalog.addKey, List.map_append]
    apply List.Nodup.append hc.keyNames (List.nodup_singleton _)
    rw [keyNamed?_eq_none_iff_not_mem] at hname
    simpa using hname
  · apply hc.indexNames

theorem Distinct.removeIndex (hc : c.Distinct) (i : IdxRow) :
  (c.removeIndex i).Distinct
  := by
  have hsublist : (c.removeIndex i).idxs.Sublist c.idxs := List.filter_sublist
  constructor
  · apply List.Nodup.sublist _ hc.ids
    apply List.Sublist.append (List.Sublist.refl _) (hsublist.map _)
  · apply hc.keyNames
  · apply List.Nodup.sublist (hsublist.map _) hc.indexNames

theorem Distinct.removeKey (hc : c.Distinct) (k : KeyRow) :
  (c.removeKey k).Distinct
  := by
  have hsublist : (c.removeKey k).keys.Sublist c.keys := List.filter_sublist
  constructor
  · apply List.Nodup.sublist _ hc.ids
    apply List.Sublist.append (hsublist.map _) (List.Sublist.refl _)
  · apply List.Nodup.sublist (hsublist.map _) hc.keyNames
  · apply hc.indexNames

theorem Distinct.key_ne_index (hc : c.Distinct) {k : KeyRow} (hk : k ∈ c.keys) {i : IdxRow}
    (hi : i ∈ c.idxs) :
  k.id ≠ i.id
  := by
  apply List.nodup_append.mp hc.ids |>.2.2
  · apply List.mem_map_of_mem hk
  · apply List.mem_map_of_mem hi

theorem Distinct.index_eq (hc : c.Distinct) {i i' : IdxRow} (hi : i ∈ c.idxs) (hi' : i' ∈ c.idxs)
    (h : i.id = i'.id) :
  i = i'
  := List.inj_on_of_nodup_map (List.nodup_append.mp hc.ids).2.1 hi hi' h

theorem Distinct.key_eq (hc : c.Distinct) {k k' : KeyRow} (hk : k ∈ c.keys) (hk' : k' ∈ c.keys)
    (h : k.id = k'.id) :
  k = k'
  := List.inj_on_of_nodup_map (List.nodup_append.mp hc.ids).1 hk hk' h

/-! ### One entry changes -/

theorem index_of_index? {id : ObjectId} {name : String} {i : IdxRow}
    (h : c.index? id name = some i) :
  i ∈ c.idxs ∧ i.tableId = id ∧ i.name = name
  := by
  constructor
  · apply List.mem_of_find?_eq_some h
  · simpa using List.find?_some h

theorem entryOf?_eq_none_iff (c : KeyCatalog) (id : ObjectId) (name : String) :
  c.entryOf? id name = none ↔ c.index? id name = none
  := Option.map_eq_none_iff

/-- Recording an index adds its entry. -/
theorem entryOf?_addIndex {i : IdxRow} (hid : c.Unused i.id)
    (hname : c.index? i.tableId i.name = none) (columns : List String) (id : ObjectId)
    (name : String) :
  (c.addIndex i columns).entryOf? id name
    = if id = i.tableId ∧ name = i.name then
        some ⟨columns, (c.keyNamed? i.tableId i.name).map KeyRow.type⟩
      else
        c.entryOf? id name
  := by
  have hindex : (c.addIndex i columns).index? id name
      = (c.index? id name).or (if id = i.tableId ∧ name = i.name then some i else none) := by
    simp only [index?, addIndex, List.find?_append, List.find?_singleton, decide_eq_true_eq,
      eq_comm (a := id), eq_comm (a := name)]
  rw [entryOf?, hindex]
  split
  · rename_i h
    obtain ⟨rfl, rfl⟩ := h
    rw [hname, Option.none_or, Option.map_some, columnNames_self (c := c) rfl hid.objects]
    rfl
  · rw [Option.or_none, entryOf?]
    apply Option.map_congr
    intro j hj
    have hne : j.id ≠ i.id := by
      intro heq
      apply hid.idxs
      rw [← heq]
      apply List.mem_map_of_mem (index_of_index? hj).1
    rw [columnNames_append_of_ne (c := c) rfl hne]
    rfl

/-- Recording a key that no index has the name of changes no entry. -/
theorem entryOf?_addKey {k : KeyRow} (hid : c.Unused k.id)
    (hname : c.index? k.tableId k.name = none) (columns : List String) (id : ObjectId)
    (name : String) :
  (c.addKey k columns).entryOf? id name = c.entryOf? id name
  := by
  apply Option.map_congr
  intro j hj
  obtain ⟨hmem, rfl, rfl⟩ := index_of_index? (c := c) hj
  have hne : j.id ≠ k.id := by
    intro heq
    apply hid.idxs
    rw [← heq]
    apply List.mem_map_of_mem hmem
  have hkey : (c.addKey k columns).key? j = c.key? j := by
    have hnone : [k].find? (fun k => k.name = j.name ∧ k.tableId = j.tableId) = none := by
      rw [List.find?_singleton, if_neg]
      intro h
      obtain ⟨hkname, hktable⟩ := of_decide_eq_true h
      rw [index?_eq_none_iff, hktable, hkname] at hname
      apply hname (List.mem_map_of_mem hmem)
    rw [key?, key?, KeyCatalog.addKey, List.find?_append, hnone, Option.or_none]
  rw [columnNames_append_of_ne (c := c) rfl hne, hkey]

/-- Removing an index takes its entry away. -/
theorem entryOf?_removeIndex (hc : c.Distinct) {i : IdxRow} (hi : i ∈ c.idxs) (id : ObjectId)
    (name : String) :
  (c.removeIndex i).entryOf? id name
    = if id = i.tableId ∧ name = i.name then none else c.entryOf? id name
  := by
  split
  · rename_i h
    obtain ⟨rfl, rfl⟩ := h
    rw [entryOf?_eq_none_iff, Option.eq_none_iff_forall_ne_some]
    intro j hj
    obtain ⟨hmem, htable, hname⟩ := index_of_index? hj
    obtain ⟨hmem, hid⟩ := List.mem_filter.mp hmem
    apply of_decide_eq_true hid
    apply congrArg
    apply List.inj_on_of_nodup_map hc.indexNames hmem hi
    rw [htable, hname]
  · rename_i h
    have hindex : (c.removeIndex i).index? id name = c.index? id name := by
      ext j
      rw [(hc.removeIndex i).index?_eq_some_iff, hc.index?_eq_some_iff]
      apply and_congr_left
      rintro ⟨rfl, rfl⟩
      rw [removeIndex, List.mem_filter]
      apply and_iff_left_of_imp
      intro hj
      apply decide_eq_true
      intro hid
      obtain rfl := hc.index_eq hj hi hid
      apply h ⟨rfl, rfl⟩
    rw [entryOf?, entryOf?, hindex]
    apply Option.map_congr
    intro j hj
    obtain ⟨hmem, rfl, rfl⟩ := index_of_index? hj
    have hne : j.id ≠ i.id := by
      intro hid
      obtain rfl := hc.index_eq hmem hi hid
      apply h ⟨rfl, rfl⟩
    rw [columnNames_filter_of_ne (c := c) rfl hne]
    rfl

/-- Removing a key that no index has the name of changes no entry. -/
theorem entryOf?_removeKey (hc : c.Distinct) {k : KeyRow} (hk : k ∈ c.keys)
    (hname : c.index? k.tableId k.name = none) (id : ObjectId) (name : String) :
  (c.removeKey k).entryOf? id name = c.entryOf? id name
  := by
  apply Option.map_congr
  intro j hj
  obtain ⟨hmem, rfl, rfl⟩ := index_of_index? (c := c) hj
  have hkey : (c.removeKey k).key? j = c.key? j := by
    ext k'
    rw [key?_eq, key?_eq, (hc.removeKey k).keyNamed?_eq_some_iff, hc.keyNamed?_eq_some_iff]
    apply and_congr_left
    rintro ⟨htable, hkname⟩
    rw [removeKey, List.mem_filter]
    apply and_iff_left_of_imp
    intro hk'
    apply decide_eq_true
    intro hid
    obtain rfl := hc.key_eq hk' hk hid
    rw [index?_eq_none_iff, htable, hkname] at hname
    apply hname (List.mem_map_of_mem hmem)
  rw [columnNames_filter_of_ne (c := c) rfl (hc.key_ne_index hk hmem).symm, hkey]

/-! ### Keys and the indexes that back them -/

/-- A key that is recorded is found by its name. -/
theorem keyNamed?_addKey {k : KeyRow} (hname : c.keyNamed? k.tableId k.name = none)
    (columns : List String) :
  (c.addKey k columns).keyNamed? k.tableId k.name = some k
  := by
  rw [keyNamed?] at hname
  rw [keyNamed?, addKey, List.find?_append, hname, Option.none_or, List.find?_singleton,
    if_pos (decide_eq_true ⟨rfl, rfl⟩)]

theorem Unused.addKey {k : KeyRow} {id : ObjectId} (h : c.Unused id) (hne : k.id ≠ id)
    (columns : List String) :
  (c.addKey k columns).Unused id
  := by
  constructor
  · simp only [KeyCatalog.addKey, List.map_append, List.mem_append, List.map_cons, List.map_nil,
      List.mem_singleton, not_or]
    exact ⟨h.keys, hne.symm⟩
  · apply h.idxs
  · simp only [KeyCatalog.addKey, List.map_append, List.mem_append, not_or]
    use h.objects
    intro hid
    obtain ⟨o, ho, rfl⟩ := List.mem_map.mp hid
    obtain ⟨nr, hnr, rfl⟩ := List.mem_mapIdx.mp ho
    apply hne rfl

/-- A key and the index that backs it are new, and so is their name. -/
structure NewKey (c : KeyCatalog) (k : KeyRow) (index : ObjectId) : Prop where
  key : c.Unused k.id
  backing : c.Unused index
  ne : k.id ≠ index
  keyName : c.keyNamed? k.tableId k.name = none
  indexName : c.index? k.tableId k.name = none

/-- Recording a key and its index adds the entry of the index. -/
theorem entryOf?_addBackedKey {k : KeyRow} {index : ObjectId} (h : c.NewKey k index)
    (columns : List String) (id : ObjectId) (name : String) :
  (c.addBackedKey k index columns).entryOf? id name
    = if id = k.tableId ∧ name = k.name then
        some ⟨columns, some k.type⟩
      else
        c.entryOf? id name
  := by
  rw [addBackedKey, entryOf?_addIndex (h.backing.addKey h.ne columns) h.indexName,
    keyNamed?_addKey h.keyName, entryOf?_addKey h.key h.indexName]
  rfl

theorem Distinct.addBackedKey (hc : c.Distinct) {k : KeyRow} {index : ObjectId}
    (h : c.NewKey k index) (columns : List String) :
  (c.addBackedKey k index columns).Distinct
  := by
  apply Distinct.addIndex
  · apply hc.addKey h.key h.keyName
  · apply h.backing.addKey h.ne
  · apply h.indexName

/-- A catalog as the server keeps it: every key is backed by an index of its name and its columns,
except that no index has the name of a check. -/
structure Kept (c : KeyCatalog) : Prop extends c.Distinct where
  backed : ∀ k ∈ c.keys, k.type ≠ keyTypeCheck →
    c.columnNames k.id ≠ [] ∧
      c.entryOf? k.tableId k.name = some ⟨c.columnNames k.id, some k.type⟩
  checks : ∀ k ∈ c.keys, k.type = keyTypeCheck → c.entryOf? k.tableId k.name = none

/-- Removing a key and its index takes the entry of its name away. -/
theorem entryOf?_removeBackedKey (hc : c.Kept) {k : KeyRow} (hk : k ∈ c.keys) (id : ObjectId)
    (name : String) :
  (c.removeBackedKey k).entryOf? id name
    = if id = k.tableId ∧ name = k.name then none else c.entryOf? id name
  := by
  have hkeep : c.index? k.tableId k.name = none →
      (c.removeKey k).entryOf? id name
        = if id = k.tableId ∧ name = k.name then none else c.entryOf? id name := by
    intro hnone
    rw [entryOf?_removeKey hc.toDistinct hk hnone]
    split
    · rename_i h
      obtain ⟨rfl, rfl⟩ := h
      apply (entryOf?_eq_none_iff _ _ _).mpr hnone
    · rfl
  rw [removeBackedKey]
  split
  · rename_i i hi
    split at hi
    · cases hi
    · obtain ⟨hmem, htable, hname⟩ := index_of_index? hi
      have hnone : (c.removeIndex i).index? k.tableId k.name = none := by
        rw [← entryOf?_eq_none_iff, entryOf?_removeIndex hc.toDistinct hmem,
          if_pos ⟨htable.symm, hname.symm⟩]
      rw [entryOf?_removeKey (hc.toDistinct.removeIndex i) hk hnone,
        entryOf?_removeIndex hc.toDistinct hmem, htable, hname]
  · rename_i hi
    apply hkeep
    split at hi
    · rename_i htype
      apply (entryOf?_eq_none_iff _ _ _).mp
      apply hc.checks k hk htype
    · apply hi

/-- A catalog stays as it is kept while its keys keep their columns and their entries. -/
theorem Kept.congr {c' : KeyCatalog} (hc : c.Kept) (hc' : c'.Distinct)
    (h : ∀ k ∈ c'.keys, k ∈ c.keys ∧ c'.columnNames k.id = c.columnNames k.id ∧
      c'.entryOf? k.tableId k.name = c.entryOf? k.tableId k.name) :
  c'.Kept
  := by
  use hc'
  · intro k hk htype
    obtain ⟨hmem, hcolumns, hentry⟩ := h k hk
    rw [hcolumns, hentry]
    apply hc.backed k hmem htype
  · intro k hk htype
    obtain ⟨hmem, -, hentry⟩ := h k hk
    rw [hentry]
    apply hc.checks k hmem htype

theorem Unused.key_ne {id : ObjectId} (h : c.Unused id) {k : KeyRow} (hk : k ∈ c.keys) :
  k.id ≠ id
  := by
  rintro rfl
  apply h.keys (List.mem_map_of_mem hk)

/-- A name that no index and no check has is not that of a key. -/
theorem Kept.keyNamed?_eq_none (hc : c.Kept) {id : ObjectId} {name : String}
    (hname : c.index? id name = none)
    (hcheck : ∀ k ∈ c.keyNamed? id name, k.type ≠ keyTypeCheck) :
  c.keyNamed? id name = none
  := by
  rw [Option.eq_none_iff_forall_ne_some]
  intro k hk
  obtain ⟨hmem, rfl, rfl⟩ := (hc.keyNamed?_eq_some_iff id name k).mp hk
  have hentry := (hc.backed k hmem (hcheck k hk)).2
  rw [(entryOf?_eq_none_iff _ _ _).mpr hname] at hentry
  cases hentry

theorem Kept.addIndex (hc : c.Kept) {i : IdxRow} (hid : c.Unused i.id)
    (hname : c.index? i.tableId i.name = none) (hkey : c.keyNamed? i.tableId i.name = none)
    (columns : List String) :
  (c.addIndex i columns).Kept
  := by
  apply hc.congr (hc.toDistinct.addIndex hid hname columns)
  intro k hk
  use hk, columnNames_append_of_ne (c := c) rfl (hid.key_ne hk)
  rw [entryOf?_addIndex hid hname, if_neg]
  rintro ⟨htable, hkname⟩
  apply (keyNamed?_eq_none_iff _ _ _).mp hkey k hk htable hkname

theorem Kept.removeIndex (hc : c.Kept) {i : IdxRow} (hi : i ∈ c.idxs)
    (hkey : c.keyNamed? i.tableId i.name = none) :
  (c.removeIndex i).Kept
  := by
  apply hc.congr (hc.toDistinct.removeIndex i)
  intro k hk
  use hk, columnNames_filter_of_ne (c := c) rfl (hc.key_ne_index hk hi)
  rw [entryOf?_removeIndex hc.toDistinct hi, if_neg]
  rintro ⟨htable, hname⟩
  apply (keyNamed?_eq_none_iff _ _ _).mp hkey k hk htable hname

theorem Kept.addBackedKey (hc : c.Kept) {k : KeyRow} {index : ObjectId} (h : c.NewKey k index)
    (htype : k.type ≠ keyTypeCheck) {columns : List String} (hcolumns : columns ≠ []) :
  (c.addBackedKey k index columns).Kept
  := by
  have hold : ∀ k' ∈ c.keys, (c.addBackedKey k index columns).columnNames k'.id
        = c.columnNames k'.id ∧
      (c.addBackedKey k index columns).entryOf? k'.tableId k'.name
        = c.entryOf? k'.tableId k'.name := by
    intro k' hk'
    constructor
    · rw [KeyCatalog.addBackedKey,
        columnNames_append_of_ne (c := c.addKey k columns) rfl (h.backing.key_ne hk'),
        columnNames_append_of_ne (c := c) rfl (h.key.key_ne hk')]
    · rw [entryOf?_addBackedKey h, if_neg]
      rintro ⟨htable, hname⟩
      apply (keyNamed?_eq_none_iff _ _ _).mp h.keyName k' hk' htable hname
  have hnew : (c.addBackedKey k index columns).columnNames k.id = columns := by
    rw [KeyCatalog.addBackedKey, columnNames_append_of_ne (c := c.addKey k columns) rfl h.ne,
      columnNames_self (c := c) rfl h.key.objects]
  use hc.toDistinct.addBackedKey h columns
  · intro k' hk' htype'
    obtain hk' | rfl := List.mem_append.mp hk' |>.imp_right List.mem_singleton.mp
    · obtain ⟨hnames, hentry⟩ := hold k' hk'
      rw [hnames, hentry]
      apply hc.backed k' hk' htype'
    · rw [hnew, entryOf?_addBackedKey h, if_pos ⟨rfl, rfl⟩]
      exact ⟨hcolumns, rfl⟩
  · intro k' hk' htype'
    obtain hk' | rfl := List.mem_append.mp hk' |>.imp_right List.mem_singleton.mp
    · rw [(hold k' hk').2]
      apply hc.checks k' hk' htype'
    · apply absurd htype' htype

theorem Kept.removeBackedKey (hc : c.Kept) {k : KeyRow} (hk : k ∈ c.keys) :
  (c.removeBackedKey k).Kept
  := by
  have hdistinct : (c.removeBackedKey k).Distinct ∧
      ∀ k' ∈ (c.removeBackedKey k).keys, k' ∈ c.keys ∧ k'.id ≠ k.id ∧
        (c.removeBackedKey k).columnNames k'.id = c.columnNames k'.id := by
    rw [KeyCatalog.removeBackedKey]
    split
    · rename_i i hi
      use (hc.toDistinct.removeIndex i).removeKey k
      intro k' hk'
      obtain ⟨hmem, hid⟩ := List.mem_filter.mp hk'
      split at hi
      · cases hi
      · have hne := of_decide_eq_true hid
        use hmem, hne
        rw [columnNames_filter_of_ne (c := c.removeIndex i) rfl hne,
          columnNames_filter_of_ne (c := c) rfl (hc.key_ne_index hmem (index_of_index? hi).1)]
    · use hc.toDistinct.removeKey k
      intro k' hk'
      obtain ⟨hmem, hid⟩ := List.mem_filter.mp hk'
      have hne := of_decide_eq_true hid
      use hmem, hne
      apply columnNames_filter_of_ne (c := c) rfl hne
  apply hc.congr hdistinct.1
  intro k' hk'
  obtain ⟨hmem, hne, hcolumns⟩ := hdistinct.2 k' hk'
  use hmem, hcolumns
  rw [entryOf?_removeBackedKey hc hk, if_neg]
  rintro ⟨htable, hname⟩
  apply hne
  apply congrArg
  apply List.inj_on_of_nodup_map hc.keyNames hmem hk
  rw [htable, hname]

/-! ### What is reported -/

theorem Kept.wellFormed (hc : c.Kept) :
  c.WellFormed
  := by
  constructor
  · apply hc.keyNames
  · apply hc.indexNames
  · intro k hk htype
    have hne : k.type ≠ keyTypeCheck := by
      rw [htype]
      decide
    obtain ⟨name, hname⟩ := List.exists_mem_of_ne_nil _ (hc.backed k hk hne).1
    obtain ⟨o, ho, -⟩ := List.mem_map.mp hname
    rw [Query.mem_orderBy, List.mem_filter] at ho
    exact ⟨o, ho.1, of_decide_eq_true ho.2⟩

/-- Grouping by name reports the entry of each name. -/
theorem Kept.get?_indexDict_eq (hc : c.Kept) (id : ObjectId) (name : String) :
  (c.indexDict id).get? name = (c.entryOf? id name).bind fun e => e.reflected name
  := by
  rw [get?_indexDict, entryOf?]
  cases hindex : c.index? id name with
  | none =>
      have hrows : (indexRows c [id]).filter (fun r => r.1.1.name = name) = [] := by
        rw [List.filter_eq_nil_iff]
        rintro ⟨⟨i, o⟩, key⟩ hr hname
        rw [indexRows, Query.mem_orderBy, List.mem_filter] at hr
        obtain ⟨hjoin, hselect⟩ := hr
        have hi := (Query.mem_innerJoin _ _ _ _ _).mp (Query.mem_of_mem_leftJoin hjoin)
        apply (index?_eq_none_iff _ _ _).mp hindex
        rw [← List.mem_singleton.mp (of_decide_eq_true hselect).1, ← of_decide_eq_true hname]
        apply List.mem_map_of_mem hi.1
      rw [hrows]
      rfl
  | some i =>
      obtain ⟨hi, rfl, rfl⟩ := index_of_index? hindex
      have hcolumns : c.columnNames i.id = (c.indexColumns i).map ObjectRow.name := rfl
      rw [hc.wellFormed.filter_indexRows hi, Option.map_some, Option.bind_some,
        IndexEntry.reflected, hcolumns]
      cases hkey : c.key? i with
      | none => cases c.indexColumns i <;> simp [reflectedIndex]
      | some k =>
          by_cases htype : k.type = keyTypeUnique
          · cases c.indexColumns i <;> simp [reflectedIndex, htype]
          · simp [htype]

theorem name_of_reflected {e : IndexEntry} {name : String} {index : ReflectedIndex}
    (h : e.reflected name = some index) :
  index.name = name
  := by
  rw [IndexEntry.reflected] at h
  split at h
  · rw [← Option.some.inj h]
  · cases h

theorem Kept.mem_indexDict (hc : c.Kept) (id : ObjectId) (index : ReflectedIndex) :
  index ∈ (c.indexDict id).values ↔
    ∃ e, c.entryOf? id index.name = some e ∧ e.reflected index.name = some index
  := by
  rw [Dict.mem_values_iff]
  constructor
  · rintro ⟨name, hname⟩
    rw [hc.get?_indexDict_eq] at hname
    obtain ⟨e, he, hreflected⟩ := Option.bind_eq_some_iff.mp hname
    rw [name_of_reflected hreflected]
    exact ⟨e, he, hreflected⟩
  · rintro ⟨e, he, hreflected⟩
    use index.name
    rw [hc.get?_indexDict_eq, he, Option.bind_some, hreflected]

/-- The names that rows are grouped by are sorted when the rows are sorted by name. -/
theorem sorted_keys_groupBy {ρ γ : Type} {key : ρ → String} {step : ρ → Option γ → γ}
    {rows : List ρ} (h : rows.Pairwise fun r r' => key r ≤ key r') :
  (Dict.groupBy key step rows).keys.Pairwise (· < ·)
  := by
  have hle : (Dict.groupBy key step rows).keys.Pairwise (· ≤ ·) := by
    apply List.Pairwise.sublist (Dict.sublist_keys_groupBy key step rows)
    apply List.pairwise_map.mpr h
  apply List.Pairwise.imp₂ _ hle (Dict.keys_nodup _)
  intro a b hab hne
  apply lt_of_le_of_ne hab hne

/-- The rows of one table, sorted by table, name and position, are sorted by name. -/
theorem pairwise_name_orderBy {ρ : Type} {table : ρ → ObjectId} {name : ρ → String} {nr : ρ → Int}
    {rows : List ρ} {id : ObjectId} (h : ∀ r ∈ rows, table r = id) :
  (Query.orderBy (fun r => toLex (table r, toLex (name r, nr r))) rows).Pairwise
    fun r r' => name r ≤ name r'
  := by
  apply (Query.orderBy_sorted _ rows).imp_of_mem
  intro r r' hr hr' hle
  rw [Query.mem_orderBy] at hr hr'
  rw [Prod.Lex.toLex_le_toLex, h r hr, h r' hr', Prod.Lex.toLex_le_toLex] at hle
  obtain hlt | ⟨-, hlt | heq⟩ := hle
  · apply absurd hlt (lt_irrefl id)
  · apply hlt.le
  · apply heq.1.le

theorem sorted_indexDict (c : KeyCatalog) (id : ObjectId) :
  ((c.indexDict id).values.map ReflectedIndex.name).Pairwise (· < ·)
  := by
  rw [map_name_indexDict]
  apply sorted_keys_groupBy
  apply pairwise_name_orderBy
  intro r hr
  apply List.mem_singleton.mp (of_decide_eq_true (List.mem_filter.mp hr).2).1

/-- The unique constraints of a table, by their names. -/
def uniqueDict (c : KeyCatalog) (id : ObjectId) : Dict String (List String) :=
  Dict.groupBy (fun r => r.1.name) addUniqueColumn (uniqueRows c [id])

theorem sorted_uniqueDict (c : KeyCatalog) (id : ObjectId) :
  (c.uniqueDict id).keys.Pairwise (· < ·)
  := by
  apply sorted_keys_groupBy
  apply pairwise_name_orderBy
  intro r hr
  apply List.mem_singleton.mp (of_decide_eq_true (List.mem_filter.mp hr).2).1

/-- The rows of the unique key of a name. -/
theorem Kept.filter_uniqueRows (hc : c.Kept) (id : ObjectId) (name : String) :
  (uniqueRows c [id]).filter (fun r => r.1.name = name)
    = (((c.keyNamed? id name).filter fun k => k.type = keyTypeUnique).toList).flatMap fun k =>
        (Query.orderBy ObjectRow.nr (c.objects.filter fun o => k.id = o.id)).map (Prod.mk k)
  := by
  have hkeys : c.keys.filter (fun k => (k.name = name ∧ k.tableId = id) ∧ k.type = keyTypeUnique)
      = ((c.keyNamed? id name).filter fun k => k.type = keyTypeUnique).toList := by
    have hfilter : c.keys.filter (fun k => k.name = name ∧ k.tableId = id)
        = (c.keyNamed? id name).toList := hc.wellFormed.filter_keys ⟨0, id, name⟩
    rw [Option.toList_filter, ← hfilter, List.filter_filter]
    apply List.filter_congr
    intro k _
    simp [and_comm]
  have hrows : (keyColumns keyTypeUnique c [id]).filter (fun r => r.1.name = name)
      = Query.innerJoin (fun k o => k.id = o.id)
          (((c.keyNamed? id name).filter fun k => k.type = keyTypeUnique).toList) c.objects := by
    rw [← hkeys, ← Query.filter_innerJoin, keyColumns, List.filter_filter]
    apply List.filter_congr
    intro r _
    simp [and_assoc]
  rw [uniqueRows, Query.filter_orderBy, hrows]
  cases (c.keyNamed? id name).filter fun k => k.type = keyTypeUnique with
  | none => rfl
  | some k =>
      simp only [Option.toList_some, Query.innerJoin, List.flatMap_singleton]
      symm
      apply Query.map_orderBy
      intro a _ b _
      simp [Prod.Lex.toLex_le_toLex]

/-- An entry says which key has its name. -/
theorem backs_of_entryOf? {id : ObjectId} {name : String} {e : IndexEntry}
    (h : c.entryOf? id name = some e) :
  e.backs = (c.keyNamed? id name).map KeyRow.type
  := by
  obtain ⟨i, hi, rfl⟩ := Option.map_eq_some_iff.mp h
  obtain ⟨-, rfl, rfl⟩ := index_of_index? hi
  rfl

/-- Grouping by name reports the columns of each unique key. -/
theorem Kept.get?_uniqueDict (hc : c.Kept) (id : ObjectId) (name : String) :
  (c.uniqueDict id).get? name
    = (c.entryOf? id name).bind fun e =>
        if e.backs = some keyTypeUnique then some e.columns else none
  := by
  rw [uniqueDict, Dict.get?_groupBy, hc.filter_uniqueRows]
  cases hkey : (c.keyNamed? id name).filter fun k => k.type = keyTypeUnique with
  | none =>
      symm
      rw [Option.toList_none, List.flatMap_nil, Dict.foldGroup_nil, Option.bind_eq_none_iff]
      intro e he
      apply if_neg
      rw [backs_of_entryOf? he, Option.map_eq_some_iff]
      rintro ⟨k, hk, htype⟩
      rw [hk, Option.filter_some, if_pos (decide_eq_true htype)] at hkey
      cases hkey
  | some k =>
      obtain ⟨hk, htype⟩ := Option.filter_eq_some_iff.mp hkey
      have htype := of_decide_eq_true htype
      obtain ⟨hmem, rfl, rfl⟩ := (hc.keyNamed?_eq_some_iff id name k).mp hk
      have hcheck : k.type ≠ keyTypeCheck := by
        rw [htype]
        decide
      obtain ⟨hne, hentry⟩ := hc.backed k hmem hcheck
      rw [hentry, Option.bind_some, if_pos (congrArg some htype), Option.toList_some,
        List.flatMap_singleton]
      have hrows : (Query.orderBy ObjectRow.nr (c.objects.filter fun o => k.id = o.id)).map
          (Prod.mk k) ≠ [] := by
        intro hnil
        apply hne
        rw [columnNames, List.map_eq_nil_iff.mp hnil, List.map_nil]
      apply (Dict.foldGroup_append_of_ne_nil (fun r : KeyRow × ObjectRow => r.2.name) hrows).trans
      rw [List.map_map]
      rfl

theorem Kept.mem_uniqueDict (hc : c.Kept) (id : ObjectId) (name : String)
    (columns : List String) :
  (name, columns) ∈ (c.uniqueDict id).items ↔
    c.entryOf? id name = some ⟨columns, some keyTypeUnique⟩
  := by
  rw [Dict.mem_items_iff, hc.get?_uniqueDict, Option.bind_eq_some_iff]
  constructor
  · rintro ⟨⟨columns', backs⟩, he, h⟩
    split at h
    · rename_i hbacks
      rw [he, ← Option.some.inj h, ← hbacks]
    · cases h
  · intro he
    exact ⟨_, he, if_pos rfl⟩

end KeyCatalog

end MonetDB
