import MonetdbAdbc.Dialect.Ddl
import MonetdbAdbc.Library.Machine

/-!
# Creating all tables

MonetDB accepts a foreign key when the table that it refers to exists, which the table that
is being created does not yet, and when it has not been created before.

`run_createAll_iff` says that the statements of `create_all` are accepted one after the other
exactly when the tables on a cycle with another table have no self-referential key that is not
`use_alter`, and what exists afterwards.
-/

namespace MonetDB

/-- What exists in a database. -/
structure SchemaState where
  tables : List TableId
  constraints : List ForeignKeyConstraint
deriving DecidableEq, Repr

/-- The table that a statement creates. -/
def DdlStatement.tables : DdlStatement → List TableId
  | .createTable table _ => [table]
  | .addConstraint _ => []

/-- The tables that a statement needs exist, and the one that it creates does not. -/
def DdlStatement.Ready (metadata : MetaData) (tables : List TableId) : DdlStatement → Prop
  | .createTable table constraints =>
      table ∉ tables ∧ ∀ fkc ∈ constraints, fkc.referredTable ∈ tables
  | .addConstraint fkc =>
      (∀ t ∈ metadata.tables, fkc ∈ t.foreignKeyConstraints → t.identity ∈ tables) ∧
        fkc.referredTable ∈ tables

instance (metadata : MetaData) (tables : List TableId) (statement : DdlStatement) :
    Decidable (statement.Ready metadata tables) :=
  match statement with
  | .createTable table constraints =>
      inferInstanceAs (Decidable (table ∉ tables ∧ ∀ fkc ∈ constraints, fkc.referredTable ∈ tables))
  | .addConstraint fkc =>
      inferInstanceAs (Decidable
        ((∀ t ∈ metadata.tables, fkc ∈ t.foreignKeyConstraints → t.identity ∈ tables) ∧
          fkc.referredTable ∈ tables))

namespace SchemaState

variable (metadata : MetaData)

/-- What exists after a statement, if it is accepted. -/
def execute (s : SchemaState) (statement : DdlStatement) : Option SchemaState :=
  if statement.Ready metadata s.tables ∧ (s.constraints ++ statement.created).Nodup then
    some ⟨s.tables ++ statement.tables, s.constraints ++ statement.created⟩
  else
    none

/-- What exists after all statements, if each is accepted. -/
def run (s : SchemaState) (statements : List DdlStatement) : Option SchemaState :=
  statements.foldlM (execute metadata) s

/-- The tables that exist as statements are made. -/
def tablesMachine : Machine (List TableId) DdlStatement Unit where
  step tables statement := ((), tables ++ statement.tables)

/-- Statements are accepted when each is ready and no foreign key is created twice. -/
theorem run_eq_some_iff (s after : SchemaState) (hs : s.constraints.Nodup)
    (statements : List DdlStatement) :
  s.run metadata statements = some after ↔
    tablesMachine.Along (fun tables statement => statement.Ready metadata tables) s.tables
        statements ∧
      (s.constraints ++ statements.flatMap DdlStatement.created).Nodup ∧
      after = ⟨tablesMachine.final s.tables statements,
        s.constraints ++ statements.flatMap DdlStatement.created⟩
  := by
  induction statements generalizing s with
  | nil => simp [run, Machine.Along, hs, eq_comm]
  | cons statement statements ih =>
      have hnodup :
          (s.constraints ++ (statement :: statements).flatMap DdlStatement.created).Nodup →
            (s.constraints ++ statement.created).Nodup := by
        rw [List.flatMap_cons, ← List.append_assoc]
        apply List.Nodup.of_append_left
      rw [run, List.foldlM_cons, execute]
      by_cases h : statement.Ready metadata s.tables ∧ (s.constraints ++ statement.created).Nodup
      · rw [if_pos h]
        have hnext := ih ⟨s.tables ++ statement.tables, s.constraints ++ statement.created⟩ h.2
        rw [run] at hnext
        apply hnext.trans
        rw [List.flatMap_cons, ← List.append_assoc]
        constructor
        · rintro ⟨halong, hall, hafter⟩
          exact ⟨⟨h.1, halong⟩, hall, hafter⟩
        · rintro ⟨⟨-, halong⟩, hall, hafter⟩
          exact ⟨halong, hall, hafter⟩
      · rw [if_neg h]
        constructor
        · intro hnone
          cases hnone
        · rintro ⟨⟨hready, -⟩, hall, -⟩
          exact absurd ⟨hready, hnodup hall⟩ h

@[simp]
theorem final_addConstraints (tables : List TableId) (fkcs : List ForeignKeyConstraint) :
  tablesMachine.final tables (fkcs.map .addConstraint) = tables
  := by
  induction fkcs generalizing tables with
  | nil => rfl
  | cons fkc fkcs ih =>
      rw [List.map_cons, Machine.final_cons, ih]
      apply List.append_nil

/-- Adding foreign keys does not change which tables exist. -/
theorem along_addConstraints (P : List TableId → DdlStatement → Prop) (tables : List TableId)
    (fkcs : List ForeignKeyConstraint) :
  tablesMachine.Along P tables (fkcs.map .addConstraint) ↔
    ∀ fkc ∈ fkcs, P tables (.addConstraint fkc)
  := by
  induction fkcs with
  | nil => simp [Machine.Along]
  | cons fkc fkcs ih =>
      have hnext : tablesMachine.next tables (.addConstraint fkc) = tables := List.append_nil _
      rw [List.map_cons, List.forall_mem_cons, ← ih, Machine.Along, hnext]

end SchemaState

/-! ### The tables are ready -/

/-- The tables of the metadata can be created next to what exists: they are new, the tables that
they refer to exist or are created too, and the order is the one that SQLAlchemy promises. -/
structure Creatable (metadata : MetaData) (s : SchemaState) : Prop where
  fresh : ∀ t ∈ metadata.tables, t.identity ∉ s.tables
  unused : ∀ t ∈ metadata.tables, ∀ fkc ∈ t.foreignKeyConstraints, fkc ∉ s.constraints
  nodup : s.constraints.Nodup
  referred : ∀ t ∈ metadata.tables, ∀ fkc ∈ t.foreignKeyConstraints,
    fkc.referredTable ∈ s.tables ++ metadata.tables.map Table.identity
  /-- A table that is not on a cycle comes after the tables that it refers to. -/
  ordered : ∀ pre t post, metadata.tables = pre ++ t :: post → ¬ OnCycle metadata t.identity →
    ∀ fkc ∈ t.foreignKeyConstraints, ¬ fkc.useAlter → fkc.referredTable ≠ t.identity →
      fkc.referredTable ∈ s.tables ++ pre.map Table.identity

section Ready

open SchemaState

variable {metadata : MetaData} (generator : SchemaGenerator metadata)

/-- Creating a table leaves that table more. -/
theorem final_visitTable (tables : List TableId) (t : Table) :
  tablesMachine.final tables (generator.visitTable "monetdb" t) = tables ++ [t.identity]
  := by
  rw [SchemaGenerator.visitTable, addSelfReferentialForeignKeys, if_neg (not_not.mpr rfl),
    Machine.final_cons, final_addConstraints]
  rfl

theorem final_visitTables (tables : List TableId) (ts : List Table) :
  tablesMachine.final tables (ts.flatMap (generator.visitTable "monetdb"))
    = tables ++ ts.map Table.identity
  := by
  induction ts generalizing tables with
  | nil => simp
  | cons t ts ih =>
      rw [List.flatMap_cons, Machine.final_append, final_visitTable, ih, List.append_assoc]
      rfl

theorem final_createAll (tables : List TableId) :
  tablesMachine.final tables (generator.createAll "monetdb")
    = tables ++ metadata.tables.map Table.identity
  := by
  rw [SchemaGenerator.createAll, Machine.final_append, final_addConstraints, final_visitTables]

variable {s : SchemaState}

/-- A table owns a foreign key alone. -/
theorem eq_of_mem_foreignKeyConstraints {t u : Table} (ht : t ∈ metadata.tables)
    (hu : u ∈ metadata.tables) {fkc : ForeignKeyConstraint} (hfkc : fkc ∈ t.foreignKeyConstraints)
    (hfkc' : fkc ∈ u.foreignKeyConstraints) :
  u = t
  := by
  by_contra hne
  have : Std.Symm (Function.onFun List.Disjoint Table.foreignKeyConstraints) :=
    ⟨fun _ _ h _ ha hb => h hb ha⟩
  apply (List.nodup_flatMap.mp metadata.nodup).2.forall hu ht hne hfkc' hfkc

/-- A foreign key can be added once its table and the one it refers to exist. -/
theorem ready_addConstraint {t : Table} (ht : t ∈ metadata.tables) {fkc : ForeignKeyConstraint}
    (hfkc : fkc ∈ t.foreignKeyConstraints) {tables : List TableId} (htable : t.identity ∈ tables)
    (hreferred : fkc.referredTable ∈ tables) :
  (DdlStatement.addConstraint fkc).Ready metadata tables
  := by
  refine ⟨?_, hreferred⟩
  intro u hu hmem
  rwa [eq_of_mem_foreignKeyConstraints ht hu hfkc hmem]

/-- The statements that create a table are accepted after those for the tables before it. -/
theorem along_visitTable (h : Creatable metadata s) {pre post : List Table} {t : Table}
    (hsplit : metadata.tables = pre ++ t :: post) :
  tablesMachine.Along (fun tables statement => statement.Ready metadata tables)
    (s.tables ++ pre.map Table.identity) (generator.visitTable "monetdb" t)
  := by
  have ht : t ∈ metadata.tables := by
    rw [hsplit]
    simp
  rw [SchemaGenerator.visitTable, addSelfReferentialForeignKeys, if_neg (not_not.mpr rfl)]
  constructor
  · constructor
    · rw [List.mem_append, not_or]
      refine ⟨h.fresh t ht, ?_⟩
      have hdistinct := metadata.distinct
      rw [hsplit, List.map_append, List.map_cons, List.nodup_middle, List.nodup_cons] at hdistinct
      intro hmem
      apply hdistinct.1 (List.mem_append_left _ hmem)
    · intro fkc hfkc
      rw [createTableConstraints_included, List.mem_filter, decide_eq_true_eq] at hfkc
      obtain ⟨hmem, hdeferred, hself, halter⟩ := hfkc
      have hcycle : ¬ OnCycle metadata t.identity := fun hcycle =>
        hdeferred ((generator.deferred_iff t ht fkc hmem).mpr (.inr hcycle))
      apply h.ordered pre t post hsplit hcycle fkc hmem halter hself
  · rw [along_addConstraints]
    intro fkc hfkc
    obtain ⟨hmem, hself⟩ := List.mem_filter.mp hfkc
    have hself : fkc.referredTable = t.identity := (of_decide_eq_true hself).1
    have htable : t.identity ∈ s.tables ++ pre.map Table.identity ++ [t.identity] := by simp
    apply ready_addConstraint ht hmem htable
    rw [hself]
    apply htable

theorem along_visitTables (h : Creatable metadata s) (pre ts : List Table)
    (hsplit : metadata.tables = pre ++ ts) :
  tablesMachine.Along (fun tables statement => statement.Ready metadata tables)
    (s.tables ++ pre.map Table.identity) (ts.flatMap (generator.visitTable "monetdb"))
  := by
  induction ts generalizing pre with
  | nil => trivial
  | cons t ts ih =>
      rw [List.flatMap_cons, Machine.along_append, final_visitTable]
      refine ⟨along_visitTable generator h hsplit, ?_⟩
      have hnext := ih (pre ++ [t]) (by rw [hsplit, List.append_assoc, List.singleton_append])
      rwa [List.map_append, ← List.append_assoc] at hnext

/-- The tables that a statement of `create_all` needs exist by then. -/
theorem along_createAll (h : Creatable metadata s) :
  tablesMachine.Along (fun tables statement => statement.Ready metadata tables) s.tables
    (generator.createAll "monetdb")
  := by
  rw [SchemaGenerator.createAll, Machine.along_append, final_visitTables, along_addConstraints]
  constructor
  · have hall := along_visitTables generator h [] metadata.tables rfl
    rwa [List.map_nil, List.append_nil] at hall
  · intro fkc hfkc
    obtain ⟨t, ht, hmem⟩ := List.mem_flatMap.mp hfkc
    have hmem := List.mem_of_mem_filter hmem
    apply ready_addConstraint ht hmem
    · apply List.mem_append_right _ (List.mem_map_of_mem ht)
    · apply h.referred t ht fkc hmem

end Ready

/-! ### No foreign key is created twice -/

section Created

variable {metadata : MetaData} (generator : SchemaGenerator metadata)

/-- Only foreign keys of the metadata are created. -/
theorem exists_of_mem_created {fkc : ForeignKeyConstraint}
    (h : fkc ∈ (generator.createAll "monetdb").flatMap DdlStatement.created) :
  ∃ t ∈ metadata.tables, fkc ∈ t.foreignKeyConstraints
  := by
  have hadded : ∀ fkcs : List ForeignKeyConstraint,
      (fkcs.map DdlStatement.addConstraint).flatMap DdlStatement.created = fkcs := by
    intro fkcs
    rw [List.flatMap_map]
    apply List.flatMap_singleton' fkcs
  rw [SchemaGenerator.createAll, List.flatMap_append, hadded, List.flatMap_assoc, List.mem_append,
    List.mem_flatMap, List.mem_flatMap] at h
  rcases h with ⟨t, ht, hmem⟩ | ⟨t, ht, hmem⟩
  · rw [created_visitTable, List.mem_append] at hmem
    rcases hmem with hmem | hmem <;> exact ⟨t, ht, List.mem_of_mem_filter hmem⟩
  · exact ⟨t, ht, List.mem_of_mem_filter hmem⟩

/-- No foreign key is created twice when no table on a cycle with another one has a
self-referential key that is not `use_alter`. -/
theorem nodup_created_iff :
  ((generator.createAll "monetdb").flatMap DdlStatement.created).Nodup ↔
    ∀ t ∈ metadata.tables, OnCycle metadata t.identity →
      ∀ fkc ∈ t.foreignKeyConstraints, fkc.referredTable = t.identity → fkc.useAlter
  := by
  rw [List.nodup_iff_count_le_one]
  constructor
  · intro h t ht hcycle fkc hfkc hself
    by_contra halter
    have hdeferred := (generator.deferred_iff t ht fkc hfkc).mpr (.inr hcycle)
    have hhook : (if fkc.referredTable = t.identity ∧ ¬ fkc.useAlter then 1 else 0) = 1 :=
      if_pos ⟨hself, halter⟩
    have hcount := h fkc
    rw [count_createAll generator ht hfkc, hhook, if_pos hdeferred] at hcount
    omega
  · intro h fkc
    by_cases hmem : fkc ∈ (generator.createAll "monetdb").flatMap DdlStatement.created
    · obtain ⟨t, ht, hfkc⟩ := exists_of_mem_created generator hmem
      have hdeferred := generator.deferred_iff t ht fkc hfkc
      rw [count_createAll generator ht hfkc]
      by_cases hself : fkc.referredTable = t.identity
      · by_cases halter : fkc.useAlter
        · simp [halter, hdeferred]
        · have hcycle : ¬ OnCycle metadata t.identity := fun hc => halter (h t ht hc fkc hfkc hself)
          simp [halter, hself, hdeferred, hcycle]
      · split_ifs <;> simp_all
    · rw [List.count_eq_zero_of_not_mem hmem]
      omega

/-- Every foreign key is created, in the table, by the hook or in the end. -/
theorem mem_created {t : Table} (ht : t ∈ metadata.tables) {fkc : ForeignKeyConstraint}
    (hfkc : fkc ∈ t.foreignKeyConstraints) :
  fkc ∈ (generator.createAll "monetdb").flatMap DdlStatement.created
  := by
  rw [← List.count_pos_iff, count_createAll generator ht hfkc]
  by_cases hdeferred : generator.deferred t fkc
  · rw [if_pos hdeferred]
    omega
  · have halter : ¬ fkc.useAlter := fun halter =>
      hdeferred ((generator.deferred_iff t ht fkc hfkc).mpr (.inl halter))
    by_cases hself : fkc.referredTable = t.identity <;> simp [hdeferred, hself, halter]

/-- The statements of `create_all` are accepted one after the other exactly when no table on a
cycle with another one has a self-referential key that is not `use_alter`.  All tables and
all foreign keys of the metadata are then there. -/
theorem run_createAll_iff {s : SchemaState} (h : Creatable metadata s) :
  (∃ after, s.run metadata (generator.createAll "monetdb") = some after ∧
      after.tables = s.tables ++ metadata.tables.map Table.identity ∧
      ∀ t ∈ metadata.tables, ∀ fkc ∈ t.foreignKeyConstraints, fkc ∈ after.constraints) ↔
    ∀ t ∈ metadata.tables, OnCycle metadata t.identity →
      ∀ fkc ∈ t.foreignKeyConstraints, fkc.referredTable = t.identity → fkc.useAlter
  := by
  rw [← nodup_created_iff generator]
  simp only [SchemaState.run_eq_some_iff metadata s _ h.nodup]
  constructor
  · rintro ⟨after, ⟨-, hnodup, -⟩, -⟩
    apply hnodup.of_append_right
  · intro hnodup
    have hall : (s.constraints
        ++ (generator.createAll "monetdb").flatMap DdlStatement.created).Nodup := by
      refine h.nodup.append hnodup ?_
      intro fkc hexists hcreated
      obtain ⟨t, ht, hfkc⟩ := exists_of_mem_created generator hcreated
      apply h.unused t ht fkc hfkc hexists
    refine ⟨_, ⟨along_createAll generator h, hall, rfl⟩, final_createAll generator s.tables, ?_⟩
    intro t ht fkc hfkc
    apply List.mem_append_right _ (mem_created generator ht hfkc)

end Created

/-- The nodes of a tree, and leaves that refer to them. -/
def treeMetaData : MetaData where
  tables := [⟨0, [⟨0, 0, false⟩]⟩, ⟨1, [⟨1, 0, false⟩]⟩]
  distinct := by decide
  nodup := by decide

/-- Neither table is on a cycle with another one. -/
theorem not_onCycle_tree (a : TableId) :
  ¬ OnCycle treeMetaData a
  := by
  -- Only the leaves refer to another table, so nothing leads on from the nodes.
  have hstep : ∀ a b, References treeMetaData a b → a = 1 ∧ b = 0 := by
    rintro a b ⟨hne, -, t, ht, rfl, fkc, hfkc, rfl, -⟩
    simp only [treeMetaData, List.mem_cons, List.not_mem_nil, or_false] at ht
    rcases ht with rfl | rfl
    · obtain rfl := List.mem_singleton.mp hfkc
      exact absurd rfl hne
    · obtain rfl := List.mem_singleton.mp hfkc
      exact ⟨rfl, rfl⟩
  rintro ⟨b, hne, hab, hba⟩
  obtain ⟨c, hac, -⟩ := Relation.TransGen.head'_iff.mp hab
  obtain ⟨d, hbd, -⟩ := Relation.TransGen.head'_iff.mp hba
  apply hne
  rw [(hstep a c hac).1, (hstep b d hbd).1]

/-- SQLAlchemy defers no key of the two tables. -/
def treeGenerator : SchemaGenerator treeMetaData where
  deferred _ _ := false
  deferred_iff := by
    intro t ht fkc hfkc
    have halter : ¬ fkc.useAlter := by
      revert fkc t
      decide
    simp [halter, not_onCycle_tree]

theorem creatable_tree :
  Creatable treeMetaData ⟨[7], []⟩
  := by
  refine ⟨by decide, by decide, by decide, by decide, ?_⟩
  rintro pre t post hsplit - fkc hfkc - hself
  rcases pre with _ | ⟨first, _ | ⟨second, pre⟩⟩
  · cases hsplit
    obtain rfl := List.mem_singleton.mp hfkc
    exact absurd rfl hself
  · cases hsplit
    obtain rfl := List.mem_singleton.mp hfkc
    decide
  · simp [treeMetaData] at hsplit

theorem run_createAll_tree :
  ∃ after, SchemaState.run treeMetaData ⟨[7], []⟩ (treeGenerator.createAll "monetdb") = some after ∧
    after.tables = [7] ++ treeMetaData.tables.map Table.identity ∧
    ∀ t ∈ treeMetaData.tables, ∀ fkc ∈ t.foreignKeyConstraints, fkc ∈ after.constraints
  := by
  apply (run_createAll_iff treeGenerator creatable_tree).mpr
  intro t _ hcycle
  exact absurd hcycle (not_onCycle_tree t.identity)

end MonetDB
