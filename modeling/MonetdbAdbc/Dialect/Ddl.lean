import Mathlib.Data.List.Flatten
import Mathlib.Data.List.Nodup
import Mathlib.Data.List.Pairwise
import Mathlib.Logic.Relation

/-!
# Creating foreign keys

MonetDB rejects a self-referential foreign key in the `CREATE TABLE` of its table, so the
compiler leaves it out, and the hook that runs once the table exists adds it by
`ALTER TABLE`.

Which foreign keys `create_all` defers to a final `ALTER TABLE` pass is SQLAlchemy's
choice, the parameter `SchemaGenerator`: those declared `use_alter`, and all keys of a
table that is on a cycle with another table.  The hook does not know this choice, so
`createdOnce_iff` says that every foreign key is created once exactly when no table on such
a cycle has a self-referential key that is not `use_alter`.
-/

namespace MonetDB

/-- The identity of a table. -/
abbrev TableId := Nat

/-- `ForeignKeyConstraint`. -/
structure ForeignKeyConstraint where
  identity : Nat
  referredTable : TableId
  useAlter : Bool
deriving DecidableEq, Repr

/-- `Table`. -/
structure Table where
  identity : TableId
  foreignKeyConstraints : List ForeignKeyConstraint
deriving DecidableEq, Repr

/-- The tables that `create_all` creates, in the order it creates them. -/
structure MetaData where
  tables : List Table
  /-- The tables are distinct. -/
  distinct : (tables.map Table.identity).Nodup
  /-- The foreign keys are distinct, also those of different tables. -/
  nodup : (tables.flatMap Table.foreignKeyConstraints).Nodup

/-! ### The compiler and the hook -/

/-- `self_referential_foreign_keys`. -/
def selfReferentialForeignKeys (table : Table) : List ForeignKeyConstraint :=
  table.foreignKeyConstraints.filter fun constraint =>
    constraint.referredTable = table.identity ∧ ¬ constraint.useAlter

/-- The foreign keys that SQLAlchemy's `create_table_constraints` renders. -/
def baseCreateTableConstraints (table : Table) (included : List ForeignKeyConstraint) :
    List ForeignKeyConstraint :=
  table.foreignKeyConstraints.filter fun constraint =>
    constraint ∈ included ∧ ¬ constraint.useAlter

/-- The foreign keys that `create_table_constraints` renders. -/
def createTableConstraints (table : Table)
    (includeForeignKeyConstraints : Option (List ForeignKeyConstraint)) :
    List ForeignKeyConstraint :=
  let deferred := selfReferentialForeignKeys table
  let included := includeForeignKeyConstraints.getD table.foreignKeyConstraints
  baseCreateTableConstraints table (included.filter fun fkc => fkc ∉ deferred)

/-- A statement that creates foreign keys. -/
inductive DdlStatement where
  | createTable (table : TableId) (constraints : List ForeignKeyConstraint)
  | addConstraint (constraint : ForeignKeyConstraint)
deriving DecidableEq, Repr

/-- The foreign keys that a statement creates. -/
def DdlStatement.created : DdlStatement → List ForeignKeyConstraint
  | .createTable _ constraints => constraints
  | .addConstraint constraint => [constraint]

/-- `_add_self_referential_foreign_keys`, the hook after the creation of a table. -/
def addSelfReferentialForeignKeys (dialectName : String) (target : Table) : List DdlStatement :=
  if dialectName ≠ "monetdb" then
    []
  else
    (selfReferentialForeignKeys target).map .addConstraint

/-! ### `create_all` -/

/-- A table references another table by a key that is not `use_alter`. -/
def References (metadata : MetaData) (a b : TableId) : Prop :=
  a ≠ b ∧ b ∈ metadata.tables.map Table.identity ∧
    ∃ t ∈ metadata.tables, t.identity = a ∧
      ∃ fkc ∈ t.foreignKeyConstraints, fkc.referredTable = b ∧ ¬ fkc.useAlter

/-- A table is on a foreign-key cycle with another table. -/
def OnCycle (metadata : MetaData) (a : TableId) : Prop :=
  ∃ b, b ≠ a ∧ Relation.TransGen (References metadata) a b ∧
    Relation.TransGen (References metadata) b a

/-- SQLAlchemy's split of the foreign keys. -/
structure SchemaGenerator (metadata : MetaData) where
  /-- The key is left to the final `ALTER TABLE` pass. -/
  deferred : Table → ForeignKeyConstraint → Bool
  deferred_iff : ∀ t ∈ metadata.tables, ∀ fkc ∈ t.foreignKeyConstraints,
    deferred t fkc ↔ fkc.useAlter ∨ OnCycle metadata t.identity

variable {metadata : MetaData} (generator : SchemaGenerator metadata)

/-- The keys of a table that are not deferred. -/
def SchemaGenerator.included (table : Table) : List ForeignKeyConstraint :=
  table.foreignKeyConstraints.filter fun fkc => ¬ generator.deferred table fkc

/-- The keys of a table that are deferred. -/
def SchemaGenerator.remaining (table : Table) : List ForeignKeyConstraint :=
  table.foreignKeyConstraints.filter fun fkc => generator.deferred table fkc

/-- Creating one table. -/
def SchemaGenerator.visitTable (dialectName : String) (table : Table) : List DdlStatement :=
  .createTable table.identity (createTableConstraints table (some (generator.included table)))
    :: addSelfReferentialForeignKeys dialectName table

/-- `MetaData.create_all`. -/
def SchemaGenerator.createAll (dialectName : String) : List DdlStatement :=
  metadata.tables.flatMap (generator.visitTable dialectName)
    ++ (metadata.tables.flatMap generator.remaining).map .addConstraint

/-- Every foreign key is created once, and never inline when it is self-referential. -/
structure CreatedOnce (metadata : MetaData) (statements : List DdlStatement) : Prop where
  once : ∀ t ∈ metadata.tables, ∀ fkc ∈ t.foreignKeyConstraints,
    (statements.flatMap DdlStatement.created).count fkc = 1
  notInline : ∀ t ∈ metadata.tables, ∀ constraints,
    .createTable t.identity constraints ∈ statements →
      ∀ fkc ∈ constraints, fkc.referredTable ≠ t.identity

/-! ### Counting -/

/-- The keys of all tables that satisfy a condition include a key once or not at all. -/
theorem count_flatMap_filter (p : Table → ForeignKeyConstraint → Bool) {t : Table}
    (ht : t ∈ metadata.tables) {fkc : ForeignKeyConstraint}
    (hfkc : fkc ∈ t.foreignKeyConstraints) :
  (metadata.tables.flatMap fun t => t.foreignKeyConstraints.filter (p t)).count fkc
    = if p t fkc then 1 else 0
  := by
  have hsublist := List.Sublist.flatMap_right metadata.tables
    (fun t _ => List.filter_sublist (p := p t) (l := t.foreignKeyConstraints))
  rw [(metadata.nodup.sublist hsublist).count]
  have howner : ∀ u ∈ metadata.tables, fkc ∈ u.foreignKeyConstraints → u = t := by
    intro u hu hmem
    by_contra hne
    have : Std.Symm (Function.onFun List.Disjoint Table.foreignKeyConstraints) :=
      ⟨fun _ _ h _ ha hb => h hb ha⟩
    apply (List.nodup_flatMap.mp metadata.nodup).2.forall hu ht hne hmem hfkc
  congr 1
  simp only [List.mem_flatMap, List.mem_filter, eq_iff_iff]
  constructor
  · rintro ⟨u, hu, hmem, hp⟩
    rwa [howner u hu hmem] at hp
  · intro hp
    exact ⟨t, ht, hfkc, hp⟩

theorem count_flatMap_append {α β : Type} [DecidableEq β] (l : List α) (f g : α → List β) (b : β) :
  (l.flatMap fun a => f a ++ g a).count b = (l.flatMap f).count b + (l.flatMap g).count b
  := by
  induction l with
  | nil => rfl
  | cons a l ih =>
      simp only [List.flatMap_cons, List.count_append, ih]
      omega

/-- What the compiler renders inline: keys that are not deferred, not self-referential and
not `use_alter`. -/
theorem createTableConstraints_included (table : Table) :
  createTableConstraints table (some (generator.included table))
    = table.foreignKeyConstraints.filter fun fkc =>
        ¬ generator.deferred table fkc ∧ fkc.referredTable ≠ table.identity ∧ ¬ fkc.useAlter
  := by
  apply List.filter_congr
  intro fkc hfkc
  simp only [SchemaGenerator.included, selfReferentialForeignKeys, Option.getD_some,
    List.mem_filter, hfkc, true_and, decide_eq_true_eq, decide_eq_decide]
  tauto

/-- The keys that creating one table creates. -/
theorem created_visitTable (table : Table) :
  (generator.visitTable "monetdb" table).flatMap DdlStatement.created
    = createTableConstraints table (some (generator.included table))
      ++ selfReferentialForeignKeys table
  := by
  have hhook : ∀ l : List ForeignKeyConstraint,
      (l.map DdlStatement.addConstraint).flatMap DdlStatement.created = l := by
    intro l
    rw [List.flatMap_map]
    apply List.flatMap_singleton' l
  rw [SchemaGenerator.visitTable, List.flatMap_cons, addSelfReferentialForeignKeys,
    if_neg (not_not.mpr rfl), hhook]
  rfl

/-- How often a key is created: inline, by the hook, and in the final pass. -/
theorem count_createAll {t : Table} (ht : t ∈ metadata.tables) {fkc : ForeignKeyConstraint}
    (hfkc : fkc ∈ t.foreignKeyConstraints) :
  ((generator.createAll "monetdb").flatMap DdlStatement.created).count fkc
    = (if ¬ generator.deferred t fkc ∧ fkc.referredTable ≠ t.identity ∧ ¬ fkc.useAlter
        then 1 else 0)
      + (if fkc.referredTable = t.identity ∧ ¬ fkc.useAlter then 1 else 0)
      + (if generator.deferred t fkc then 1 else 0)
  := by
  have hfinal : ((metadata.tables.flatMap generator.remaining).map
      DdlStatement.addConstraint).flatMap DdlStatement.created
        = metadata.tables.flatMap generator.remaining := by
    rw [List.flatMap_map]
    apply List.flatMap_singleton' _
  rw [SchemaGenerator.createAll, List.flatMap_append, List.count_append, hfinal,
    List.flatMap_assoc]
  simp only [created_visitTable, createTableConstraints_included]
  rw [count_flatMap_append]
  congr 1
  · congr 1
    · rw [count_flatMap_filter _ ht hfkc]
      simp only [decide_eq_true_eq]
    · apply (count_flatMap_filter _ ht hfkc).trans (by simp only [decide_eq_true_eq])
  · apply count_flatMap_filter _ ht hfkc

/-- No key is rendered inline in the table it refers to. -/
theorem not_inline_self_referential {table : TableId} {constraints : List ForeignKeyConstraint}
    (h : .createTable table constraints ∈ generator.createAll "monetdb") :
  ∀ fkc ∈ constraints, fkc.referredTable ≠ table
  := by
  intro fkc hfkc
  rw [SchemaGenerator.createAll, List.mem_append, List.mem_flatMap] at h
  rcases h with ⟨t, ht, h⟩ | h
  · rw [SchemaGenerator.visitTable, List.mem_cons] at h
    rcases h with h | h
    · cases h
      rw [createTableConstraints_included, List.mem_filter, decide_eq_true_eq] at hfkc
      apply hfkc.2.2.1
    · rw [addSelfReferentialForeignKeys, if_neg (not_not.mpr rfl)] at h
      obtain ⟨_, -, h⟩ := List.mem_map.mp h
      cases h
  · obtain ⟨_, -, h⟩ := List.mem_map.mp h
    cases h

/-- Every foreign key is created once exactly when no table on a cycle with another table
has a self-referential key that is not `use_alter`. -/
theorem createdOnce_iff :
  CreatedOnce metadata (generator.createAll "monetdb")
    ↔ ∀ t ∈ metadata.tables, OnCycle metadata t.identity →
        ∀ fkc ∈ t.foreignKeyConstraints, fkc.referredTable = t.identity → fkc.useAlter
  := by
  constructor
  · intro h t ht hcycle fkc hfkc hself
    by_contra halter
    have hdeferred := (generator.deferred_iff t ht fkc hfkc).mpr (.inr hcycle)
    have hhook : (if fkc.referredTable = t.identity ∧ ¬ fkc.useAlter then 1 else 0) = 1 :=
      if_pos ⟨hself, halter⟩
    have hcount := count_createAll generator ht hfkc
    rw [h.once t ht fkc hfkc, hhook, if_pos hdeferred] at hcount
    omega
  · intro h
    constructor
    · intro t ht fkc hfkc
      have hdeferred := generator.deferred_iff t ht fkc hfkc
      rw [count_createAll generator ht hfkc]
      by_cases halter : fkc.useAlter
      · simp [halter, hdeferred]
      · by_cases hself : fkc.referredTable = t.identity
        · have hcycle : ¬ OnCycle metadata t.identity := fun hc => halter (h t ht hc fkc hfkc hself)
          simp [halter, hself, hdeferred, hcycle]
        · by_cases hd : generator.deferred t fkc <;> simp [halter, hself, hd]
    · intro t _ constraints hcreate
      apply not_inline_self_referential generator hcreate

/-- Two tables that refer to each other, the first one also to itself. -/
def cyclicMetaData : MetaData where
  tables := [⟨0, [⟨0, 0, false⟩, ⟨1, 1, false⟩]⟩, ⟨1, [⟨2, 0, false⟩]⟩]
  distinct := by decide
  nodup := by decide

/-- SQLAlchemy defers every key of the two tables. -/
def cyclicGenerator : SchemaGenerator cyclicMetaData where
  deferred _ _ := true
  deferred_iff := by
    have h01 : References cyclicMetaData 0 1 := by
      refine ⟨by decide, by decide, _, List.mem_cons_self, rfl, ⟨1, 1, false⟩, ?_⟩
      decide
    have h10 : References cyclicMetaData 1 0 := by
      refine ⟨by decide, by decide, _, List.mem_cons_of_mem _ List.mem_cons_self, rfl,
        ⟨2, 0, false⟩, ?_⟩
      decide
    intro t ht fkc _
    have hcycle : OnCycle cyclicMetaData t.identity := by
      simp only [cyclicMetaData, List.mem_cons, List.not_mem_nil, or_false] at ht
      rcases ht with rfl | rfl
      · exact ⟨1, by decide, .single h01, .single h10⟩
      · exact ⟨0, by decide, .single h10, .single h01⟩
    exact ⟨fun _ => .inr hcycle, fun _ => rfl⟩

/-- The self-referential key is created by the hook and again by the final pass. -/
theorem cyclic_created_twice :
  ((cyclicGenerator.createAll "monetdb").flatMap DdlStatement.created).count ⟨0, 0, false⟩ = 2
    ∧ ¬ CreatedOnce cyclicMetaData (cyclicGenerator.createAll "monetdb")
  := by
  have hcount : ((cyclicGenerator.createAll "monetdb").flatMap DdlStatement.created).count
      ⟨0, 0, false⟩ = 2 := by decide
  refine ⟨hcount, ?_⟩
  intro h
  have honce := h.once _ List.mem_cons_self _ List.mem_cons_self
  rw [hcount] at honce
  cases honce

end MonetDB
