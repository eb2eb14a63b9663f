import Mathlib.Data.List.Basic
import Mathlib.Logic.Function.Basic

/-!
# Foreign keys

A database gives every table its rows, and a row every column its value, if that is not
null.  A foreign key binds the rows that have no null in its columns; a row it binds refers to
the rows of the other table with the same values.  A database is consistent when every row
that is bound refers to some row.

`exec` checks foreign keys as each statement is made, also those from a table to itself.
`run_clear_iff` says exactly when setting columns to null and then emptying the tables from
the last one to the first is accepted, and what it leaves.
-/

universe u v w

namespace Referential

variable {T : Type u} {C : Type v} {V : Type w}

/-- A row: the value of each column, if it is not null. -/
abbrev Row (C : Type v) (V : Type w) := C → Option V

/-- The rows of each table. -/
abbrev Database (T : Type u) (C : Type v) (V : Type w) := T → List (Row C V)

/-- A foreign key, from columns of a table to columns of a table. -/
structure ForeignKey (T : Type u) (C : Type v) where
  table : T
  columns : List C
  referredTable : T
  referredColumns : List C

/-- The foreign keys and the columns that may be null. -/
structure Schema (T : Type u) (C : Type v) where
  keys : List (ForeignKey T C)
  nullable : T → C → Bool
  /-- A foreign key refers to columns that are never null. -/
  referred_not_nullable : ∀ key ∈ keys, ∀ c ∈ key.referredColumns,
    nullable key.referredTable c = false

/-! ### Reference -/

namespace ForeignKey

variable (key : ForeignKey T C)

/-- The row has no null in the columns of the key. -/
def Binds (r : Row C V) : Prop :=
  ∀ c ∈ key.columns, r c ≠ none

/-- The row refers to a row of the other table. -/
def RefersTo (r s : Row C V) : Prop :=
  key.Binds r ∧ key.columns.map r = key.referredColumns.map s

/-- Some row of the table refers to some row of the other table. -/
def Used (db : Database T C V) : Prop :=
  ∃ r ∈ db key.table, ∃ s ∈ db key.referredTable, key.RefersTo r s

instance (r : Row C V) : Decidable (key.Binds r) :=
  inferInstanceAs (Decidable (∀ c ∈ key.columns, ¬ r c = none))

variable [DecidableEq V]

instance (r s : Row C V) : Decidable (key.RefersTo r s) :=
  inferInstanceAs (Decidable (key.Binds r ∧ key.columns.map r = key.referredColumns.map s))

instance (db : Database T C V) : Decidable (key.Used db) :=
  inferInstanceAs (Decidable (∃ r ∈ db key.table, ∃ s ∈ db key.referredTable, key.RefersTo r s))

end ForeignKey

/-- Every row that a foreign key binds refers to some row. -/
def Schema.Consistent (schema : Schema T C) (db : Database T C V) : Prop :=
  ∀ key ∈ schema.keys, ∀ r ∈ db key.table, key.Binds r →
    ∃ s ∈ db key.referredTable, key.RefersTo r s

instance [DecidableEq V] (schema : Schema T C) (db : Database T C V) :
    Decidable (schema.Consistent db) :=
  inferInstanceAs (Decidable (∀ key ∈ schema.keys, ∀ r ∈ db key.table, key.Binds r →
    ∃ s ∈ db key.referredTable, key.RefersTo r s))

theorem Schema.Consistent.used_iff {schema : Schema T C} {db : Database T C V}
    (h : schema.Consistent db) {key : ForeignKey T C} (hkey : key ∈ schema.keys) :
  key.Used db ↔ ∃ r ∈ db key.table, key.Binds r
  := by
  constructor
  · rintro ⟨r, hr, _, _, hbinds, _⟩
    exact ⟨r, hr, hbinds⟩
  · rintro ⟨r, hr, hbinds⟩
    exact ⟨r, hr, h key hkey r hr hbinds⟩

/-! ### Statements -/

/-- A statement about all rows of a table. -/
inductive Statement (T : Type u) (C : Type v) where
  | setNull (table : T) (columns : List C)
  | delete (table : T)

/-- Why a statement is rejected. -/
inductive Violation where
  | notNull
  | foreignKey
deriving DecidableEq, Repr

/-- The row with some columns set to null. -/
def nulled [DecidableEq C] (columns : List C) (r : Row C V) : Row C V := fun c =>
  if c ∈ columns then none else r c

/-- The server: a statement is rejected when it sets a column to null that must not be, or
changes or removes a row that is referred to. -/
def exec [DecidableEq T] [DecidableEq C] [DecidableEq V] (schema : Schema T C)
    (db : Database T C V) : Statement T C → Except Violation (Database T C V)
  | .setNull t columns =>
      if db t ≠ [] ∧ ∃ c ∈ columns, schema.nullable t c = false then
        .error .notNull
      else if ∃ key ∈ schema.keys, key.referredTable = t ∧
          (∃ c ∈ columns, c ∈ key.referredColumns) ∧ key.Used db then
        .error .foreignKey
      else
        .ok (Function.update db t ((db t).map (nulled columns)))
  | .delete t =>
      if ∃ key ∈ schema.keys, key.referredTable = t ∧ key.Used db then
        .error .foreignKey
      else
        .ok (Function.update db t [])

/-- Statements one after the other, up to the first that is rejected. -/
def run [DecidableEq T] [DecidableEq C] [DecidableEq V] (schema : Schema T C) (db : Database T C V)
    (statements : List (Statement T C)) : Except Violation (Database T C V) :=
  statements.foldlM (exec schema) db

/-! ### Setting columns to null -/

section Rows

variable [DecidableEq C]

theorem nulled_of_notMem {columns : List C} {c : C} (h : c ∉ columns) (r : Row C V) :
  nulled columns r c = r c
  := if_neg h

theorem nulled_eq_none_iff (columns : List C) (r : Row C V) (c : C) :
  nulled columns r c = none ↔ c ∈ columns ∨ r c = none
  := by
  rw [nulled]
  split <;> simp_all

@[simp]
theorem nulled_nulled (columns : List C) (r : Row C V) :
  nulled columns (nulled columns r) = nulled columns r
  := by
  funext c
  by_cases h : c ∈ columns <;> simp [nulled, h]

/-- A row that is bound with some columns set to null has a value in none of them. -/
theorem ForeignKey.Binds.notMem {key : ForeignKey T C} {columns : List C} {r : Row C V}
    (h : key.Binds (nulled columns r)) {c : C} (hc : c ∈ key.columns) :
  c ∉ columns
  := by
  intro hmem
  apply h c hc
  apply (nulled_eq_none_iff columns r c).mpr (.inl hmem)

theorem ForeignKey.Binds.of_nulled {key : ForeignKey T C} {columns : List C} {r : Row C V}
    (h : key.Binds (nulled columns r)) :
  key.Binds r
  := by
  intro c hc
  rw [← nulled_of_notMem (h.notMem hc) r]
  apply h c hc

/-- A row of a table is bound after columns were set to null when it has a value in every
column of the key and none of them was set to null. -/
theorem binds_nulled_iff (key : ForeignKey T C) (columns : List C) (r : Row C V) :
  ¬ key.Binds (nulled columns r) ↔ ∃ c ∈ key.columns, c ∈ columns ∨ r c = none
  := by
  simp only [ForeignKey.Binds, not_forall, not_not, nulled_eq_none_iff, exists_prop]

end Rows

/-- No foreign key refers to a column that may be null. -/
theorem notMem_referredColumns {schema : Schema T C} {key : ForeignKey T C}
    (hkey : key ∈ schema.keys) {t : T} {columns : List C}
    (hcolumns : ∀ c ∈ columns, schema.nullable t c) (ht : key.referredTable = t)
    {c : C} (hc : c ∈ key.referredColumns) :
  c ∉ columns
  := by
  intro hmem
  have hnull := hcolumns c hmem
  rw [← ht, schema.referred_not_nullable key hkey c hc] at hnull
  cases hnull

/-- Setting columns to null that may be null keeps a database consistent. -/
theorem Schema.Consistent.setNull [DecidableEq T] [DecidableEq C] {schema : Schema T C}
    {db : Database T C V} (hdb : schema.Consistent db) {t : T} {columns : List C}
    (h : ∀ c ∈ columns, schema.nullable t c) :
  schema.Consistent (Function.update db t ((db t).map (nulled columns)))
  := by
  -- The row that a bound row refers to may have lost values, but not in the columns
  -- of the key; the bound row itself has lost none in those either.
  have hreferred : ∀ key ∈ schema.keys, ∀ r : Row C V, ∀ s ∈ db key.referredTable,
      key.RefersTo r s →
        ∃ s' ∈ Function.update db t ((db t).map (nulled columns)) key.referredTable,
          key.RefersTo r s' := by
    intro key hkey r s hs hrefers
    by_cases ht : key.referredTable = t
    · use nulled columns s
      rw [ht] at hs
      constructor
      · rw [ht, Function.update_self]
        apply List.mem_map_of_mem hs
      · refine ⟨hrefers.1, hrefers.2.trans ?_⟩
        apply List.map_congr_left
        intro c hc
        apply (nulled_of_notMem (notMem_referredColumns hkey h ht hc) s).symm
    · use s
      rw [Function.update_of_ne ht]
      exact ⟨hs, hrefers⟩
  intro key hkey r hr hbinds
  by_cases ht : key.table = t
  · rw [ht, Function.update_self, ← ht] at hr
    obtain ⟨q, hq, rfl⟩ := List.mem_map.mp hr
    obtain ⟨s, hs, -, hvalues⟩ := hdb key hkey q hq hbinds.of_nulled
    have hsame : key.columns.map (nulled columns q) = key.columns.map q := by
      apply List.map_congr_left
      intro c hc
      apply nulled_of_notMem (hbinds.notMem hc)
    apply hreferred key hkey _ s hs ⟨hbinds, hsame.trans hvalues⟩
  · rw [Function.update_of_ne ht] at hr
    obtain ⟨s, hs, hrefers⟩ := hdb key hkey r hr hbinds
    apply hreferred key hkey r s hs hrefers

/-- The database with columns of some tables set to null. -/
def nullAll [DecidableEq T] [DecidableEq C] (columns : T → List C) (tables : List T)
    (db : Database T C V) : Database T C V := fun t =>
  if t ∈ tables then (db t).map (nulled (columns t)) else db t

theorem nullAll_cons [DecidableEq T] [DecidableEq C] (columns : T → List C) (t : T)
    (tables : List T) (db : Database T C V) :
  nullAll columns (t :: tables) db
    = nullAll columns tables (Function.update db t ((db t).map (nulled (columns t))))
  := by
  funext u
  by_cases hu : u = t
  · subst hu
    by_cases hmem : u ∈ tables <;> simp [nullAll, hmem]
  · simp [nullAll, hu]

/-- The database with some tables emptied. -/
def emptied [DecidableEq T] (tables : List T) (db : Database T C V) : Database T C V :=
  fun t => if t ∈ tables then [] else db t

theorem emptied_cons [DecidableEq T] (t : T) (tables : List T) (db : Database T C V) :
  emptied (t :: tables) db = emptied tables (Function.update db t [])
  := by
  funext u
  by_cases hu : u = t <;> simp [emptied, hu]

/-- Emptying a table to which no row is bound keeps a database consistent. -/
theorem Schema.Consistent.delete [DecidableEq T] {schema : Schema T C} {db : Database T C V}
    (hdb : schema.Consistent db) {t : T}
    (h : ∀ key ∈ schema.keys, key.referredTable = t → ∀ r ∈ db key.table, ¬ key.Binds r) :
  schema.Consistent (Function.update db t [])
  := by
  intro key hkey r hr hbinds
  have htable : key.table ≠ t := by
    intro ht
    rw [ht, Function.update_self] at hr
    cases hr
  rw [Function.update_of_ne htable] at hr
  have hreferred : key.referredTable ≠ t := fun ht => h key hkey ht r hr hbinds
  rw [Function.update_of_ne hreferred]
  apply hdb key hkey r hr hbinds

section Statements

variable [DecidableEq T] [DecidableEq C] [DecidableEq V] {schema : Schema T C} {db : Database T C V}

/-- Columns that may be null can be set to null. -/
theorem exec_setNull {t : T} {columns : List C} (h : ∀ c ∈ columns, schema.nullable t c) :
  exec schema db (.setNull t columns) = .ok (Function.update db t ((db t).map (nulled columns)))
  := by
  rw [exec, if_neg, if_neg]
  · rintro ⟨key, hkey, ht, ⟨c, hc, hreferred⟩, -⟩
    apply notMem_referredColumns hkey h ht hreferred hc
  · rintro ⟨-, c, hc, hnull⟩
    rw [h c hc] at hnull
    cases hnull

/-- Columns that may be null can be set to null in one table after the other. -/
theorem run_setNull {columns : T → List C} {tables : List T} (hdb : schema.Consistent db)
    (h : ∀ t ∈ tables, ∀ c ∈ columns t, schema.nullable t c) :
  run schema db (tables.map fun t => .setNull t (columns t)) = .ok (nullAll columns tables db)
    ∧ schema.Consistent (nullAll columns tables db)
  := by
  induction tables generalizing db with
  | nil => exact ⟨rfl, hdb⟩
  | cons t tables ih =>
      have ht := h t List.mem_cons_self
      obtain ⟨hrun, hconsistent⟩ := ih (hdb.setNull ht) fun u hu => h u (List.mem_cons_of_mem t hu)
      rw [nullAll_cons]
      refine ⟨?_, hconsistent⟩
      rw [run, List.map_cons, List.foldlM_cons, exec_setNull ht]
      apply hrun

/-! ### Emptying tables -/

/-- A table can be emptied when no row is bound by a foreign key to it. -/
theorem exec_delete_iff (hdb : schema.Consistent db) (t : T) (after : Database T C V) :
  exec schema db (.delete t) = .ok after ↔
    (∀ key ∈ schema.keys, key.referredTable = t → ∀ r ∈ db key.table, ¬ key.Binds r) ∧
      after = Function.update db t []
  := by
  have hused : (∃ key ∈ schema.keys, key.referredTable = t ∧ key.Used db) ↔
      ¬ ∀ key ∈ schema.keys, key.referredTable = t → ∀ r ∈ db key.table, ¬ key.Binds r := by
    push Not
    apply exists_congr
    intro key
    apply and_congr_right
    intro hkey
    rw [hdb.used_iff hkey]
  rw [exec]
  split_ifs with h
  · simp [hused.mp h]
  · rw [hused, not_not] at h
    rw [Except.ok.injEq, eq_comm]
    tauto

/-- Tables can be emptied one after the other when a table is emptied before those that its
rows are bound to. -/
theorem run_delete_iff (hdb : schema.Consistent db) (tables : List T) (after : Database T C V) :
  run schema db (tables.map .delete) = .ok after ↔
    (∀ key ∈ schema.keys, ∀ pre post, tables = pre ++ key.referredTable :: post →
        key.table ∈ pre ∨ ∀ r ∈ db key.table, ¬ key.Binds r) ∧
      after = emptied tables db
  := by
  induction tables generalizing db with
  | nil =>
      have hemptied : emptied [] db = db := rfl
      simp [run, hemptied, pure, Except.pure, eq_comm]
  | cons t tables ih =>
      by_cases hfree : ∀ key ∈ schema.keys, key.referredTable = t →
          ∀ r ∈ db key.table, ¬ key.Binds r
      · have hstep := (exec_delete_iff hdb t _).mpr ⟨hfree, rfl⟩
        have hrun : run schema db ((t :: tables).map .delete)
            = run schema (Function.update db t []) (tables.map .delete) := by
          rw [run, List.map_cons, List.foldlM_cons, hstep]
          rfl
        rw [hrun, ih (hdb.delete hfree), emptied_cons]
        apply and_congr_left'
        apply forall₂_congr
        intro key hkey
        constructor
        · intro h pre post hsplit
          cases pre with
          | nil =>
              cases hsplit
              apply Or.inr (hfree key hkey rfl)
          | cons u pre =>
              obtain ⟨rfl, htail⟩ := List.cons_eq_cons.mp hsplit
              by_cases ht : key.table = t
              · apply Or.inl (ht ▸ List.mem_cons_self)
              · rcases h pre post htail with hmem | hnone
                · apply Or.inl (List.mem_cons_of_mem _ hmem)
                · rw [Function.update_of_ne ht] at hnone
                  apply Or.inr hnone
        · intro h pre post hsplit
          by_cases ht : key.table = t
          · right
            rw [ht, Function.update_self]
            simp
          · rw [Function.update_of_ne ht]
            rcases h (t :: pre) post (congrArg (t :: ·) hsplit) with hmem | hnone
            · apply Or.inl (List.mem_of_ne_of_mem ht hmem)
            · apply Or.inr hnone
      · have hstep : ∃ e, exec schema db (.delete t) = .error e := by
          cases hexec : exec schema db (.delete t) with
          | error e => exact ⟨e, rfl⟩
          | ok next => exact absurd ((exec_delete_iff hdb t next).mp hexec).1 hfree
        obtain ⟨e, hstep⟩ := hstep
        have hrun : run schema db ((t :: tables).map .delete) = .error e := by
          rw [run, List.map_cons, List.foldlM_cons, hstep]
          rfl
        rw [hrun]
        constructor
        · intro h
          cases h
        · rintro ⟨h, -⟩
          exfalso
          apply hfree
          rintro key hkey rfl r hr hbinds
          rcases h key hkey [] tables rfl with hmem | hnone
          · cases hmem
          · apply hnone r hr hbinds

/-! ### Setting columns to null and emptying tables -/

/-- Set columns to null in the first tables, then empty the others from the last one to the
first. -/
def clear (columns : T → List C) (released tables : List T) : List (Statement T C) :=
  (released.map fun t => .setNull t (columns t)) ++ tables.reverse.map .delete

/-- Tables can be cleared when each foreign key to one of them is from a later one, or has in
every row a column that is null or is set to null. -/
theorem run_clear_iff {columns : T → List C} {released tables : List T} (hdb : schema.Consistent db)
    (hreleased : released ⊆ tables) (h : ∀ t ∈ released, ∀ c ∈ columns t, schema.nullable t c)
    (after : Database T C V) :
  run schema db (clear columns released tables) = .ok after ↔
    (∀ key ∈ schema.keys, ∀ pre post, tables = pre ++ key.referredTable :: post →
        key.table ∈ post ∨ ∀ r ∈ db key.table, ∃ c ∈ key.columns,
          key.table ∈ released ∧ c ∈ columns key.table ∨ r c = none) ∧
      after = emptied tables db
  := by
  obtain ⟨hrun, hconsistent⟩ := run_setNull hdb h
  have hclear : run schema db (clear columns released tables)
      = run schema (nullAll columns released db) (tables.reverse.map .delete) := by
    rw [run, clear, List.foldlM_append]
    rw [run] at hrun
    rw [hrun]
    rfl
  have hemptied : emptied tables.reverse (nullAll columns released db) = emptied tables db := by
    funext t
    by_cases ht : t ∈ tables
    · simp [emptied, ht]
    · have hnot : t ∉ released := fun hmem => ht (hreleased hmem)
      simp [emptied, nullAll, ht, hnot]
  have hrows : ∀ key : ForeignKey T C,
      (∀ r ∈ nullAll columns released db key.table, ¬ key.Binds r) ↔
        ∀ r ∈ db key.table, ∃ c ∈ key.columns,
          key.table ∈ released ∧ c ∈ columns key.table ∨ r c = none := by
    intro key
    by_cases hmem : key.table ∈ released
    · simp only [nullAll, hmem, if_true, List.forall_mem_map, binds_nulled_iff, true_and]
    · simp only [nullAll, hmem, if_false, ForeignKey.Binds, not_forall, not_not, exists_prop,
        false_and, false_or]
  -- The tables are emptied in reverse, so what comes before a table there comes after it here.
  have hreverse : ∀ (t : T) (P : List T → Prop),
      (∀ pre post, tables.reverse = pre ++ t :: post → P pre) ↔
        ∀ pre post, tables = pre ++ t :: post → P post.reverse := by
    intro t P
    constructor
    · intro hsplit pre post heq
      apply hsplit post.reverse pre.reverse
      simp [heq]
    · intro hsplit pre post heq
      have htables : tables = post.reverse ++ t :: pre.reverse := by
        rw [← List.reverse_reverse tables, heq]
        simp
      have hpre := hsplit _ _ htables
      rwa [List.reverse_reverse] at hpre
  rw [hclear, run_delete_iff hconsistent, hemptied]
  apply and_congr_left'
  apply forall₂_congr
  intro key hkey
  rw [hreverse key.referredTable (fun pre => key.table ∈ pre ∨ _), hrows key]
  simp only [List.mem_reverse]

end Statements

end Referential
