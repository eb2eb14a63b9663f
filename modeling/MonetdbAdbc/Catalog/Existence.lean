import MonetdbAdbc.Catalog.Agreement
import MonetdbAdbc.Library.Outcome

/-!
# Existence and reflection

`_table_id` looks a table up by its name and has no condition on its type; `_resolve_tables`
asks for the types that reflection knows.  `found?` and `resolved?` say what each of them
finds, and `existenceAgrees_iff` that they agree exactly when the object of that name in
the schema asked for, if there is one, has a type that reflection knows.
-/

namespace MonetDB

/-- The types of tables that a request for one table admits in its schema. -/
def Reflectable (type : Int) : Prop :=
  type ∈ tableTypes ∨ type = tableTypeSystemTable ∨ type = tableTypeView ∨
    type = tableTypeSystemView

instance : DecidablePred Reflectable :=
  fun type => inferInstanceAs (Decidable (type ∈ tableTypes ∨ type = tableTypeSystemTable ∨
    type = tableTypeView ∨ type = tableTypeSystemView))

variable {α : Type} (catalog : Catalog) (tableName : String) (schema : Option String)

/-! ### What the lookups find -/

/-- The object of a name in the schema of a schema argument. -/
def Catalog.object? : Option TableRow :=
  (catalog.schema? schema).bind fun s => catalog.table? s.id tableName

/-- The temporary table of a name. -/
def Catalog.temporary? : Option TableRow :=
  (catalog.schema? (some "tmp")).bind fun s => catalog.temporaryTable? s.id tableName

/-- The table that `_table_id` finds. -/
def Catalog.found? : Option TableRow :=
  (catalog.object? tableName schema).or
    (if schema = none then catalog.temporary? tableName else none)

/-- The table that a request for one table resolves to. -/
def Catalog.resolved? : Option TableRow :=
  ((catalog.object? tableName schema).filter fun t => Reflectable t.type).or
    (if schema = none then catalog.temporary? tableName else none)

theorem Catalog.table?_eq_some_iff (schemaId : ObjectId) (t : TableRow) :
  catalog.table? schemaId tableName = some t ↔
    t ∈ catalog.tables ∧ t.name = tableName ∧ t.schemaId = schemaId
  := by
  rw [table?, Query.find?_eq_some_iff_of_unique, decide_eq_true_eq]
  intro t ht t' ht' h h'
  obtain ⟨hname, hid⟩ := of_decide_eq_true h
  obtain ⟨hname', hid'⟩ := of_decide_eq_true h'
  apply catalog.table_eq_of_name ht ht' (hid.trans hid'.symm) (hname.trans hname'.symm)

theorem Catalog.temporaryTable?_eq_some_iff (schemaId : ObjectId) (t : TableRow) :
  catalog.temporaryTable? schemaId tableName = some t ↔
    t ∈ catalog.tables ∧ t.name = tableName ∧ t.schemaId = schemaId ∧
      t.type = tableTypeLocalTemporary
  := by
  rw [temporaryTable?, Query.find?_eq_some_iff_of_unique, decide_eq_true_eq]
  intro t ht t' ht' h h'
  obtain ⟨hname, hid, -⟩ := of_decide_eq_true h
  obtain ⟨hname', hid', -⟩ := of_decide_eq_true h'
  apply catalog.table_eq_of_name ht ht' (hid.trans hid'.symm) (hname.trans hname'.symm)

theorem Catalog.object?_eq_some_iff (t : TableRow) :
  catalog.object? tableName schema = some t ↔
    t ∈ catalog.tables ∧ t.name = tableName ∧
      catalog.InSchema t (schema.getD catalog.currentSchema)
  := by
  simp only [object?, Option.bind_eq_some_iff, table?_eq_some_iff, inSchema_iff]
  constructor
  · rintro ⟨s, hs, ht, hname, hid⟩
    exact ⟨ht, hname, s, hs, hid⟩
  · rintro ⟨ht, hname, s, hs, hid⟩
    exact ⟨s, hs, ht, hname, hid⟩

theorem Catalog.temporary?_eq_some_iff (t : TableRow) :
  catalog.temporary? tableName = some t ↔
    t ∈ catalog.tables ∧ t.name = tableName ∧ t.type = tableTypeLocalTemporary ∧
      catalog.InSchema t "tmp"
  := by
  simp only [temporary?, Option.bind_eq_some_iff, temporaryTable?_eq_some_iff, inSchema_iff]
  constructor
  · rintro ⟨s, hs, ht, hname, hid, htype⟩
    exact ⟨ht, hname, htype, s, hs, hid⟩
  · rintro ⟨ht, hname, htype, s, hs, hid⟩
    exact ⟨s, hs, ht, hname, hid, htype⟩

/-- `_table_id` finds an object of the schema, or else a temporary table. -/
theorem tableId_toOption :
  (tableId catalog tableName schema).toOption
    = (catalog.found? tableName schema).map TableRow.id
  := by
  unfold tableId Catalog.found? Catalog.object?
  cases hs : catalog.schema? schema with
  | none =>
      have hschema : schema ≠ none := by
        rintro rfl
        obtain ⟨s, hs'⟩ : ∃ s, catalog.schema? none = some s := catalog.exists_schema? (by simp)
        simp [hs] at hs'
      simp only [schemaId_of_none catalog hs, Option.bind_none, hschema, if_false]
      rfl
  | some s =>
      simp only [schemaId_of_some catalog hs, Option.bind_some]
      cases ht : catalog.table? s.id tableName with
      | some t => simp [Except.toOption, bind, Except.bind, pure, Except.pure, ht]
      | none =>
          by_cases hschema : schema = none
          · cases htmp : catalog.schema? (some "tmp") with
            | none =>
                simp [Except.toOption, bind, Except.bind, ht, hschema, Catalog.temporary?, htmp,
                  schemaId_of_none catalog htmp]
            | some s' =>
                cases ht' : catalog.temporaryTable? s'.id tableName <;>
                  simp [Except.toOption, bind, Except.bind, pure, Except.pure, throw, throwThe,
                    MonadExceptOf.throw, ht, hschema, Catalog.temporary?, htmp, ht',
                    schemaId_of_some catalog htmp]
          · simp [Except.toOption, bind, Except.bind, pure, Except.pure, throw, throwThe,
              MonadExceptOf.throw, ht, hschema]

theorem mem_types_oneTable (type : Int) :
  type ∈ (oneTable tableName schema).types ↔ Reflectable type
  := by
  have htable : tableTypeTable ∈ tableTypes := List.mem_cons_self
  rw [Request.mem_types]
  simp only [oneTable, ObjectKind.ANY, Option.isSome_some, true_and, Reflectable]
  constructor
  · rintro ((rfl | h) | h)
    · exact Or.inl htable
    · tauto
    · tauto
  · tauto

theorem Reflectable.type_ne {type : Int} (h : Reflectable type) :
  type ≠ tableTypeLocalTemporary
  := Request.type_ne_of_mem_types ((mem_types_oneTable "" none type).mpr h)

/-- What a request for one table admits. -/
theorem admits_oneTable_iff (t : TableRow) :
  (oneTable tableName schema).Admits catalog t ↔
    (catalog.object? tableName schema = some t ∧ Reflectable t.type) ∨
    (schema = none ∧ catalog.temporary? tableName = some t)
  := by
  have hnames : (oneTable tableName schema).Names t.name ↔ t.name = tableName := by
    simp [Request.Names, oneTable]
  rw [Catalog.object?_eq_some_iff, Catalog.temporary?_eq_some_iff]
  constructor
  · rintro ⟨ht, hname, hown | htmp⟩
    · have htype := (mem_types_oneTable tableName schema t.type).mp hown.type
      exact Or.inl ⟨⟨ht, hnames.mp hname, hown.schema⟩, htype⟩
    · exact Or.inr ⟨htmp.unqualified, ht, hnames.mp hname, htmp.type, htmp.schema⟩
  · rintro (⟨⟨ht, hname, hschema⟩, htype⟩ | ⟨hnone, ht, hname, htype, hschema⟩)
    · use ht, hnames.mpr hname
      exact Or.inl ⟨rfl, (mem_types_oneTable tableName schema t.type).mpr htype, hschema⟩
    · use ht, hnames.mpr hname
      exact Or.inr ⟨rfl, rfl, hnone, htype, hschema⟩

/-- A request for one table resolves to an object of the schema that reflection knows, or
else to a temporary table. -/
theorem selects_oneTable_iff (t : TableRow) :
  (oneTable tableName schema).Selects catalog t ↔ catalog.resolved? tableName schema = some t
  := by
  rw [Catalog.resolved?, Option.or_eq_some_iff, Option.filter_eq_some_iff, decide_eq_true_eq]
  constructor
  · rintro ⟨hadmits, hfirst⟩
    rcases (admits_oneTable_iff catalog tableName schema t).mp hadmits with h | ⟨hnone, htmp⟩
    · exact Or.inl h
    · right
      constructor
      · obtain ⟨-, hname, htype, -⟩ := (catalog.temporary?_eq_some_iff tableName t).mp htmp
        rw [Option.filter_eq_none_iff]
        intro o ho ho'
        have hreflectable := of_decide_eq_true ho'
        obtain ⟨-, hname', -⟩ := (catalog.object?_eq_some_iff tableName schema o).mp ho
        apply hreflectable.type_ne
        apply hfirst htype o _ (hname'.trans hname.symm)
        apply (admits_oneTable_iff catalog tableName schema o).mpr (Or.inl ⟨ho, hreflectable⟩)
      · rw [if_pos hnone, htmp]
  · rintro (⟨ho, hreflectable⟩ | ⟨hobject, htmp⟩)
    · constructor
      · apply (admits_oneTable_iff catalog tableName schema t).mpr (Or.inl ⟨ho, hreflectable⟩)
      · intro htype
        exact absurd htype hreflectable.type_ne
    · split at htmp
      · rename_i hnone
        constructor
        · apply (admits_oneTable_iff catalog tableName schema t).mpr (Or.inr ⟨hnone, htmp⟩)
        · intro _ t' ht' _
          rcases (admits_oneTable_iff catalog tableName schema t').mp ht' with
            ⟨ho, hreflectable⟩ | ⟨-, htmp'⟩
          · rw [Option.filter_eq_none_iff] at hobject
            exact absurd (decide_eq_true hreflectable) (hobject t' ho)
          · apply ((catalog.temporary?_eq_some_iff tableName t').mp htmp').2.2.1
      · simp at htmp

/-! ### Agreement -/

/-- `has_table` is true if and only if a getter gives an answer, whatever requests ran
before. -/
def HasTableIffAnswers (single : SingleGetter α) : Prop :=
  ∀ infoCache, Earlier catalog infoCache →
    (hasTable catalog tableName schema ↔
      ∃ value, (single tableName schema infoCache).1 = .ok value)

/-- Existence and reflection agree on a name. -/
structure ExistenceAgrees : Prop where
  answers : ForAllGetters catalog fun _ single =>
    HasTableIffAnswers catalog tableName schema single
  /-- The object found is the object resolved. -/
  sameTable : ∀ id, tableId catalog tableName schema = .ok id →
    ∀ id' ∈ (resolveTables catalog (oneTable tableName schema)).tables.keys, id' = id

/-- The object of a name in the schema asked for has a type that reflection knows, or is a
temporary table and `tmp` is the current schema that was asked for. -/
def KnownToReflection : Prop :=
  ∀ t ∈ catalog.tables, t.name = tableName →
    catalog.InSchema t (schema.getD catalog.currentSchema) →
      Reflectable t.type ∨
        schema = none ∧ catalog.currentSchema = "tmp" ∧ t.type = tableTypeLocalTemporary

theorem hasTable_iff :
  hasTable catalog tableName schema ↔ (catalog.found? tableName schema).isSome
  := by
  have h := tableId_toOption catalog tableName schema
  unfold hasTable
  cases hid : tableId catalog tableName schema with
  | ok id =>
      rw [hid] at h
      obtain ⟨t, ht, -⟩ := Option.map_eq_some_iff.mp h.symm
      simp [ht]
  | error e =>
      rw [hid] at h
      have hnone := Option.map_eq_none_iff.mp h.symm
      simp [hnone]

theorem mem_keys_oneTable (id : ObjectId) :
  id ∈ (resolveTables catalog (oneTable tableName schema)).tables.keys ↔
    ∃ t, catalog.resolved? tableName schema = some t ∧ t.id = id
  := by
  rw [Dict.mem_keys_iff]
  simp only [← Dict.mem_items_iff, mem_tables_iff, selects_oneTable_iff]
  constructor
  · rintro ⟨name, t, ht, hid, -⟩
    exact ⟨t, ht, hid⟩
  · rintro ⟨t, ht, hid⟩
    exact ⟨t.name, t, ht, hid, rfl⟩

/-- A getter answers exactly when the request resolves to a table. -/
theorem answers_iff {multi : MultiGetter α} {single : SingleGetter α} {entry : ObjectId → α}
    (h : AnswersByTable catalog multi single schema entry) {infoCache : Option InfoCache}
    (hearlier : Earlier catalog infoCache) :
  (∃ value, (single tableName schema infoCache).1 = .ok value) ↔
    (catalog.resolved? tableName schema).isSome
  := by
  have hkeys : (resolveTables catalog (oneTable tableName schema)).tables.items ≠ [] ↔
      (catalog.resolved? tableName schema).isSome := by
    rw [Option.isSome_iff_exists]
    constructor
    · intro hne
      obtain ⟨p, hp⟩ := List.exists_mem_of_ne_nil _ hne
      obtain ⟨t, ht, -⟩ := (mem_keys_oneTable catalog tableName schema p.1).mp
        (List.mem_map_of_mem hp)
      exact ⟨t, ht⟩
    · rintro ⟨t, ht⟩
      obtain ⟨p, hp, -⟩ := List.mem_map.mp
        ((mem_keys_oneTable catalog tableName schema t.id).mpr ⟨t, ht, rfl⟩)
      apply List.ne_nil_of_mem hp
  rw [h.one tableName infoCache hearlier, hearlier.resolveRequest_fst, ← hkeys]
  cases (resolveTables catalog (oneTable tableName schema)).tables.items <;> simp

theorem hasTableIffAnswers_iff {multi : MultiGetter α} {single : SingleGetter α}
    {entry : ObjectId → α} (h : AnswersByTable catalog multi single schema entry) :
  HasTableIffAnswers catalog tableName schema single ↔
    ((catalog.found? tableName schema).isSome ↔ (catalog.resolved? tableName schema).isSome)
  := by
  constructor
  · intro hagree
    have hearlier : Earlier catalog none := ⟨none, [], Or.inl rfl, rfl⟩
    rw [← hasTable_iff, hagree none hearlier, answers_iff catalog tableName schema h hearlier]
  · intro hagree infoCache hearlier
    rw [hasTable_iff, hagree, answers_iff catalog tableName schema h hearlier]

theorem Catalog.mem_of_found? {t : TableRow} (h : catalog.found? tableName schema = some t) :
  t ∈ catalog.tables
  := by
  rw [found?, Option.or_eq_some_iff] at h
  rcases h with h | ⟨-, h⟩
  · apply ((catalog.object?_eq_some_iff tableName schema t).mp h).1
  · split at h
    · apply ((catalog.temporary?_eq_some_iff tableName t).mp h).1
    · simp at h

/-- Existence and reflection agree when the two lookups do. -/
theorem existenceAgrees_iff_found :
  ExistenceAgrees catalog tableName schema ↔
    catalog.found? tableName schema = catalog.resolved? tableName schema
  := by
  have hid := tableId_toOption catalog tableName schema
  constructor
  · intro h
    have hsome := (hasTableIffAnswers_iff catalog tableName schema
      (answersByTable_columns catalog schema)).mp h.answers.columns
    cases hfound : catalog.found? tableName schema with
    | none =>
        rw [hfound] at hsome
        symm
        simpa using hsome
    | some t =>
        obtain ⟨t', ht'⟩ := Option.isSome_iff_exists.mp (hsome.mp (by rw [hfound]; rfl))
        rw [hfound, Option.map_some, Outcome.toOption_eq_some_iff] at hid
        have hsame := h.sameTable t.id hid t'.id
          ((mem_keys_oneTable catalog tableName schema t'.id).mpr ⟨t', ht', rfl⟩)
        have hmem := ((selects_oneTable_iff catalog tableName schema t').mpr ht').admits.mem
        rw [ht', catalog.table_eq_of_id hmem
          (catalog.mem_of_found? tableName schema hfound) hsame]
  · intro h
    constructor
    · apply forAllGetters_of_answersByTable catalog schema
      intro β multi single entry hentry
      rw [hasTableIffAnswers_iff catalog tableName schema hentry, h]
    · intro id hok id' hkey
      obtain ⟨t, ht, rfl⟩ := (mem_keys_oneTable catalog tableName schema id').mp hkey
      rw [h, ht, Option.map_some, Outcome.toOption_eq_some_iff, hok] at hid
      apply (Except.ok.inj hid).symm

/-- Existence and reflection agree exactly on the names whose object reflection knows. -/
theorem existenceAgrees_iff :
  ExistenceAgrees catalog tableName schema ↔ KnownToReflection catalog tableName schema
  := by
  have hknown : KnownToReflection catalog tableName schema ↔
      ∀ t, catalog.object? tableName schema = some t →
        Reflectable t.type ∨
          schema = none ∧ catalog.currentSchema = "tmp" ∧ t.type = tableTypeLocalTemporary := by
    simp only [KnownToReflection, Catalog.object?_eq_some_iff, and_imp]
  rw [existenceAgrees_iff_found, hknown, Catalog.found?, Catalog.resolved?]
  cases hobject : catalog.object? tableName schema with
  | none => simp
  | some o =>
      obtain ⟨ho, hname, hschema⟩ := (catalog.object?_eq_some_iff tableName schema o).mp hobject
      simp only [Option.some_or, Option.filter_some, Option.some.injEq, forall_eq']
      by_cases hknown : Reflectable o.type
      · simp [hknown]
      · have hcurrent : schema = none →
            (catalog.InSchema o "tmp" ↔ catalog.currentSchema = "tmp") := by
          rintro rfl
          constructor
          · rintro ⟨s, hs, hid, htmp⟩
            obtain ⟨s', hs', hid', hname'⟩ := hschema
            rw [← htmp, ← catalog.schema_eq_of_id hs' hs (hid'.symm.trans hid), hname',
              Option.getD_none]
          · intro hcurrent
            rwa [Option.getD_none, hcurrent] at hschema
        simp only [hknown, decide_false, Bool.false_eq_true, if_false, Option.none_or, false_or]
        split
        · rename_i hnone
          rw [eq_comm, catalog.temporary?_eq_some_iff]
          simp only [ho, hname, hcurrent hnone, hnone, true_and]
          apply and_comm
        · rename_i hsome
          simp [hsome]

/-! ### A table of a type that reflection does not know -/

/-- A catalog with an unlogged table. -/
def unloggedCatalog : Catalog where
  schemas := [⟨2000, "sys"⟩, ⟨2114, "tmp"⟩]
  tables := [⟨8000, "log", 2000, 7⟩]
  currentSchema := "sys"
  schemaIds := by decide
  schemaNames := by decide
  tableIds := by decide
  tableNames := by decide
  sequenceNames := noSequenceNames
  currentSchema_mem := by decide

/-- An unlogged table exists, and no getter answers for it. -/
theorem unlogged_exists_without_columns :
  ¬ ExistenceAgrees unloggedCatalog "log" none
  := by
  intro h
  have hearlier : Earlier unloggedCatalog none := ⟨none, [], Or.inl rfl, rfl⟩
  obtain ⟨value, hvalue⟩ := (h.answers.columns none hearlier).mp (by decide)
  have herror : (getColumns unloggedCatalog "log" none none).1 = .error (.noSuchTable "log") := rfl
  rw [herror] at hvalue
  cases hvalue

end MonetDB
