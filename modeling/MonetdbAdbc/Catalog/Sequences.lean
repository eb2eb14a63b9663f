import MonetdbAdbc.Catalog.Existence

/-!
# Generated sequences

The list of sequences omits those that the default of a column draws from, and the columns
report an identity where the sequence that the default draws from is marked as generated.
`omits_iff` and `reportedAsIdentity_iff` describe the two, and `sequences_agree_iff` says
when they coincide: when no default draws from the sequence, or when it is generated and a
column of a table that a request can resolve draws from it.
-/

namespace MonetDB

variable (catalog : Catalog) (seq : SequenceRow) (n : SchemaRow)

/-- `get_sequence_names` of its schema does not list a sequence. -/
def Omits : Prop :=
  ∃ names, getSequenceNames catalog (some n.name) = .ok names ∧ seq.name ∉ names

/-- A request reports a column as autoincrement, with an identity taken from a sequence: the
column is built from a row whose default names the sequence. -/
def ReportedAsIdentity : Prop :=
  ∃ kw infoCache, Earlier catalog infoCache ∧
    let resolved := (resolveRequest catalog kw infoCache).1
    ∃ r ∈ fetch catalog (columnRows catalog) resolved,
    ∃ p ∈ (getMultiColumns catalog kw infoCache).1,
      (r.1.tableId, p.1.2) ∈ resolved.tables.items ∧
      r.1.default.bind autoincrementDefault = some (n.name, seq.name) ∧
      ∃ column ∈ p.2,
        column = reflectedColumn (requestSequences catalog resolved).get? r ∧
        column.autoincrement ∧ column.identity = some seq.identity

/-- A request can resolve a table: it has a type that reflection knows and lies in a schema,
or it is a temporary table in `tmp`. -/
def Catalog.Resolvable (t : TableRow) : Prop :=
  (Reflectable t.type ∧ ∃ s ∈ catalog.schemas, t.schemaId = s.id) ∨
    (t.type = tableTypeLocalTemporary ∧ catalog.InSchema t "tmp")

/-- The default of a column draws from a sequence. -/
def DrawsFrom (c : ColumnRow) : Prop :=
  c.default = some (nextValueFor n.name seq.name)

/-! ### The list of sequences -/

variable {catalog seq n}

theorem drawnByDefault_iff (h : (seq, n) ∈ catalog.qualifiedSequences) :
  catalog.drawnByDefault seq ↔ ∃ c ∈ catalog.columns, DrawsFrom seq n c
  := by
  obtain ⟨-, hn, hid⟩ := (catalog.mem_qualifiedSequences seq n).mp h
  have hschema : catalog.schemas.find? (·.id = seq.schemaId) = some n :=
    (Query.find?_eq_some_iff catalog.schemaIds _ n).mpr ⟨hn, hid.symm⟩
  simp only [Catalog.drawnByDefault, hschema, List.any_eq_true, Option.any_some,
    decide_eq_true_eq, DrawsFrom]

/-- The list omits a sequence if and only if a default draws from it. -/
theorem omits_iff (h : (seq, n) ∈ catalog.qualifiedSequences) :
  Omits catalog seq n ↔ ∃ c ∈ catalog.columns, DrawsFrom seq n c
  := by
  obtain ⟨hseq, hn, hid⟩ := (catalog.mem_qualifiedSequences seq n).mp h
  have hschema : catalog.schema? (some n.name) = some n :=
    (catalog.schema?_eq_some_iff _ n).mpr ⟨hn, rfl⟩
  have hok : getSequenceNames catalog (some n.name) = .ok (Query.orderBy id
      ((catalog.sequences.filter fun s => s.schemaId = n.id ∧ ¬ catalog.drawnByDefault s).map
        SequenceRow.name)) := by
    rw [getSequenceNames, schemaId_of_some catalog hschema]
    rfl
  have hmem : ∀ name, name ∈ Query.orderBy id
      ((catalog.sequences.filter fun s => s.schemaId = n.id ∧ ¬ catalog.drawnByDefault s).map
        SequenceRow.name) ↔
      ∃ s ∈ catalog.sequences, s.schemaId = n.id ∧ ¬ catalog.drawnByDefault s ∧ s.name = name := by
    intro name
    simp only [Query.mem_orderBy, List.mem_map, List.mem_filter, decide_eq_true_eq, and_assoc]
  rw [← drawnByDefault_iff h]
  constructor
  · rintro ⟨names, hnames, hnot⟩
    obtain rfl := Except.ok.inj (hok.symm.trans hnames)
    by_contra hdrawn
    apply hnot
    apply (hmem seq.name).mpr ⟨seq, hseq, hid, hdrawn, rfl⟩
  · intro hdrawn
    refine ⟨_, hok, ?_⟩
    rw [hmem]
    rintro ⟨s, hs, hsid, hsdrawn, hname⟩
    rw [catalog.sequence_eq_of_name hs hseq (hsid.trans hid.symm) hname] at hsdrawn
    apply hsdrawn hdrawn

/-! ### The reported columns -/

/-- A default names a sequence if and only if it draws from it and the names can be read. -/
theorem default_names_iff {c : ColumnRow} :
  c.default.bind autoincrementDefault = some (n.name, seq.name) ↔
    DrawsFrom seq n c ∧ Quotable n.name ∧ Quotable seq.name
  := by
  simp only [Option.bind_eq_some_iff, autoincrementDefault_eq_some_iff, DrawsFrom]
  constructor
  · rintro ⟨default, hdefault, rfl, hquotable⟩
    exact ⟨hdefault, hquotable⟩
  · rintro ⟨hdefault, hquotable⟩
    exact ⟨_, hdefault, rfl, hquotable⟩

/-- What the column of a row reports of the sequence that its default names. -/
theorem column_of_names (h : (seq, n) ∈ catalog.qualifiedSequences)
    {r : ColumnRow × Option CommentRow}
    (hr : r.1.default.bind autoincrementDefault = some (n.name, seq.name)) :
  (catalog.column r).autoincrement = catalog.generated seq ∧
    (catalog.generated seq → (catalog.column r).identity = some seq.identity)
  := by
  have hsequence : catalog.sequence? (n.name, seq.name) = some (seq, n) :=
    (catalog.sequence?_eq_some_iff _ _).mpr ⟨h, rfl⟩
  simp only [Catalog.column, reflectedColumn, hr, Option.bind_some, hsequence, Option.map_some,
    Option.getD_some, true_and]
  intro hgenerated
  rw [if_pos hgenerated]

/-! ### The tables that requests resolve -/

theorem Request.reflectable_of_mem_types {kw : Request} {type : Int} (h : type ∈ kw.types) :
  Reflectable type
  := by
  have htable : tableTypeTable ∈ tableTypes := List.mem_cons_self
  rcases (kw.mem_types type).mp h with ⟨-, rfl | ⟨-, h⟩⟩ | ⟨-, h | ⟨-, h⟩⟩
  · exact Or.inl htable
  · apply h.imp_right Or.inl
  · exact Or.inr (Or.inr (Or.inl h))
  · exact Or.inr (Or.inr (Or.inr h))

theorem Request.Selects.resolvable {kw : Request} {t : TableRow} (h : kw.Selects catalog t) :
  catalog.Resolvable t
  := by
  rcases h.admits.scope with hown | htmp
  · left
    exact ⟨reflectable_of_mem_types hown.type, h.admits.exists_schema⟩
  · right
    exact ⟨htmp.type, htmp.schema⟩

/-- The request for a temporary table. -/
def temporaryTable (tableName : String) : Request where
  filterNames := some [tableName]
  scope := .TEMPORARY

/-- Every table that can be resolved is resolved by some request. -/
theorem Catalog.Resolvable.exists_selects {t : TableRow} (ht : t ∈ catalog.tables)
    (h : catalog.Resolvable t) :
  ∃ kw : Request, kw.Selects catalog t
  := by
  rcases h with ⟨hreflectable, s, hs, hid⟩ | ⟨htype, hschema⟩
  · use oneTable t.name (some s.name)
    have hobject := (catalog.object?_eq_some_iff t.name (some s.name) t).mpr
      ⟨ht, rfl, s, hs, hid, rfl⟩
    rw [selects_oneTable_iff, Catalog.resolved?, hobject]
    simp [hreflectable]
  · use temporaryTable t.name
    constructor
    · constructor
      · apply ht
      · rintro names ⟨⟩
        apply List.mem_singleton_self _
      · exact Or.inr ⟨rfl, rfl, rfl, htype, hschema⟩
    · intro _ t' ht' _
      rcases ht'.scope with hown | htmp
      · have := hown.scope
        simp [temporaryTable, ObjectScope.TEMPORARY] at this
      · apply htmp.type

/-- The rows of the columns of a resolved table are fetched. -/
theorem exists_mem_fetch_columnRows {kw : Request} {t : TableRow} (ht : kw.Selects catalog t)
    {c : ColumnRow} (hc : c ∈ catalog.columns) (hid : c.tableId = t.id) :
  ∃ cm, (c, cm) ∈ fetch catalog (columnRows catalog) (resolveTables catalog kw) ∧
    catalog.column (c, cm) ∈ catalog.columnsOf t.id
  := by
  have hkey : t.id ∈ (resolveTables catalog kw).tables.keys :=
    List.mem_map_of_mem ((mem_tables_iff catalog kw t.id t.name).mpr ⟨t, ht, rfl, rfl⟩)
  obtain ⟨cm, hcm⟩ :=
    Query.exists_mem_leftJoin (fun (c : ColumnRow) (cm : CommentRow) => decide (c.id = cm.id))
      catalog.comments hc
  have hrow : (c, cm) ∈ columnRows catalog (catalog.home t.id) [t.id] := by
    rw [columnRows, Query.mem_orderBy, List.mem_filter]
    exact ⟨hcm, by simp [hid]⟩
  use cm
  constructor
  · rw [← home_eq catalog hkey,
      ← filter_fetch catalog (selectsBy_columnRows catalog) _ hkey] at hrow
    apply (List.mem_filter.mp hrow).1
  · apply List.mem_map_of_mem hrow

/-- A sequence is reported if and only if it is generated and a column of a table that a
request can resolve draws from it. -/
theorem reportedAsIdentity_iff (h : (seq, n) ∈ catalog.qualifiedSequences) :
  ReportedAsIdentity catalog seq n ↔
    catalog.generated seq ∧ Quotable n.name ∧ Quotable seq.name ∧
      ∃ c ∈ catalog.columns, DrawsFrom seq n c ∧
        ∃ t ∈ catalog.tables, c.tableId = t.id ∧ catalog.Resolvable t
  := by
  constructor
  · rintro ⟨kw, infoCache, hearlier, r, hr, p, hp, htable, hnames, column, hcolumn, rfl, hauto,
      hidentity⟩
    rw [hearlier.resolveRequest_fst] at hr htable hauto
    rw [reflectedColumn_eq catalog hr, (column_of_names h hnames).1] at hauto
    obtain ⟨hdraws, hn, hseq⟩ := default_names_iff.mp hnames
    obtain ⟨t, ht, hid, -⟩ := (mem_tables_iff catalog kw _ _).mp htable
    refine ⟨hauto, hn, hseq, r.1, ?_, hdraws, t, ht.admits.mem, hid.symm, ht.resolvable⟩
    obtain ⟨c, ids, hrow⟩ := exists_of_mem_fetch catalog hr
    rw [columnRows, Query.mem_orderBy, List.mem_filter] at hrow
    apply Query.mem_of_mem_leftJoin hrow.1
  · rintro ⟨hgenerated, hn, hseq, c, hc, hdraws, t, ht, hid, hresolvable⟩
    obtain ⟨kw, hkw⟩ := hresolvable.exists_selects ht
    have hearlier : Earlier catalog none := ⟨none, [], Or.inl rfl, rfl⟩
    have hnames := default_names_iff.mpr ⟨hdraws, hn, hseq⟩
    have hitem := (mem_tables_iff catalog kw t.id t.name).mpr ⟨t, hkw, rfl, rfl⟩
    obtain ⟨cm, hfetch, hcolumn⟩ := exists_mem_fetch_columnRows hkw hc hid
    have hbatched := (answersByTable_columns catalog kw.schema).batched kw none rfl hearlier
    obtain ⟨hauto, hidentity⟩ := column_of_names h (r := (c, cm)) hnames
    use kw, none, hearlier
    dsimp only
    rw [hearlier.resolveRequest_fst] at hbatched ⊢
    refine ⟨(c, cm), hfetch, ((kw.schema, t.name), catalog.columnsOf t.id), ?_, ?_, hnames,
      catalog.column (c, cm), hcolumn, (reflectedColumn_eq catalog hfetch).symm, ?_, ?_⟩
    · rw [hbatched]
      apply List.mem_map_of_mem hitem
    · rw [hid]
      apply hitem
    · rw [hauto, hgenerated]
    · apply hidentity hgenerated

/-! ### Agreement -/

/-- No default draws from a sequence, or the sequence is generated and a column of a table
that a request can resolve draws from it by a default that can be read. -/
def DeclaredOrGenerated (catalog : Catalog) (seq : SequenceRow) (n : SchemaRow) : Prop :=
  (∀ c ∈ catalog.columns, ¬ DrawsFrom seq n c) ∨
    (catalog.generated seq ∧ Quotable n.name ∧ Quotable seq.name ∧
      ∃ c ∈ catalog.columns, DrawsFrom seq n c ∧
        ∃ t ∈ catalog.tables, c.tableId = t.id ∧ catalog.Resolvable t)

/-- The list of sequences and the reported columns agree on a sequence exactly when no
default draws from it, or it is generated and a reported column draws from it. -/
theorem sequences_agree_iff (h : (seq, n) ∈ catalog.qualifiedSequences) :
  (Omits catalog seq n ↔ ReportedAsIdentity catalog seq n) ↔
    DeclaredOrGenerated catalog seq n
  := by
  rw [omits_iff h, reportedAsIdentity_iff h, DeclaredOrGenerated]
  constructor
  · intro hagree
    by_cases hdraws : ∃ c ∈ catalog.columns, DrawsFrom seq n c
    · right
      apply hagree.mp hdraws
    · left
      push Not at hdraws
      apply hdraws
  · rintro (hdraws | hgenerated)
    · constructor
      · rintro ⟨c, hc, hdraws'⟩
        exact absurd hdraws' (hdraws c hc)
      · rintro ⟨-, -, -, c, hc, hdraws', -⟩
        exact absurd hdraws' (hdraws c hc)
    · constructor
      · intro _
        apply hgenerated
      · rintro ⟨-, -, -, c, hc, hdraws, -⟩
        exact ⟨c, hc, hdraws⟩

/-- A catalog with a sequence that the user declared and that a default draws from. -/
def declaredCatalog : Catalog where
  schemas := [⟨2000, "app"⟩, ⟨2114, "tmp"⟩]
  tables := [⟨8000, "orders", 2000, 0⟩]
  columns :=
    [{ id := 8001, tableId := 8000, name := "no", type := "int", number := 0
       default := some (nextValueFor "app" "order_no") }]
  sequences := [{ id := 8002, schemaId := 2000, name := "order_no" }]
  currentSchema := "app"
  schemaIds := appSchemaIds
  schemaNames := appSchemaNames
  tableIds := by decide
  tableNames := by decide
  sequenceNames := by decide
  currentSchema_mem := app_mem_schemas

theorem sequences_agree_declared :
  (Omits declaredCatalog { id := 8002, schemaId := 2000, name := "order_no" } ⟨2000, "app"⟩ ↔
      ReportedAsIdentity declaredCatalog { id := 8002, schemaId := 2000, name := "order_no" }
        ⟨2000, "app"⟩) ↔
    DeclaredOrGenerated declaredCatalog { id := 8002, schemaId := 2000, name := "order_no" }
      ⟨2000, "app"⟩
  := by
  apply sequences_agree_iff
  decide

/-- The sequence is not listed, and no column reports it. -/
theorem declared_sequence_omitted :
  ¬ (Omits declaredCatalog { id := 8002, schemaId := 2000, name := "order_no" } ⟨2000, "app"⟩ ↔
    ReportedAsIdentity declaredCatalog { id := 8002, schemaId := 2000, name := "order_no" }
      ⟨2000, "app"⟩)
  := by
  have h : (({ id := 8002, schemaId := 2000, name := "order_no" }, ⟨2000, "app"⟩) :
      SequenceRow × SchemaRow) ∈ declaredCatalog.qualifiedSequences := by decide
  rw [omits_iff h, reportedAsIdentity_iff h]
  intro hagree
  obtain ⟨hgenerated, -⟩ := hagree.mp ⟨_, List.mem_cons_self, rfl⟩
  revert hgenerated
  decide

end MonetDB
