import MonetdbAdbc.Compiler.DdlText

/-!
# Reading the text of statements that define objects

The tokens of each part of a statement are read as what the part is for, by one rule for each
part, and so the text of a statement is read as the statement that was meant
(`readStatement_compile`).
-/

namespace MonetDB

variable {L : MonetLexis} {P : IdentifierPreparer} {C : SqlCompiler} {rest : List SqlToken}

/-! ### Names -/

theorem reads_identifier {name : Name} (h : Preparable L name) (rest : List SqlToken) :
  (identifier L).Reads [nameToken P name] name rest
  := Parser.reads_token (readIdentifier_nameToken h) rest

/-- A prepared name is not confused with a reserved word. -/
theorem nameToken_ne_keyword {name : Name} (h : Preparable L name) {word : String}
    (hword : word ∈ reservedWords) :
  nameToken P name ≠ keyword word
  := by
  rw [nameToken, keyword]
  split
  · simp
  · rename_i hquoted
    rw [Ne, Lexer.Token.word.injEq, String.toList_inj]
    rintro rfl
    apply (bare_of_ne h hquoted).2.reserved hword

theorem reads_quoted (name : String) (rest : List SqlToken) :
  (identifier L).Reads [quotedToken name] name rest
  := by
  apply Parser.reads_token
  simp [readIdentifier, quotedToken]

/-- A qualified name is read when no dot follows it. -/
theorem reads_objectName {q : QualifiedName} (h : q.Preparable L)
    (hrest : rest.head? ≠ some (.symbol '.')) :
  (objectName L).Reads (q.tokens P) q.objectName rest
  := by
  obtain ⟨schema, name⟩ := q
  cases schema with
  | none =>
      apply Parser.Reads.bind (l := [nameToken P name]) (m := []) (reads_identifier h.name _)
      apply Parser.Reads.bind (l := []) (m := [])
      · apply Parser.reads_optional_none
        apply Parser.Fails.bind
        apply Parser.fails_exactly hrest
      · apply Parser.reads_pure
  | some schema =>
      apply Parser.Reads.bind (l := [nameToken P schema]) (reads_identifier (h.schema schema rfl) _)
      apply Parser.Reads.bind (l := [.symbol '.', nameToken P name]) (m := [])
      · apply Parser.Reads.optional
        apply Parser.Reads.after
        apply reads_identifier h.name
      · apply Parser.reads_pure

/-- The path of a column is read when no dot follows it. -/
theorem reads_columnPath (column : SchemaColumn) (hrest : rest.head? ≠ some (.symbol '.')) :
  (columnPath L).Reads column.path (column.table.objectName, column.name.text) rest
  := by
  obtain ⟨⟨schema, table⟩, name, comment⟩ := column
  cases schema with
  | none =>
      apply Parser.Reads.bind (l := [quotedToken table]) (reads_quoted table _)
      apply Parser.Reads.after
      apply Parser.Reads.bind (l := [quotedToken name]) (m := []) (reads_quoted name _)
      apply Parser.Reads.bind (l := []) (m := [])
      · apply Parser.reads_optional_none
        apply Parser.Fails.bind
        apply Parser.fails_exactly hrest
      · apply Parser.reads_pure
  | some schema =>
      apply Parser.Reads.bind (l := [quotedToken schema]) (reads_quoted schema _)
      apply Parser.Reads.after
      apply Parser.Reads.bind (l := [quotedToken table]) (reads_quoted table _)
      apply Parser.Reads.bind (l := [.symbol '.', quotedToken name]) (m := [])
      · apply Parser.Reads.optional
        apply Parser.Reads.after
        apply reads_quoted
      · apply Parser.reads_pure

/-- Names with commas between them are read. -/
theorem reads_names {columns : List Name} (hne : columns ≠ [])
    (h : ∀ column ∈ columns, Preparable L column) (hrest : rest.head? ≠ some (.symbol ',')) :
  (Parser.separated (.symbol ',') (identifier L)).Reads (columnTokens P columns)
    (columns.map Name.text) rest
  := by
  obtain ⟨column, columns, rfl⟩ := List.exists_cons_of_ne_nil hne
  let part (column : Name) : List SqlToken × String := ([nameToken P column], column)
  have hparts : ∀ p ∈ (column :: columns).map part, ∀ rest,
      (identifier L).Reads p.1 p.2 rest := by
    intro p hp
    obtain ⟨name, hname, rfl⟩ := List.mem_map.mp hp
    apply reads_identifier (h name hname)
  have hread := Parser.reads_separated hparts hrest
  rw [List.flatMap_map, List.map_map] at hread
  apply hread

/-- Names in parentheses are read. -/
theorem reads_nameList {columns : List Name} (hne : columns ≠ [])
    (h : ∀ column ∈ columns, Preparable L column) (rest : List SqlToken) :
  (nameList L).Reads (.symbol '(' :: (columnTokens P columns ++ [.symbol ')']))
    (columns.map Name.text) rest
  := by
  apply Parser.Reads.after
  have hclose : (.symbol ')' :: rest : List SqlToken).head? ≠ some (.symbol ',') := by simp
  apply Parser.Reads.bind (l := columnTokens P columns) (reads_names hne h hclose)
  apply Parser.Reads.after (m := [])
  apply Parser.reads_pure

/-! ### Options of a sequence -/

theorem reads_natural (n : Nat) (rest : List SqlToken) :
  natural.Reads [.word (Nat.toDigits 10 n)] n rest
  := by
  apply Parser.reads_token
  apply readNatural_toDigits

/-- A numeral with its sign is read. -/
theorem reads_integer (n : Int) (rest : List SqlToken) :
  integer.Reads (intTokens n) n rest
  := by
  let minus : SqlToken := .symbol '-'
  cases n with
  | ofNat n =>
      apply Parser.Reads.bind (l := []) (a := false)
      · apply Parser.reads_flag_false (t := minus)
        simp [minus]
      · apply (reads_natural n rest).returns
  | negSucc n =>
      apply Parser.Reads.bind (l := [minus]) (a := true)
      · apply Parser.reads_flag_true
      · apply (reads_natural (n + 1) rest).returns

/-- An option of a sequence is read. -/
theorem reads_sequenceOption (option : SequenceOption) (rest : List SqlToken) :
  sequenceOption.Reads option.tokens option rest
  := by
  cases option with
  | startWith n =>
      apply Parser.reads_keyed (t := keyword "start")
      · rfl
      · apply Parser.Reads.after
        apply (reads_integer n rest).map
  | incrementBy n =>
      apply Parser.reads_keyed (t := keyword "increment")
      · rfl
      · apply Parser.Reads.after
        apply (reads_integer n rest).map
  | minValue n =>
      apply Parser.reads_keyed (t := keyword "minvalue")
      · rfl
      · apply (reads_integer n rest).map
  | maxValue n =>
      apply Parser.reads_keyed (t := keyword "maxvalue")
      · rfl
      · apply (reads_integer n rest).map
  | cache n =>
      apply Parser.reads_keyed (t := keyword "cache")
      · rfl
      · apply (reads_integer n rest).map
  | cycle =>
      apply Parser.reads_keyed (t := keyword "cycle")
      · rfl
      · apply Parser.reads_pure

/-! ### Statements -/

theorem tokens_ne_nil (option : SequenceOption) :
  option.tokens ≠ []
  := by
  cases option <;> apply List.cons_ne_nil

theorem reads_createSequence {sequence : Sequence} (h : sequence.name.Preparable L) :
  (createSequence L).Reads
    (sequence.name.tokens P
      ++ keyword "as" :: keyword "bigint" :: sequence.options.flatMap SequenceOption.tokens)
    (.createSequence sequence.name.objectName sequence.options) []
  := by
  let part (option : SequenceOption) : List SqlToken × SequenceOption := (option.tokens, option)
  have hoptions : (Parser.many sequenceOption).Reads
      ((sequence.options.map part).flatMap Prod.fst) ((sequence.options.map part).map Prod.snd)
      [] := by
    apply Parser.reads_many
    · intro p hp
      obtain ⟨option, -, rfl⟩ := List.mem_map.mp hp
      apply tokens_ne_nil
    · intro p hp rest
      obtain ⟨option, -, rfl⟩ := List.mem_map.mp hp
      apply reads_sequenceOption
    · rfl
  rw [List.flatMap_map, List.map_map] at hoptions
  apply Parser.Reads.bind (reads_objectName h (by simp [keyword]))
  apply Parser.Reads.after
  have hself : sequence.options.map (Prod.snd ∘ part) = sequence.options := List.map_id _
  rw [hself] at hoptions
  apply hoptions.returns

theorem reads_comment (column : SchemaColumn) :
  (comment L).Reads
    (keyword "on" :: keyword "column"
      :: (column.path ++ [keyword "is", commentToken column.comment]))
    (.commentOnColumn column.table.objectName column.name column.comment) []
  := by
  apply Parser.Reads.after
  apply Parser.Reads.bind (reads_columnPath column (by simp [keyword]))
  apply Parser.Reads.after
  have hcomment : (Parser.orElse (some <$> rawString) do
      Parser.exactly [keyword "null"]
      return none).Reads [commentToken column.comment] column.comment [] := by
    cases column.comment with
    | none =>
        apply Parser.Reads.orElse_right
        · apply Parser.Reads.after (m := [])
          apply Parser.reads_pure
        · apply Parser.Fails.bind
          apply Parser.fails_token
          rintro t ⟨⟩
          rfl
    | some text =>
        apply Parser.Reads.orElse_left
        apply Parser.Reads.map
        apply Parser.reads_token
        simp [commentToken]
  apply hcomment.returns

section Indexes

variable {index : Index} {columns : List Name}

theorem columns_ne_nil (h : index.columns = some columns) :
  columns ≠ []
  := by
  have hlength := (Outcome.forall₂_of_mapM_eq_some h).length_eq
  rintro rfl
  apply index.ne_nil (List.eq_nil_of_length_eq_zero hlength)

theorem head?_tokens_ne {q : QualifiedName} (h : q.Preparable L) {word : String}
    (hword : word ∈ reservedWords) (rest : List SqlToken) :
  (q.tokens P ++ rest).head? ≠ some (keyword word)
  := by
  obtain ⟨schema, name⟩ := q
  cases schema with
  | none => simp [QualifiedName.tokens, nameToken_ne_keyword h.name hword]
  | some schema => simp [QualifiedName.tokens, nameToken_ne_keyword (h.schema schema rfl) hword]

theorem reads_createIndex (hcolumns : index.columns = some columns)
    (htable : index.table.Preparable L) (hname : Preparable L index.name)
    (h : ∀ column ∈ columns, Preparable L column) (ifNotExists : Bool) :
  (createIndex L).Reads
    ((if ifNotExists then [keyword "if", keyword "not", keyword "exists"] else [])
      ++ nameToken P index.name :: keyword "on" :: (index.table.tokens P
        ++ .symbol '(' :: (columnTokens P columns ++ [.symbol ')'])))
    (.createIndex ifNotExists index.name index.table.objectName (columns.map Name.text)) []
  := by
  have hif : nameToken P index.name ≠ keyword "if" := nameToken_ne_keyword hname (by decide)
  apply Parser.Reads.bind
  · apply Parser.reads_flag
    simp [hif]
  · apply Parser.Reads.bind (l := [nameToken P index.name]) (reads_identifier hname _)
    apply Parser.Reads.after
    apply Parser.Reads.bind (reads_objectName htable (by simp))
    apply (reads_nameList (columns_ne_nil hcolumns) h []).returns

theorem reads_dropIndex (htable : index.table.Preparable L) (hname : Preparable L index.name)
    (ifExists : Bool) :
  (dropIndex L).Reads
    ((if ifExists then [keyword "if", keyword "exists"] else [])
      ++ { index.table with name := index.name }.tokens P)
    (.dropIndex ifExists { index.table.objectName with name := index.name }) []
  := by
  have hq : QualifiedName.Preparable L { index.table with name := index.name } :=
    ⟨htable.schema, hname⟩
  apply Parser.Reads.bind
  · apply Parser.reads_flag
    apply head?_tokens_ne hq (by decide)
  · apply (reads_objectName hq (by simp)).returns

theorem reads_addUnique (hcolumns : index.columns = some columns)
    (htable : index.table.Preparable L) (hname : Preparable L index.name)
    (h : ∀ column ∈ columns, Preparable L column) :
  (alterTable L).Reads
    (keyword "table" :: (index.table.tokens P
      ++ keyword "add" :: keyword "constraint" :: nameToken P index.name :: keyword "unique"
        :: .symbol '(' :: (columnTokens P columns ++ [.symbol ')'])))
    (.addUnique index.table.objectName index.name (columns.map Name.text)) []
  := by
  apply Parser.Reads.after
  apply Parser.Reads.bind (reads_objectName htable (by simp [keyword]))
  apply Parser.reads_keyed
  · rfl
  · apply Parser.Reads.after
    apply Parser.Reads.bind (l := [nameToken P index.name]) (reads_identifier hname _)
    apply Parser.Reads.after
    apply (reads_nameList (columns_ne_nil hcolumns) h []).returns

theorem reads_dropConstraint (htable : index.table.Preparable L) (hname : Preparable L index.name)
    (ifExists : Bool) :
  (alterTable L).Reads
    (keyword "table" :: (index.table.tokens P
      ++ keyword "drop" :: keyword "constraint"
        :: ((if ifExists then [keyword "if", keyword "exists"] else [])
          ++ [nameToken P index.name])))
    (.dropConstraint index.table.objectName ifExists index.name) []
  := by
  have hif : nameToken P index.name ≠ keyword "if" := nameToken_ne_keyword hname (by decide)
  apply Parser.Reads.after
  apply Parser.Reads.bind (reads_objectName htable (by simp [keyword]))
  apply Parser.reads_keyed
  · rfl
  · apply Parser.Reads.after
    apply Parser.Reads.bind
    · apply Parser.reads_flag
      simp [hif]
    · apply (reads_identifier hname []).returns

end Indexes

theorem readStatement_of_reads {text : String} {ts : List SqlToken} {s : Statement}
    (hlex : lex L text = some ts) (hreads : (statement L).Reads ts s []) :
  readStatement L text = some s
  := by
  rw [readStatement, hlex, Option.bind_some, hreads.all]

/-- The tokens of the text of an element are those of the statement that is meant by it. -/
theorem exists_reads_compile {element : DdlElement} (hnames : element.Preparable L)
    {s : Statement} (hmeaning : element.meaning = some s) :
  ∃ ts, lex L (element.compile C) = some ts ∧ (statement L).Reads ts s []
  := by
  cases element with
  | createSequence sequence =>
      cases hmeaning
      refine ⟨_, lex_visitCreateSequence hnames, ?_⟩
      apply Parser.reads_keyed (t := keyword "create") rfl
      apply Parser.reads_keyed (t := keyword "sequence") rfl
      apply reads_createSequence hnames
  | dropSequence sequence =>
      cases hmeaning
      refine ⟨_, lex_visitDropSequence hnames, ?_⟩
      apply Parser.reads_keyed (t := keyword "drop") rfl
      apply Parser.reads_keyed (t := keyword "sequence") rfl
      apply (reads_objectName hnames (by simp)).map
  | setColumnComment column =>
      cases hmeaning
      refine ⟨_, lex_visitSetColumnComment column, ?_⟩
      apply Parser.reads_keyed (t := keyword "comment") rfl
      apply reads_comment column
  | dropColumnComment column =>
      cases hmeaning
      rw [DdlElement.compile, visitDropColumnComment_eq]
      refine ⟨_, lex_visitSetColumnComment _, ?_⟩
      apply Parser.reads_keyed (t := keyword "comment") rfl
      apply reads_comment { column with comment := none }
  | createIndex index ifNotExists =>
      obtain ⟨htable, hname, hcolumns⟩ := hnames
      obtain ⟨columns, hindex, rfl⟩ := Option.map_eq_some_iff.mp hmeaning
      have hlex := lex_visitCreateIndex (C := C) htable hname hindex (hcolumns columns hindex)
        ifNotExists
      unfold createIndexTokens at hlex
      split
      · rename_i hunique
        rw [if_pos hunique] at hlex
        refine ⟨_, hlex, ?_⟩
        apply Parser.reads_keyed (t := keyword "alter") rfl
        apply reads_addUnique hindex htable hname (hcolumns columns hindex)
      · rename_i hunique
        rw [if_neg hunique] at hlex
        refine ⟨_, hlex, ?_⟩
        apply Parser.reads_keyed (t := keyword "create") rfl
        apply Parser.reads_keyed (t := keyword "index") rfl
        apply reads_createIndex hindex htable hname (hcolumns columns hindex)
  | dropIndex index ifExists =>
      obtain ⟨htable, hname⟩ := hnames
      have hlex := lex_visitDropIndex (C := C) htable hname ifExists
      unfold dropIndexTokens at hlex
      rw [DdlElement.meaning] at hmeaning
      split at hmeaning
      · rename_i hunique
        rw [if_pos hunique] at hlex
        cases hmeaning
        refine ⟨_, hlex, ?_⟩
        apply Parser.reads_keyed (t := keyword "alter") rfl
        apply reads_dropConstraint htable hname
      · rename_i hunique
        rw [if_neg hunique] at hlex
        cases hmeaning
        refine ⟨_, hlex, ?_⟩
        apply Parser.reads_keyed (t := keyword "drop") rfl
        apply Parser.reads_keyed (t := keyword "index") rfl
        apply reads_dropIndex htable hname

/-- The text of a modifier. -/
def OrderingModifier.text : OrderingModifier → String
  | .asc => " ASC"
  | .desc => " DESC"
  | .nullsFirst => " NULLS FIRST"
  | .nullsLast => " NULLS LAST"

/-- The text of an expression, with names that are bare where that is possible. -/
def IndexExpression.text : IndexExpression → String
  | .column name => bareOrQuoted name
  | .modified modifier element => element.text ++ modifier.text
  | .other text => text

/-- A compiler that leaves names bare where that is possible. -/
def bareCompiler : SqlCompiler where
  toIdentifierPreparer := barePreparer
  process := IndexExpression.text
  process_column _ := rfl

/-- An index of two columns, one of them in descending order; three of the names need quotes. -/
def orderIndex : Index where
  name := ⟨"ix\"order", none, by decide⟩
  table := ⟨some ⟨"app", none, by decide⟩, ⟨"Order", none, by decide⟩⟩
  unique := false
  expressions :=
    [.column ⟨"select", none, by decide⟩, .modified .desc (.column ⟨"id", none, by decide⟩)]
  ne_nil := List.cons_ne_nil _ _
  length_le := by decide

end MonetDB
