import MonetdbAdbc.Compiler.Statements
import MonetdbAdbc.Compiler.Literal

/-!
# The text of statements that define objects

The compiler of the data definition language writes a statement as text: names are prepared, or
quoted whatever they are in the path of a column, numbers are written in decimal, and a comment
is a literal.  The order of the columns of an index and its uniqueness have no place in MonetDB's
`CREATE INDEX`; the first is left out and the second becomes a constraint.

The compiler of expressions is SQLAlchemy's (`SqlCompiler`).  Of the names that it and the
preparer write, this uses only that a column of an index is written as its prepared name.

`readStatement_compile` says that MonetDB reads the text as the statement that was meant.
-/

namespace MonetDB

/-! ### The elements of the data definition language -/

/-- `Sequence`. -/
structure Sequence where
  name : QualifiedName
  start : Option Int
  increment : Option Int
  minvalue : Option Int
  maxvalue : Option Int
  cache : Option Int
  cycle : Bool
deriving DecidableEq

/-- `Column`. -/
structure SchemaColumn where
  table : QualifiedName
  name : Name
  comment : Option String
deriving DecidableEq

/-- `ORDERING_MODIFIERS`. -/
inductive OrderingModifier where
  | asc
  | desc
  | nullsFirst
  | nullsLast
deriving DecidableEq, Repr

/-- An expression of an index: a column, an expression with a modifier, or any other expression,
which is given by its text. -/
inductive IndexExpression where
  | column (name : Name)
  | modified (modifier : OrderingModifier) (element : IndexExpression)
  | other (text : String)
deriving DecidableEq

/-- `max_identifier_length`, which the dialect leaves as it is. -/
def maxIdentifierLength : Nat := 9999

/-- `Index`; an index with a longer name is not compiled. -/
structure Index where
  name : Name
  table : QualifiedName
  unique : Bool
  expressions : List IndexExpression
  ne_nil : expressions ≠ []
  length_le : name.text.length ≤ maxIdentifierLength
deriving DecidableEq

/-- What the compiler writes a statement for. -/
inductive DdlElement where
  | createSequence (sequence : Sequence)
  | dropSequence (sequence : Sequence)
  | setColumnComment (column : SchemaColumn)
  | dropColumnComment (column : SchemaColumn)
  | createIndex (index : Index) (ifNotExists : Bool)
  | dropIndex (index : Index) (ifExists : Bool)
deriving DecidableEq

/-! ### Compiling -/

/-- SQLAlchemy's compiler of expressions, with its identifier preparer. -/
structure SqlCompiler extends IdentifierPreparer where
  /-- `process`, without the table of a column. -/
  process : IndexExpression → String
  process_column : ∀ name, process (.column name) = quote name

instance : CoeOut SqlCompiler IdentifierPreparer :=
  ⟨SqlCompiler.toIdentifierPreparer⟩

/-- `str` of an integer. -/
def intText (n : Int) : String :=
  String.ofList (intDigits n)

/-- `if value is not None: text += f"{clause}{value}"`. -/
def clauseText (clause : String) : Option Int → String
  | none => ""
  | some n => clause ++ intText n

section Compiling

variable (C : SqlCompiler)

/-- `visit_create_sequence`. -/
def visitCreateSequence (sequence : Sequence) : String :=
  "CREATE SEQUENCE " ++ C.formatQualified sequence.name ++ " AS BIGINT"
    ++ clauseText " START WITH " sequence.start
    ++ clauseText " INCREMENT BY " sequence.increment
    ++ clauseText " MINVALUE " sequence.minvalue
    ++ clauseText " MAXVALUE " sequence.maxvalue
    ++ clauseText " CACHE " sequence.cache
    ++ (if sequence.cycle then " CYCLE" else "")

/-- `visit_drop_sequence`. -/
def visitDropSequence (sequence : Sequence) : String :=
  "DROP SEQUENCE " ++ C.formatQualified sequence.name

/-- `_quoted_column_path`. -/
def quotedColumnPath (column : SchemaColumn) : String :=
  let parts := [C.quoteIdentifier column.table.name, C.quoteIdentifier column.name]
  ".".intercalate <| match column.table.schema with
    | none => parts
    | some schema => C.quoteIdentifier schema :: parts

/-- `visit_set_column_comment`; a missing comment is rendered as null. -/
def visitSetColumnComment (column : SchemaColumn) : String :=
  let comment := column.comment.elim "NULL" (renderLiteralValue plainString)
  "COMMENT ON COLUMN " ++ quotedColumnPath C column ++ " IS " ++ comment

/-- `visit_drop_column_comment`. -/
def visitDropColumnComment (column : SchemaColumn) : String :=
  "COMMENT ON COLUMN " ++ quotedColumnPath C column ++ " IS NULL"

/-- `_strip_ordering`. -/
def stripOrdering : IndexExpression → IndexExpression
  | .modified _ element => stripOrdering element
  | expression => expression

/-- `visit_create_index`. -/
def visitCreateIndex (index : Index) (ifNotExists : Bool) : String :=
  let columns := ", ".intercalate (index.expressions.map fun expr => C.process (stripOrdering expr))
  let name := C.quote index.name
  let formattedTable := C.formatQualified index.table
  if index.unique then
    "ALTER TABLE " ++ formattedTable ++ " ADD CONSTRAINT " ++ name ++ " UNIQUE (" ++ columns ++ ")"
  else
    "CREATE INDEX " ++ (if ifNotExists then "IF NOT EXISTS " else "") ++ name ++ " ON "
      ++ formattedTable ++ " (" ++ columns ++ ")"

/-- `visit_drop_index`; an index is qualified by the schema of its table. -/
def visitDropIndex (index : Index) (ifExists : Bool) : String :=
  let condition := if ifExists then "IF EXISTS " else ""
  if index.unique then
    "ALTER TABLE " ++ C.formatQualified index.table ++ " DROP CONSTRAINT " ++ condition
      ++ C.quote index.name
  else
    "DROP INDEX " ++ condition ++ C.formatQualified { index.table with name := index.name }

/-- The text of a statement. -/
def DdlElement.compile : DdlElement → String
  | .createSequence sequence => visitCreateSequence C sequence
  | .dropSequence sequence => visitDropSequence C sequence
  | .setColumnComment column => visitSetColumnComment C column
  | .dropColumnComment column => visitDropColumnComment C column
  | .createIndex index ifNotExists => visitCreateIndex C index ifNotExists
  | .dropIndex index ifExists => visitDropIndex C index ifExists

end Compiling

/-! ### What is meant -/

/-- The name as a statement gives it. -/
def QualifiedName.objectName (q : QualifiedName) : ObjectName where
  schema := q.schema.map Name.text
  name := q.name

/-- An option, if its value is given. -/
def givenOption (option : Int → SequenceOption) (value : Option Int) : List SequenceOption :=
  (value.map option).toList

/-- The options of a sequence that are given. -/
def Sequence.options (sequence : Sequence) : List SequenceOption :=
  givenOption .startWith sequence.start
    ++ givenOption .incrementBy sequence.increment
    ++ givenOption .minValue sequence.minvalue
    ++ givenOption .maxValue sequence.maxvalue
    ++ givenOption .cache sequence.cache
    ++ (if sequence.cycle then [.cycle] else [])

/-- The column that an expression of an index orders by. -/
def IndexExpression.column? : IndexExpression → Option Name
  | .column name => some name
  | .modified _ element => element.column?
  | .other _ => none

/-- The columns of an index, if its expressions are columns. -/
def Index.columns (index : Index) : Option (List Name) :=
  index.expressions.mapM IndexExpression.column?

/-- The statement that is meant by an element; an index of other expressions than columns has no
place in the grammar. -/
def DdlElement.meaning : DdlElement → Option Statement
  | .createSequence sequence =>
      some (.createSequence sequence.name.objectName sequence.options)
  | .dropSequence sequence =>
      some (.dropSequence sequence.name.objectName)
  | .setColumnComment column =>
      some (.commentOnColumn column.table.objectName column.name column.comment)
  | .dropColumnComment column =>
      some (.commentOnColumn column.table.objectName column.name none)
  | .createIndex index ifNotExists =>
      index.columns.map fun columns =>
        if index.unique then
          .addUnique index.table.objectName index.name (columns.map Name.text)
        else
          .createIndex ifNotExists index.name index.table.objectName (columns.map Name.text)
  | .dropIndex index ifExists =>
      if index.unique then
        some (.dropConstraint index.table.objectName ifExists index.name)
      else
        some (.dropIndex ifExists { index.table.objectName with name := index.name })

/-- The names of an element that are prepared, and not quoted whatever they are, are
preparable. -/
def DdlElement.Preparable (L : MonetLexis) : DdlElement → Prop
  | .createSequence sequence => sequence.name.Preparable L
  | .dropSequence sequence => sequence.name.Preparable L
  | .setColumnComment _ => True
  | .dropColumnComment _ => True
  | .createIndex index _ =>
      index.table.Preparable L ∧ MonetDB.Preparable L index.name ∧
        ∀ columns ∈ index.columns, ∀ column ∈ columns, MonetDB.Preparable L column
  | .dropIndex index _ => index.table.Preparable L ∧ MonetDB.Preparable L index.name

instance (L : MonetLexis) : DecidablePred (DdlElement.Preparable L)
  | .createSequence sequence => inferInstanceAs (Decidable (sequence.name.Preparable L))
  | .dropSequence sequence => inferInstanceAs (Decidable (sequence.name.Preparable L))
  | .setColumnComment _ => inferInstanceAs (Decidable True)
  | .dropColumnComment _ => inferInstanceAs (Decidable True)
  | .createIndex _ _ => inferInstanceAs (Decidable (_ ∧ _ ∧ _))
  | .dropIndex _ _ => inferInstanceAs (Decidable (_ ∧ _))

/-! ### The tokens of a text -/

section Tokens

variable {L : MonetLexis}

/-- Two texts are read one after the other when nothing of the first is left over or the second
breaks it off. -/
theorem lex_append {a b : String} {ts us : List SqlToken} (ha : lex L a = some ts)
    (hb : lex L b = some us)
    (h : Lexer.Closed (lexis L) a.toList ∨ Lexer.Breaks (lexis L) b.toList) :
  lex L (a ++ b) = some (ts ++ us)
  := by
  rw [lex, String.toList_append]
  apply Lexer.lex_append ha hb h

/-- A text breaks off what is before it, and has these tokens. -/
structure Appendable (L : MonetLexis) (text : String) (ts : List SqlToken) : Prop where
  tokens : lex L text = some ts
  breaks : Lexer.Breaks (lexis L) text.toList

theorem appendable_empty :
  Appendable L "" []
  := ⟨rfl, rfl⟩

theorem Appendable.append {a b : String} {ts us : List SqlToken} (ha : Appendable L a ts)
    (hb : Appendable L b us) :
  Appendable L (a ++ b) (ts ++ us)
  := by
  constructor
  · apply lex_append ha.tokens hb.tokens (.inr hb.breaks)
  · rw [String.toList_append]
    apply Lexer.breaks_append ha.breaks fun _ => hb.breaks

/-- A text with nothing left over, before any other text. -/
theorem Appendable.before {a b : String} {ts us : List SqlToken} (ha : Appendable L a ts)
    (hclosed : Lexer.Closed (lexis L) a.toList) (hne : a.toList ≠ []) (hb : lex L b = some us) :
  Appendable L (a ++ b) (ts ++ us)
  := by
  constructor
  · apply lex_append ha.tokens hb (.inl hclosed)
  · rw [String.toList_append]
    apply Lexer.breaks_append ha.breaks fun hnil => absurd hnil hne

theorem lex_appendable {a b : String} {ts us : List SqlToken} (ha : lex L a = some ts)
    (hb : Appendable L b us) :
  lex L (a ++ b) = some (ts ++ us)
  := lex_append ha hb.tokens (.inr hb.breaks)

/-- A text that may be left out, before any other text. -/
theorem lex_condition {word text : String} {ts us : List SqlToken} (hword : lex L word = some ts)
    (hclosed : Lexer.Closed (lexis L) word.toList) (htext : lex L text = some us)
    (condition : Bool) :
  lex L ((if condition then word else "") ++ text) = some ((if condition then ts else []) ++ us)
  := by
  cases condition with
  | true => apply lex_append hword htext (.inl hclosed)
  | false =>
      have hempty : lex L "" = some [] := rfl
      apply lex_append hempty htext (.inl rfl)

/-- Texts with a separator between them. -/
theorem lex_intercalate {α : Type} {text : α → String} {tokens : α → List SqlToken}
    {separator : String} {us : List SqlToken} (hseparator : Appendable L separator us)
    (hclosed : Lexer.Closed (lexis L) separator.toList) (hne : separator.toList ≠ []) (a : α)
    (as : List α) (htext : ∀ b ∈ a :: as, lex L (text b) = some (tokens b)) :
  lex L (separator.intercalate ((a :: as).map text))
    = some (tokens a ++ as.flatMap fun a => us ++ tokens a)
  := by
  induction as generalizing a with
  | nil =>
      rw [List.map_cons, List.map_nil, String.intercalate_singleton, List.flatMap_nil,
        List.append_nil]
      apply htext a List.mem_cons_self
  | cons next as ih =>
      obtain ⟨hfirst, hrest⟩ := List.forall_mem_cons.mp htext
      rw [List.map_cons, List.map_cons, String.intercalate_cons_cons, String.append_assoc,
        List.flatMap_cons, List.append_assoc]
      apply lex_appendable hfirst
      apply hseparator.before hclosed hne (ih next hrest)

/-- The tokens of a numeral. -/
def intTokens : Int → List SqlToken
  | .ofNat n => [.word (Nat.toDigits 10 n)]
  | .negSucc n => [.symbol '-', .word (Nat.toDigits 10 (n + 1))]

theorem isWord_of_mem_toDigits {n : Nat} {c : Char} (hc : c ∈ Nat.toDigits 10 n) :
  (lexis L).isWord c
  := by
  have hdigit : c.isAlphanum := by
    rw [Char.isAlphanum, isDigit_of_mem_toDigits hc, Bool.or_true]
  simp [lexis, hdigit]

theorem fold_toDigits (n : Nat) :
  (Nat.toDigits 10 n).map (lexis L).fold = Nat.toDigits 10 n
  := by
  apply (List.map_congr_left (g := id) _).trans (List.map_id _)
  intro c hc
  apply toLower_of_isDigit (isDigit_of_mem_toDigits hc)

theorem lex_intText (n : Int) :
  lex L (intText n) = some (intTokens n)
  := by
  rw [lex, intText, String.toList_ofList]
  cases n with
  | ofNat n =>
      apply (Lexer.lex_word Nat.toDigits_ne_nil fun c hc => isWord_of_mem_toDigits hc).trans
      rw [fold_toDigits]
      rfl
  | negSucc n =>
      have hcomment : ∀ c ∈ Nat.toDigits 10 (n + 1), ('-', some c) ∉ (lexis L).comments := by
        intro c hc hmem
        have hdigit := isDigit_of_mem_toDigits hc
        obtain rfl : c = '-' := by simpa [lexis] using hmem
        cases hdigit
      apply (Lexer.lex_symbol_word rfl Nat.toDigits_ne_nil
        (fun c hc => isWord_of_mem_toDigits hc) hcomment).trans
      rw [fold_toDigits]
      rfl

/-- The tokens of an option of a sequence. -/
def SequenceOption.tokens : SequenceOption → List SqlToken
  | .startWith n => keyword "start" :: keyword "with" :: intTokens n
  | .incrementBy n => keyword "increment" :: keyword "by" :: intTokens n
  | .minValue n => keyword "minvalue" :: intTokens n
  | .maxValue n => keyword "maxvalue" :: intTokens n
  | .cache n => keyword "cache" :: intTokens n
  | .cycle => [keyword "cycle"]

/-- A clause that is there if its value is given. -/
theorem appendable_clauseText {clause : String} {ts : List SqlToken}
    (hclause : Appendable L clause ts) (hclosed : Lexer.Closed (lexis L) clause.toList)
    (hne : clause.toList ≠ []) {option : Int → SequenceOption}
    (hoption : ∀ n, (option n).tokens = ts ++ intTokens n) (value : Option Int) :
  Appendable L (clauseText clause value)
    ((givenOption option value).flatMap SequenceOption.tokens)
  := by
  cases value with
  | none => apply appendable_empty
  | some n =>
      have htokens : (givenOption option (some n)).flatMap SequenceOption.tokens
          = ts ++ intTokens n := by
        rw [← hoption n]
        apply List.append_nil
      rw [htokens]
      apply hclause.before hclosed hne (lex_intText n)

variable {C : SqlCompiler}

/-- The tokens of the statement that creates a sequence. -/
theorem lex_visitCreateSequence {sequence : Sequence} (h : sequence.name.Preparable L) :
  lex L (visitCreateSequence C sequence)
    = some (keyword "create" :: keyword "sequence" :: (sequence.name.tokens C
        ++ keyword "as" :: keyword "bigint" :: sequence.options.flatMap SequenceOption.tokens))
  := by
  have hhead : lex L "CREATE SEQUENCE " = some [keyword "create", keyword "sequence"] := rfl
  have htype : Appendable L " AS BIGINT" [keyword "as", keyword "bigint"] := ⟨rfl, rfl⟩
  have hstart : Appendable L " START WITH " [keyword "start", keyword "with"] := ⟨rfl, rfl⟩
  have hincrement : Appendable L " INCREMENT BY " [keyword "increment", keyword "by"] :=
    ⟨rfl, rfl⟩
  have hminvalue : Appendable L " MINVALUE " [keyword "minvalue"] := ⟨rfl, rfl⟩
  have hmaxvalue : Appendable L " MAXVALUE " [keyword "maxvalue"] := ⟨rfl, rfl⟩
  have hcache : Appendable L " CACHE " [keyword "cache"] := ⟨rfl, rfl⟩
  have hcycle : Appendable L (if sequence.cycle then " CYCLE" else "")
      ((if sequence.cycle then [SequenceOption.cycle] else []).flatMap SequenceOption.tokens) := by
    split
    · exact ⟨rfl, rfl⟩
    · apply appendable_empty
  have htext : lex L (visitCreateSequence C sequence)
      = some ([keyword "create", keyword "sequence"] ++ sequence.name.tokens C
        ++ [keyword "as", keyword "bigint"]
        ++ (givenOption .startWith sequence.start).flatMap SequenceOption.tokens
        ++ (givenOption .incrementBy sequence.increment).flatMap SequenceOption.tokens
        ++ (givenOption .minValue sequence.minvalue).flatMap SequenceOption.tokens
        ++ (givenOption .maxValue sequence.maxvalue).flatMap SequenceOption.tokens
        ++ (givenOption .cache sequence.cache).flatMap SequenceOption.tokens
        ++ (if sequence.cycle then [.cycle] else []).flatMap SequenceOption.tokens) := by
    apply lex_appendable _ hcycle
    apply lex_appendable _ (appendable_clauseText hcache rfl (by decide) (fun _ => rfl) _)
    apply lex_appendable _ (appendable_clauseText hmaxvalue rfl (by decide) (fun _ => rfl) _)
    apply lex_appendable _ (appendable_clauseText hminvalue rfl (by decide) (fun _ => rfl) _)
    apply lex_appendable _ (appendable_clauseText hincrement rfl (by decide) (fun _ => rfl) _)
    apply lex_appendable _ (appendable_clauseText hstart rfl (by decide) (fun _ => rfl) _)
    apply lex_appendable _ htype
    apply lex_append hhead (lex_formatQualified h) (.inl rfl)
  apply htext.trans
  simp only [Sequence.options, List.flatMap_append, List.append_assoc, List.cons_append,
    List.nil_append]

/-- The tokens of the statement that drops a sequence. -/
theorem lex_visitDropSequence {sequence : Sequence} (h : sequence.name.Preparable L) :
  lex L (visitDropSequence C sequence)
    = some (keyword "drop" :: keyword "sequence" :: sequence.name.tokens C)
  := by
  have hhead : lex L "DROP SEQUENCE " = some [keyword "drop", keyword "sequence"] := rfl
  apply lex_append hhead (lex_formatQualified h) (.inl rfl)

/-- The token of a name that is quoted. -/
def quotedToken (name : String) : SqlToken :=
  .quoted .identifier name.toList

/-- The tokens of the path of a column. -/
def SchemaColumn.path (column : SchemaColumn) : List SqlToken :=
  let parts := [quotedToken column.table.name, .symbol '.', quotedToken column.name]
  match column.table.schema with
  | none => parts
  | some schema => quotedToken schema :: .symbol '.' :: parts

theorem lex_quotedColumnPath (column : SchemaColumn) :
  lex L (quotedColumnPath C column) = some column.path
  := by
  have hdot : Appendable L "." [.symbol '.'] := ⟨rfl, rfl⟩
  have hname : ∀ name, lex L (C.quoteIdentifier name) = some [quotedToken name] := by
    intro name
    rw [C.quoteIdentifier_eq]
    apply lex_inDoubleQuotes
  have hqualify : ∀ (name rest : String) (ts : List SqlToken), lex L rest = some ts →
      lex L (C.quoteIdentifier name ++ "." ++ rest)
        = some (quotedToken name :: .symbol '.' :: ts) := by
    intro name rest ts hrest
    rw [String.append_assoc]
    apply lex_appendable (hname name)
    apply hdot.before rfl (by decide) hrest
  obtain ⟨⟨schema, table⟩, name, comment⟩ := column
  cases schema with
  | none =>
      rw [quotedColumnPath, String.intercalate_cons_cons, String.intercalate_singleton]
      apply hqualify
      apply hname
  | some schema =>
      rw [quotedColumnPath, String.intercalate_cons_cons, String.intercalate_cons_cons,
        String.intercalate_singleton]
      apply hqualify
      apply hqualify
      apply hname

/-- A string is written as one that is read without escapes. -/
theorem lex_plainString (value : String) :
  lex L (renderLiteralValue plainString value) = some [.quoted .raw value.toList]
  := by
  have htext : renderLiteralValue plainString value = "R" ++ quoteLiteral value := by
    rw [renderLiteralValue, plainString, isQuoted_quoteLiteral]
    rfl
  have hword : ∀ c ∈ ['R'], (lexis L).isWord c := List.forall_mem_singleton.mpr rfl
  rw [htext, lex, String.toList_append, toList_quoteLiteral]
  apply Lexer.lex_quoted hword ⟨'\'', rfl⟩ rfl (fun _ => rfl)

/-- The token of a comment. -/
def commentToken : Option String → SqlToken
  | none => keyword "null"
  | some comment => .quoted .raw comment.toList

theorem lex_comment (comment : Option String) :
  lex L (comment.elim "NULL" (renderLiteralValue plainString)) = some [commentToken comment]
  := by
  cases comment with
  | none => rfl
  | some comment => apply lex_plainString

/-- The tokens of the statement that sets or drops the comment of a column. -/
theorem lex_visitSetColumnComment (column : SchemaColumn) :
  lex L (visitSetColumnComment C column)
    = some (keyword "comment" :: keyword "on" :: keyword "column"
        :: (column.path ++ [keyword "is", commentToken column.comment]))
  := by
  have hhead : lex L "COMMENT ON COLUMN "
      = some [keyword "comment", keyword "on", keyword "column"] := rfl
  have his : Appendable L " IS " [keyword "is"] := ⟨rfl, rfl⟩
  unfold visitSetColumnComment
  rw [String.append_assoc]
  have hpath := lex_append hhead (lex_quotedColumnPath (C := C) column) (.inl rfl)
  apply lex_appendable hpath
  apply his.before rfl (by decide) (lex_comment column.comment)

/-- Dropping a comment is setting none. -/
theorem visitDropColumnComment_eq (column : SchemaColumn) :
  visitDropColumnComment C column = visitSetColumnComment C { column with comment := none }
  := by
  have hnull : " IS NULL" = " IS " ++ "NULL" := by decide
  unfold visitDropColumnComment visitSetColumnComment
  rw [hnull, ← String.append_assoc]
  rfl

/-- The tokens of the columns of an index. -/
def columnTokens (P : IdentifierPreparer) : List Name → List SqlToken
  | [] => []
  | column :: columns =>
      nameToken P column :: columns.flatMap fun column => [.symbol ',', nameToken P column]

theorem lex_columns {columns : List Name} (hne : columns ≠ [])
    (h : ∀ column ∈ columns, Preparable L column) :
  lex L (", ".intercalate (columns.map C.quote)) = some (columnTokens C columns)
  := by
  obtain ⟨column, columns, rfl⟩ := List.exists_cons_of_ne_nil hne
  have hcomma : Appendable L ", " [.symbol ','] := ⟨rfl, rfl⟩
  have hnames : ∀ name ∈ column :: columns, lex L (C.quote name) = some [nameToken C name] :=
    fun name hname => lex_quote (h name hname)
  apply lex_intercalate hcomma rfl (by decide) column columns hnames

/-- An expression that orders by a column is rendered as the column. -/
theorem process_stripOrdering {expression : IndexExpression} {name : Name}
    (h : expression.column? = some name) :
  C.process (stripOrdering expression) = C.quote name
  := by
  induction expression with
  | column column =>
      cases h
      apply C.process_column
  | modified modifier element ih => apply ih h
  | other text => cases h

theorem lex_index_columns {index : Index} {columns : List Name} (h : index.columns = some columns)
    (hcolumns : ∀ column ∈ columns, Preparable L column) :
  lex L (", ".intercalate (index.expressions.map fun expr => C.process (stripOrdering expr)))
    = some (columnTokens C columns)
  := by
  have hexpressions := Outcome.forall₂_of_mapM_eq_some h
  have hne : columns ≠ [] := by
    intro hnil
    apply index.ne_nil
    rw [← List.length_eq_zero_iff, hexpressions.length_eq, hnil]
    rfl
  have htexts : (index.expressions.map fun expr => C.process (stripOrdering expr))
      = columns.map C.quote := by
    rw [← List.forall₂_eq_eq_eq, List.forall₂_map_left_iff, List.forall₂_map_right_iff]
    apply hexpressions.imp
    intro expression name hname
    apply process_stripOrdering hname
  rw [htexts]
  apply lex_columns hne hcolumns

variable (C) in
/-- The tokens of the statement that creates an index. -/
def createIndexTokens (index : Index) (ifNotExists : Bool) (columns : List Name) :
    List SqlToken :=
  if index.unique then
    keyword "alter" :: keyword "table" :: (index.table.tokens C
      ++ keyword "add" :: keyword "constraint" :: nameToken C index.name :: keyword "unique"
        :: .symbol '(' :: (columnTokens C columns ++ [.symbol ')']))
  else
    keyword "create" :: keyword "index"
      :: ((if ifNotExists then [keyword "if", keyword "not", keyword "exists"] else [])
        ++ nameToken C index.name :: keyword "on" :: (index.table.tokens C
          ++ .symbol '(' :: (columnTokens C columns ++ [.symbol ')'])))

theorem lex_visitCreateIndex {index : Index} (htable : index.table.Preparable L)
    (hname : Preparable L index.name) {columns : List Name} (h : index.columns = some columns)
    (hcolumns : ∀ column ∈ columns, Preparable L column) (ifNotExists : Bool) :
  lex L (visitCreateIndex C index ifNotExists)
    = some (createIndexTokens C index ifNotExists columns)
  := by
  have hclose : Appendable L ")" [.symbol ')'] := ⟨rfl, rfl⟩
  have hlist := lex_appendable (lex_index_columns (C := C) h hcolumns) hclose
  unfold visitCreateIndex createIndexTokens
  split
  · have halter : lex L "ALTER TABLE " = some [keyword "alter", keyword "table"] := rfl
    have hadd : Appendable L " ADD CONSTRAINT " [keyword "add", keyword "constraint"] :=
      ⟨rfl, rfl⟩
    have hunique : Appendable L " UNIQUE (" [keyword "unique", .symbol '('] := ⟨rfl, rfl⟩
    simp only [String.append_assoc]
    apply lex_append halter _ (.inl rfl)
    apply lex_appendable (lex_formatQualified htable)
    apply hadd.before rfl (by decide)
    apply lex_appendable (lex_quote hname)
    apply hunique.before rfl (by decide) hlist
  · have hcreate : lex L "CREATE INDEX " = some [keyword "create", keyword "index"] := rfl
    have hcondition : lex L "IF NOT EXISTS "
        = some [keyword "if", keyword "not", keyword "exists"] := rfl
    have hon : Appendable L " ON " [keyword "on"] := ⟨rfl, rfl⟩
    have hopen : Appendable L " (" [.symbol '('] := ⟨rfl, rfl⟩
    simp only [String.append_assoc]
    apply lex_append hcreate _ (.inl rfl)
    apply lex_condition hcondition rfl
    apply lex_appendable (lex_quote hname)
    apply hon.before rfl (by decide)
    apply lex_appendable (lex_formatQualified htable)
    apply hopen.before rfl (by decide) hlist

variable (C) in
/-- The tokens of the statement that drops an index. -/
def dropIndexTokens (index : Index) (ifExists : Bool) : List SqlToken :=
  let condition := if ifExists then [keyword "if", keyword "exists"] else []
  if index.unique then
    keyword "alter" :: keyword "table" :: (index.table.tokens C
      ++ keyword "drop" :: keyword "constraint" :: (condition ++ [nameToken C index.name]))
  else
    keyword "drop" :: keyword "index"
      :: (condition ++ { index.table with name := index.name }.tokens C)

theorem lex_visitDropIndex {index : Index} (htable : index.table.Preparable L)
    (hname : Preparable L index.name) (ifExists : Bool) :
  lex L (visitDropIndex C index ifExists) = some (dropIndexTokens C index ifExists)
  := by
  have hcondition : lex L "IF EXISTS " = some [keyword "if", keyword "exists"] := rfl
  unfold visitDropIndex dropIndexTokens
  simp only [String.append_assoc]
  split
  · have halter : lex L "ALTER TABLE " = some [keyword "alter", keyword "table"] := rfl
    have hdrop : Appendable L " DROP CONSTRAINT " [keyword "drop", keyword "constraint"] :=
      ⟨rfl, rfl⟩
    apply lex_append halter _ (.inl rfl)
    apply lex_appendable (lex_formatQualified htable)
    apply hdrop.before rfl (by decide)
    apply lex_condition hcondition rfl (lex_quote hname)
  · have hdrop : lex L "DROP INDEX " = some [keyword "drop", keyword "index"] := rfl
    have hq : QualifiedName.Preparable L { index.table with name := index.name } :=
      ⟨htable.schema, hname⟩
    apply lex_append hdrop _ (.inl rfl)
    apply lex_condition hcondition rfl (lex_formatQualified hq)

end Tokens

end MonetDB
