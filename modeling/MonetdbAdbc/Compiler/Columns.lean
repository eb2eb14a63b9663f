import MonetdbAdbc.Compiler.DdlReading
import MonetdbAdbc.Compiler.Types

/-!
# Columns in statements that define tables

The compiler writes a column of a table as its name and its type, followed by what applies of
`AUTO_INCREMENT` or a default, the options of an identity, and `NOT NULL`.  A column whose values
SQLAlchemy would generate by itself is written with `AUTO_INCREMENT`, and then without a default.

MonetDB reads each part where the compiler wrote it: nothing of a name, of a string or of a
sequence in a default is read as one of the words that begin the next part, since these words
are reserved (`readColumn_getColumnSpecification`).  Any other default is `Plain` if it has none of
them outside of quotes, and no comment.  What SQLAlchemy writes of a default and of an identity is
a parameter (`DdlCompiler`).  Together with what is known about types, a column that is written for
a reflected type is stored as the one that was reflected (`readColumn_reflected`).
-/

namespace MonetDB

/-! ### Columns -/

/-- `server_default`: a string, the next value of a sequence, or another expression, which is given
by its text. -/
inductive DefaultClause where
  | string (value : String)
  | nextValue (sequence : QualifiedName)
  | expression (text : String)
deriving DecidableEq

/-- An option that `get_identity_options` renders. -/
inductive IdentityOption where
  | given (option : SequenceOption)
  | noMinValue
  | noMaxValue
  | noCycle
deriving DecidableEq, Repr

/-- `Identity`, with the options that `get_identity_options` renders, in its order. -/
structure Identity where
  always : Bool
  options : List IdentityOption
deriving DecidableEq, Repr

/-- `column.default`. -/
inductive PythonDefault where
  | sequence (isOptional : Bool)
  | other
deriving DecidableEq, Repr

/-- A column of a table that is created. -/
structure ColumnDeclaration where
  name : Name
  type : ColumnType
  primaryKey : Bool
  /-- `column is column.table.autoincrement_column`. -/
  isAutoincrementColumn : Bool
  default : Option PythonDefault
  serverDefault : Option DefaultClause
  identity : Option Identity
  nullable : Bool

/-! ### Writing -/

/-- The text of a declaration. -/
def Declaration.text (declaration : Declaration) : String :=
  declaration.keyword
    ++ (if declaration.arguments = [] then "" else
        "(" ++ ", ".intercalate (declaration.arguments.map intText) ++ ")")
    ++ (if declaration.withTimeZone then " WITH TIME ZONE" else "")

/-- `visit_sequence`. -/
def visitSequence (P : IdentifierPreparer) (sequence : QualifiedName) : String :=
  "NEXT VALUE FOR " ++ P.formatQualified sequence

/-- The text of an option. -/
def SequenceOption.text : SequenceOption → String
  | .startWith n => "START WITH " ++ intText n
  | .incrementBy n => "INCREMENT BY " ++ intText n
  | .minValue n => "MINVALUE " ++ intText n
  | .maxValue n => "MAXVALUE " ++ intText n
  | .cache n => "CACHE " ++ intText n
  | .cycle => "CYCLE"

def IdentityOption.text : IdentityOption → String
  | .given option => option.text
  | .noMinValue => "NO MINVALUE"
  | .noMaxValue => "NO MAXVALUE"
  | .noCycle => "NO CYCLE"

/-- SQLAlchemy's compiler of the data definition language, with its compiler of expressions. -/
structure DdlCompiler extends SqlCompiler where
  /-- `get_identity_options`. -/
  getIdentityOptions : Identity → String
  /-- `get_column_default_string`, of a column with a server default. -/
  getColumnDefaultString : DefaultClause → String
  getIdentityOptions_eq : ∀ identity, getIdentityOptions identity =
    " ".intercalate (identity.options.map IdentityOption.text)
  getColumnDefaultString_string : ∀ value, getColumnDefaultString (.string value) =
    renderLiteralValue plainString value
  getColumnDefaultString_nextValue : ∀ sequence, getColumnDefaultString (.nextValue sequence) =
    visitSequence toIdentifierPreparer sequence

instance : CoeOut DdlCompiler IdentifierPreparer :=
  ⟨fun C => C.toIdentifierPreparer⟩

section Writing

variable (C : DdlCompiler)

/-- `visit_identity_column`. -/
def visitIdentityColumn (identity : Identity) : String :=
  let options := C.getIdentityOptions identity
  "GENERATED " ++ (if identity.always then "ALWAYS" else "BY DEFAULT") ++ " AS IDENTITY"
    ++ (if options = "" then "" else " (" ++ options ++ ")")

/-- The column is written with `AUTO_INCREMENT`. -/
def ColumnDeclaration.autoIncrements (column : ColumnDeclaration) : Bool :=
  column.primaryKey && column.isAutoincrementColumn && column.identity.isNone
    && (column.default.isNone || column.default = some (.sequence true))

/-- `get_column_specification`; a column of the null type cannot be compiled. -/
def getColumnSpecification (G : GenericTypeCompiler) (column : ColumnDeclaration) :
    Option String :=
  (process G column.type).map fun type =>
    C.quote column.name ++ " " ++ type.text
      ++ (if column.autoIncrements then " AUTO_INCREMENT" else
          column.serverDefault.elim "" fun default =>
            " DEFAULT " ++ C.getColumnDefaultString default)
      ++ (column.identity.elim "" fun identity => " " ++ visitIdentityColumn C identity)
      ++ (if column.nullable then "" else " NOT NULL")

end Writing

/-! ### What is meant -/

/-- A part of a column after its type. -/
inductive ColumnOption where
  | autoIncrement
  /-- The tokens of the default. -/
  | default (value : List SqlToken)
  | identity (always : Bool) (options : List IdentityOption)
  | notNull
deriving DecidableEq

/-- A column as a statement defines it. -/
structure ColumnDefinition where
  name : String
  type : Declaration
  options : List ColumnOption
deriving DecidableEq

section Meaning

variable (L : MonetLexis) (C : DdlCompiler)

/-- The tokens of a default. -/
def DefaultClause.tokens : DefaultClause → List SqlToken
  | .string value => [.quoted .raw value.toList]
  | .nextValue sequence =>
      keyword "next" :: keyword "value" :: keyword "for" :: sequence.tokens C
  | .expression text => (lex L (C.getColumnDefaultString (.expression text))).getD []

/-- The parts that are meant to follow the type. -/
def ColumnDeclaration.options (column : ColumnDeclaration) : List ColumnOption :=
  (if column.autoIncrements then [.autoIncrement] else
      (column.serverDefault.map fun default => .default (default.tokens L C)).toList)
    ++ (column.identity.map fun identity => .identity identity.always identity.options).toList
    ++ (if column.nullable then [] else [.notNull])

/-- The definition that is meant by a column. -/
def ColumnDeclaration.definition (G : GenericTypeCompiler) (column : ColumnDeclaration) :
    Option ColumnDefinition :=
  (process G column.type).map fun type => ⟨column.name, type, column.options L C⟩

end Meaning

/-! ### Reading -/

/-- The words of each type. -/
def typeWords : List (String × List String) :=
  [("DECIMAL", ["decimal"]),
    ("FLOAT", ["float"]),
    ("REAL", ["real"]),
    ("DOUBLE PRECISION", ["double", "precision"]),
    ("INTEGER", ["integer"]),
    ("SMALLINT", ["smallint"]),
    ("BIGINT", ["bigint"]),
    ("TINYINT", ["tinyint"]),
    ("HUGEINT", ["hugeint"]),
    ("BOOLEAN", ["boolean"]),
    ("VARCHAR", ["varchar"]),
    ("CLOB", ["clob"]),
    ("CHAR", ["char"]),
    ("BLOB", ["blob"]),
    ("DATE", ["date"]),
    ("TIMESTAMP", ["timestamp"]),
    ("TIME", ["time"]),
    ("INTERVAL SECOND", ["interval", "second"]),
    ("INTERVAL MONTH", ["interval", "month"]),
    ("UUID", ["uuid"]),
    ("JSON", ["json"]),
    ("INET", ["inet"]),
    ("URL", ["url"])]

/-- The words of a type. -/
def typeKeyword : Parser SqlToken String :=
  .keyed [
    (keyword "decimal", pure "DECIMAL"),
    (keyword "float", pure "FLOAT"),
    (keyword "real", pure "REAL"),
    (keyword "double", do
      Parser.exactly [keyword "precision"]
      return "DOUBLE PRECISION"),
    (keyword "integer", pure "INTEGER"),
    (keyword "smallint", pure "SMALLINT"),
    (keyword "bigint", pure "BIGINT"),
    (keyword "tinyint", pure "TINYINT"),
    (keyword "hugeint", pure "HUGEINT"),
    (keyword "boolean", pure "BOOLEAN"),
    (keyword "varchar", pure "VARCHAR"),
    (keyword "clob", pure "CLOB"),
    (keyword "char", pure "CHAR"),
    (keyword "blob", pure "BLOB"),
    (keyword "date", pure "DATE"),
    (keyword "timestamp", pure "TIMESTAMP"),
    (keyword "time", pure "TIME"),
    (keyword "interval", .keyed [
      (keyword "second", pure "INTERVAL SECOND"),
      (keyword "month", pure "INTERVAL MONTH")]),
    (keyword "uuid", pure "UUID"),
    (keyword "json", pure "JSON"),
    (keyword "inet", pure "INET"),
    (keyword "url", pure "URL")]

/-- A type, with its arguments in parentheses. -/
def dataType : Parser SqlToken Declaration := do
  let keyword' ← typeKeyword
  let arguments ← Parser.optional do
    Parser.exactly [.symbol '(']
    let arguments ← Parser.separated (.symbol ',') integer
    Parser.exactly [.symbol ')']
    return arguments
  let withTimeZone ← Parser.flag [keyword "with", keyword "time", keyword "zone"]
  return { keyword := keyword', arguments := arguments.getD [], withTimeZone := withTimeZone }

/-- An option of an identity. -/
def identityOption : Parser SqlToken IdentityOption :=
  .orElse
    (.keyed [
      (keyword "no", .keyed [
        (keyword "minvalue", pure .noMinValue),
        (keyword "maxvalue", pure .noMaxValue),
        (keyword "cycle", pure .noCycle)])])
    (IdentityOption.given <$> sequenceOption)

/-- The word begins a part of a column after its type. -/
def beginsOption (t : SqlToken) : Bool :=
  t ∈ [keyword "auto_increment", keyword "default", keyword "generated", keyword "not"]

/-- A part of a column after its type.  A default goes on up to the next part. -/
def columnOption : Parser SqlToken ColumnOption :=
  .keyed [
    (keyword "auto_increment", pure .autoIncrement),
    (keyword "default", ColumnOption.default <$> .takeUntil beginsOption),
    (keyword "generated", do
      let always ← Parser.keyed [
        (keyword "always", pure true),
        (keyword "by", do
          Parser.exactly [keyword "default"]
          return false)]
      Parser.exactly [keyword "as", keyword "identity"]
      let options ← Parser.optional do
        Parser.exactly [.symbol '(']
        let options ← Parser.many identityOption
        Parser.exactly [.symbol ')']
        return options
      return .identity always (options.getD [])),
    (keyword "not", do
      Parser.exactly [keyword "null"]
      return .notNull)]

section Reading

variable (L : MonetLexis)

/-- A column of a table that is created. -/
def columnDefinition : Parser SqlToken ColumnDefinition := do
  let name ← identifier L
  let type ← dataType
  let options ← Parser.many columnOption
  return ⟨name, type, options⟩

/-- The column that a text defines. -/
def readColumn (text : String) : Option ColumnDefinition :=
  (lex L text).bind (columnDefinition L).all

end Reading

/-- A default that cannot be taken for another part of its column. -/
def DefaultClause.Plain (L : MonetLexis) (C : DdlCompiler) : DefaultClause → Prop
  | .string _ => True
  | .nextValue sequence => sequence.Preparable L
  | .expression text => ∃ ts, lex L (C.getColumnDefaultString (.expression text)) = some ts ∧
      ∀ t ∈ ts, beginsOption t = false

/-! ### The tokens of a text -/

section Tokens

variable {L : MonetLexis} {C : DdlCompiler}

/-- The tokens of the words of a type. -/
def wordTokens (words : List String) : List SqlToken :=
  words.map keyword

theorem lex_typeWords :
  ∀ p ∈ typeWords, lex L p.1 = some (wordTokens p.2)
  := by
  repeat refine List.forall_mem_cons.mpr ⟨rfl, ?_⟩
  rintro p ⟨⟩

theorem reads_typeWords :
  ∀ p ∈ typeWords, ∀ rest, typeKeyword.Reads (wordTokens p.2) p.1 rest
  := by
  repeat refine List.forall_mem_cons.mpr ⟨fun rest => rfl, ?_⟩
  rintro p ⟨⟩

/-- The tokens of the arguments of a type. -/
def argumentTokens : List Int → List SqlToken
  | [] => []
  | n :: ns =>
      .symbol '('
        :: (intTokens n ++ ns.flatMap (fun n => [.symbol ','] ++ intTokens n) ++ [.symbol ')'])

/-- The tokens of a type with these words. -/
def declarationTokens (declaration : Declaration) (words : List String) : List SqlToken :=
  wordTokens words ++ argumentTokens declaration.arguments
    ++ if declaration.withTimeZone then [keyword "with", keyword "time", keyword "zone"] else []

theorem appendable_arguments (arguments : List Int) :
  Appendable L
    (if arguments = [] then "" else "(" ++ ", ".intercalate (arguments.map intText) ++ ")")
    (argumentTokens arguments)
  := by
  cases arguments with
  | nil => apply appendable_empty
  | cons n ns =>
      have hopen : Appendable L "(" [.symbol '('] := ⟨rfl, rfl⟩
      have hcomma : Appendable L ", " [.symbol ','] := ⟨rfl, rfl⟩
      have hclose : Appendable L ")" [.symbol ')'] := ⟨rfl, rfl⟩
      rw [if_neg (List.cons_ne_nil n ns), String.append_assoc]
      apply hopen.before rfl (by decide)
      apply lex_appendable _ hclose
      apply lex_intercalate hcomma rfl (by decide)
      intro m _
      apply lex_intText

theorem lex_declaration {declaration : Declaration} {words : List String}
    (h : (declaration.keyword, words) ∈ typeWords) :
  lex L declaration.text = some (declarationTokens declaration words)
  := by
  have hzone : Appendable L (if declaration.withTimeZone then " WITH TIME ZONE" else "")
      (if declaration.withTimeZone then [keyword "with", keyword "time", keyword "zone"]
        else []) := by
    split
    · exact ⟨rfl, rfl⟩
    · apply appendable_empty
  apply lex_appendable _ hzone
  apply lex_appendable (lex_typeWords _ h) (appendable_arguments declaration.arguments)

theorem lex_visitSequence {sequence : QualifiedName} (h : sequence.Preparable L) :
  lex L (visitSequence C sequence)
    = some (keyword "next" :: keyword "value" :: keyword "for" :: sequence.tokens C)
  := by
  have hhead : lex L "NEXT VALUE FOR "
      = some [keyword "next", keyword "value", keyword "for"] := rfl
  apply lex_append hhead (lex_formatQualified h) (.inl rfl)

theorem lex_defaultClause {default : DefaultClause} (h : default.Plain L C) :
  lex L (C.getColumnDefaultString default) = some (default.tokens L C)
  := by
  cases default with
  | string value =>
      rw [C.getColumnDefaultString_string]
      apply lex_plainString
  | nextValue sequence =>
      rw [C.getColumnDefaultString_nextValue]
      apply lex_visitSequence h
  | expression text =>
      obtain ⟨ts, hlex, -⟩ := h
      rw [DefaultClause.tokens, hlex, Option.getD_some]

theorem lex_sequenceOption (option : SequenceOption) :
  lex L option.text = some option.tokens
  := by
  have hvalue : ∀ {clause : String} {ts : List SqlToken}, lex L clause = some ts →
      Lexer.Closed (lexis L) clause.toList →
        ∀ n, lex L (clause ++ intText n) = some (ts ++ intTokens n) :=
    fun hclause hclosed n => lex_append hclause (lex_intText n) (.inl hclosed)
  cases option with
  | startWith n =>
      have hclause : lex L "START WITH " = some [keyword "start", keyword "with"] := rfl
      apply hvalue hclause rfl
  | incrementBy n =>
      have hclause : lex L "INCREMENT BY " = some [keyword "increment", keyword "by"] := rfl
      apply hvalue hclause rfl
  | minValue n =>
      have hclause : lex L "MINVALUE " = some [keyword "minvalue"] := rfl
      apply hvalue hclause rfl
  | maxValue n =>
      have hclause : lex L "MAXVALUE " = some [keyword "maxvalue"] := rfl
      apply hvalue hclause rfl
  | cache n =>
      have hclause : lex L "CACHE " = some [keyword "cache"] := rfl
      apply hvalue hclause rfl
  | cycle => rfl

/-- The tokens of an option of an identity. -/
def IdentityOption.tokens : IdentityOption → List SqlToken
  | .given option => option.tokens
  | .noMinValue => [keyword "no", keyword "minvalue"]
  | .noMaxValue => [keyword "no", keyword "maxvalue"]
  | .noCycle => [keyword "no", keyword "cycle"]

theorem lex_identityOption (option : IdentityOption) :
  lex L option.text = some option.tokens
  := by
  cases option with
  | given option => apply lex_sequenceOption
  | noMinValue => rfl
  | noMaxValue => rfl
  | noCycle => rfl

/-- The tokens of the options of an identity. -/
def identityOptionTokens (options : List IdentityOption) : List SqlToken :=
  if options = [] then
    []
  else
    .symbol '(' :: (options.flatMap IdentityOption.tokens ++ [Lexer.Token.symbol ')'])

/-- The tokens of a part of a column. -/
def ColumnOption.tokens : ColumnOption → List SqlToken
  | .autoIncrement => [keyword "auto_increment"]
  | .default value => keyword "default" :: value
  | .identity always options =>
      keyword "generated"
        :: ((if always then [keyword "always"] else [keyword "by", keyword "default"])
          ++ keyword "as" :: keyword "identity"
            :: identityOptionTokens options)
  | .notNull => [keyword "not", keyword "null"]

theorem lex_getIdentityOptions (identity : Identity) :
  lex L (C.getIdentityOptions identity) = some (identity.options.flatMap IdentityOption.tokens)
  := by
  rw [C.getIdentityOptions_eq]
  cases identity.options with
  | nil => rfl
  | cons option options =>
      have hspace : Appendable L " " [] := ⟨rfl, rfl⟩
      apply lex_intercalate hspace rfl (by decide)
      intro given _
      apply lex_identityOption

theorem IdentityOption.tokens_ne_nil (option : IdentityOption) :
  option.tokens ≠ []
  := by
  cases option with
  | given option => apply MonetDB.tokens_ne_nil
  | _ => apply List.cons_ne_nil

/-- Options are written when there are any. -/
theorem getIdentityOptions_eq_empty_iff (identity : Identity) :
  C.getIdentityOptions identity = "" ↔ identity.options = []
  := by
  constructor
  · intro h
    have htokens := lex_getIdentityOptions (L := plainLexis) (C := C) identity
    have hempty : lex plainLexis "" = some [] := rfl
    rw [h, hempty, Option.some.injEq, eq_comm, List.flatMap_eq_nil_iff] at htokens
    apply List.eq_nil_iff_forall_not_mem.mpr
    intro option hoption
    apply option.tokens_ne_nil (htokens option hoption)
  · intro h
    rw [C.getIdentityOptions_eq, h]
    rfl

theorem appendable_identityOptions (identity : Identity) :
  Appendable L
    (if C.getIdentityOptions identity = "" then ""
      else " (" ++ C.getIdentityOptions identity ++ ")")
    (identityOptionTokens identity.options)
  := by
  rw [identityOptionTokens]
  by_cases h : identity.options = []
  · rw [if_pos ((getIdentityOptions_eq_empty_iff identity).mpr h), if_pos h]
    apply appendable_empty
  · have hopen : Appendable L " (" [.symbol '('] := ⟨rfl, rfl⟩
    have hclose : Appendable L ")" [.symbol ')'] := ⟨rfl, rfl⟩
    rw [if_neg (mt (getIdentityOptions_eq_empty_iff identity).mp h), if_neg h, String.append_assoc]
    apply hopen.before rfl (by decide)
    apply lex_appendable (lex_getIdentityOptions identity) hclose

theorem lex_visitIdentityColumn (identity : Identity) :
  lex L (visitIdentityColumn C identity)
    = some (ColumnOption.identity identity.always identity.options).tokens
  := by
  have hhead : lex L "GENERATED " = some [keyword "generated"] := rfl
  have hwhen : lex L (if identity.always then "ALWAYS" else "BY DEFAULT")
      = some (if identity.always then [keyword "always"]
          else [keyword "by", keyword "default"]) := by
    cases identity.always <;> rfl
  have has : Appendable L " AS IDENTITY" [keyword "as", keyword "identity"] := ⟨rfl, rfl⟩
  rw [visitIdentityColumn, String.append_assoc, String.append_assoc]
  apply lex_append hhead _ (.inl rfl)
  apply lex_appendable hwhen
  apply has.append (appendable_identityOptions identity)

/-- What follows the type of a column. -/
theorem appendable_options {column : ColumnDeclaration}
    (h : ∀ default ∈ column.serverDefault, default.Plain L C) :
  Appendable L
    ((if column.autoIncrements then " AUTO_INCREMENT" else
        column.serverDefault.elim "" fun default =>
          " DEFAULT " ++ C.getColumnDefaultString default)
      ++ (column.identity.elim "" fun identity => " " ++ visitIdentityColumn C identity)
      ++ (if column.nullable then "" else " NOT NULL"))
    ((column.options L C).flatMap ColumnOption.tokens)
  := by
  have hdefault : Appendable L
      (if column.autoIncrements then " AUTO_INCREMENT" else
        column.serverDefault.elim "" fun default =>
          " DEFAULT " ++ C.getColumnDefaultString default)
      ((if column.autoIncrements then [.autoIncrement] else
          (column.serverDefault.map fun default =>
            ColumnOption.default (default.tokens L C)).toList).flatMap ColumnOption.tokens) := by
    split
    · exact ⟨rfl, rfl⟩
    · cases hserver : column.serverDefault with
      | none => apply appendable_empty
      | some default =>
          have hword : Appendable L " DEFAULT " [keyword "default"] := ⟨rfl, rfl⟩
          have htext := hword.before rfl (by decide) (lex_defaultClause (h default hserver))
          simpa [ColumnOption.tokens] using htext
  have hidentity : Appendable L
      (column.identity.elim "" fun identity => " " ++ visitIdentityColumn C identity)
      ((column.identity.map fun identity =>
        ColumnOption.identity identity.always identity.options).toList.flatMap
          ColumnOption.tokens) := by
    cases column.identity with
    | none => apply appendable_empty
    | some identity =>
        have hspace : Appendable L " " [] := ⟨rfl, rfl⟩
        have htext := hspace.before rfl (by decide) (lex_visitIdentityColumn (C := C) identity)
        simpa using htext
  have hnull : Appendable L (if column.nullable then "" else " NOT NULL")
      ((if column.nullable then [] else [.notNull]).flatMap ColumnOption.tokens) := by
    split
    · apply appendable_empty
    · exact ⟨rfl, rfl⟩
  rw [ColumnDeclaration.options, List.flatMap_append, List.flatMap_append]
  apply (hdefault.append hidentity).append hnull

end Tokens

/-! ### Each part is read -/

section Parts

variable {rest : List SqlToken}

theorem reads_arguments (arguments : List Int) (hrest : rest.head? ≠ some (.symbol '(')) :
  (Parser.optional do
      Parser.exactly [.symbol '(']
      let arguments ← Parser.separated (.symbol ',') integer
      Parser.exactly [.symbol ')']
      return arguments : Parser SqlToken (Option (List Int))).Reads
    (argumentTokens arguments) (if arguments = [] then none else some arguments) rest
  := by
  cases arguments with
  | nil =>
      apply Parser.reads_optional_none
      apply Parser.Fails.bind
      apply Parser.fails_exactly hrest
  | cons n ns =>
      let part (n : Int) : List SqlToken × Int := (intTokens n, n)
      have hclose : (.symbol ')' :: rest : List SqlToken).head? ≠ some (.symbol ',') := by simp
      have hparts : ∀ p ∈ part n :: ns.map part, ∀ rest, integer.Reads p.1 p.2 rest := by
        rw [← List.map_cons]
        intro p hp
        obtain ⟨m, -, rfl⟩ := List.mem_map.mp hp
        apply reads_integer
      have hread := Parser.reads_separated hparts hclose
      have hself : (ns.map part).map Prod.snd = ns := by
        rw [List.map_map]
        apply List.map_id
      rw [List.flatMap_map, hself] at hread
      rw [if_neg (List.cons_ne_nil n ns), argumentTokens]
      apply Parser.Reads.optional
      apply Parser.Reads.after
      apply Parser.Reads.bind hread
      apply Parser.Reads.after (m := [])
      apply Parser.reads_pure

/-- A type is read when neither arguments nor a time zone follow it. -/
theorem reads_dataType {declaration : Declaration} {words : List String}
    (h : (declaration.keyword, words) ∈ typeWords) (hopen : rest.head? ≠ some (.symbol '('))
    (hwith : rest.head? ≠ some (keyword "with")) :
  dataType.Reads (declarationTokens declaration words) declaration rest
  := by
  rw [declarationTokens, List.append_assoc]
  apply Parser.Reads.bind (reads_typeWords _ h _)
  have hzone : ((if declaration.withTimeZone then
      [keyword "with", keyword "time", keyword "zone"] else []) ++ rest).head?
        ≠ some (.symbol '(') := by
    split
    · simp [keyword]
    · apply hopen
  apply Parser.Reads.bind (reads_arguments declaration.arguments hzone)
  have hself : (if declaration.arguments = [] then none else some declaration.arguments).getD []
      = declaration.arguments := by
    split
    · rename_i hnil
      rw [hnil]
      rfl
    · rfl
  rw [hself]
  apply (Parser.reads_flag hwith _ declaration.withTimeZone).returns

theorem reads_identityOption (option : IdentityOption) (rest : List SqlToken) :
  identityOption.Reads option.tokens option rest
  := by
  cases option with
  | given option =>
      apply Parser.Reads.orElse_right
      · apply (reads_sequenceOption option rest).map
      · apply Parser.fails_keyed
        intro t ht
        cases option <;> cases ht <;> rfl
  | noMinValue => rfl
  | noMaxValue => rfl
  | noCycle => rfl

/-- What may come after a part: another part, or nothing. -/
def OptionFollows (rest : List SqlToken) : Prop :=
  ∀ t, rest.head? = some t → beginsOption t

theorem OptionFollows.ne {t : SqlToken} (h : OptionFollows rest) (ht : beginsOption t = false) :
  rest.head? ≠ some t
  := by
  intro hhead
  rw [h t hhead] at ht
  cases ht

/-- The options of an identity are read when no parenthesis follows. -/
theorem reads_identityOptions (options : List IdentityOption) (hrest : OptionFollows rest) :
  (Parser.optional do
      Parser.exactly [.symbol '(']
      let options ← Parser.many identityOption
      Parser.exactly [.symbol ')']
      return options : Parser SqlToken (Option (List IdentityOption))).Reads
    (identityOptionTokens options) (if options = [] then none else some options) rest
  := by
  rw [identityOptionTokens]
  split
  · apply Parser.reads_optional_none
    apply Parser.Fails.bind
    apply Parser.fails_exactly (hrest.ne (by decide))
  · let part (option : IdentityOption) : List SqlToken × IdentityOption := (option.tokens, option)
    have hread : (Parser.many identityOption).Reads ((options.map part).flatMap Prod.fst)
        ((options.map part).map Prod.snd) (.symbol ')' :: rest) := by
      apply Parser.reads_many
      · intro p hp
        obtain ⟨option, -, rfl⟩ := List.mem_map.mp hp
        apply IdentityOption.tokens_ne_nil
      · intro p hp rest
        obtain ⟨option, -, rfl⟩ := List.mem_map.mp hp
        apply reads_identityOption
      · rfl
    have hself : (options.map part).map Prod.snd = options := by
      rw [List.map_map]
      apply List.map_id
    rw [List.flatMap_map, hself] at hread
    apply Parser.Reads.optional
    apply Parser.Reads.after
    apply Parser.Reads.bind hread
    apply Parser.Reads.after (m := [])
    apply Parser.reads_pure

/-- No word of a default begins another part. -/
def ColumnOption.Plain : ColumnOption → Prop
  | .default value => ∀ t ∈ value, beginsOption t = false
  | _ => True

theorem follows_option (option : ColumnOption) (rest : List SqlToken) :
  OptionFollows (option.tokens ++ rest)
  := by
  intro t ht
  cases option <;> cases ht <;> decide

theorem reads_columnOption {option : ColumnOption} (h : option.Plain)
    (hrest : OptionFollows rest) :
  columnOption.Reads option.tokens option rest
  := by
  cases option with
  | autoIncrement => apply Parser.reads_keyed rfl (Parser.reads_pure _ _)
  | default value => apply Parser.reads_keyed rfl ((Parser.reads_takeUntil h hrest).map _)
  | identity always options =>
      have hwhen : ∀ rest, (Parser.keyed [
          (keyword "always", pure true),
          (keyword "by", do
            Parser.exactly [keyword "default"]
            return false)]).Reads
          (if always then [keyword "always"] else [keyword "by", keyword "default"]) always
            rest := by
        intro rest
        cases always <;> rfl
      have hself : (if options = [] then none else some options).getD [] = options := by
        split
        · rename_i hnil
          rw [hnil]
          rfl
        · rfl
      apply Parser.reads_keyed rfl
      apply Parser.Reads.bind (hwhen _)
      apply Parser.Reads.after (l := [keyword "as", keyword "identity"])
      have hoptions := (reads_identityOptions options hrest).returns fun options =>
        ColumnOption.identity always (options.getD [])
      rw [hself] at hoptions
      apply hoptions
  | notNull =>
      apply Parser.reads_keyed rfl
      apply Parser.Reads.after (m := [])
      apply Parser.reads_pure

end Parts

/-! ### Columns are read back -/

variable {L : MonetLexis} {C : DdlCompiler}

/-- A prepared name begins no part of a column, since the words that do are reserved. -/
theorem beginsOption_nameToken (P : IdentifierPreparer) {name : Name} (h : Preparable L name) :
  beginsOption (nameToken P name) = false
  := by
  rw [beginsOption, decide_eq_false_iff_not]
  intro hmem
  simp only [List.mem_cons, List.not_mem_nil, or_false] at hmem
  obtain hword | hword | hword | hword := hmem
  all_goals exact nameToken_ne_keyword h (by decide) hword

theorem DefaultClause.Plain.tokens {default : DefaultClause} (h : default.Plain L C) :
  ∀ t ∈ default.tokens L C, beginsOption t = false
  := by
  cases default with
  | string value =>
      intro t ht
      obtain rfl := List.mem_singleton.mp ht
      simp [beginsOption, keyword]
  | nextValue sequence =>
      obtain ⟨schema, name⟩ := sequence
      have hname := beginsOption_nameToken C h.name
      intro t ht
      simp only [DefaultClause.tokens, List.mem_cons] at ht
      obtain rfl | rfl | rfl | ht := ht
      · decide
      · decide
      · decide
      · cases schema with
        | none =>
            obtain rfl := List.mem_singleton.mp ht
            apply hname
        | some schema =>
            have hschema := beginsOption_nameToken C (h.schema schema rfl)
            simp only [QualifiedName.tokens, List.mem_cons, List.not_mem_nil, or_false] at ht
            obtain rfl | rfl | rfl := ht
            · apply hschema
            · decide
            · apply hname
  | expression text =>
      obtain ⟨ts, hlex, hplain⟩ := h
      rw [DefaultClause.tokens, hlex, Option.getD_some]
      apply hplain

theorem ColumnDeclaration.plain_options {column : ColumnDeclaration}
    (h : ∀ default ∈ column.serverDefault, default.Plain L C) :
  ∀ option ∈ column.options L C, option.Plain
  := by
  intro option hoption
  rw [options, List.mem_append, List.mem_append] at hoption
  obtain (hoption | hoption) | hoption := hoption
  · split at hoption
    · obtain rfl := List.mem_singleton.mp hoption
      trivial
    · rw [Option.mem_toList, Option.map_eq_some_iff] at hoption
      obtain ⟨default, hdefault, rfl⟩ := hoption
      apply (h default hdefault).tokens
  · rw [Option.mem_toList, Option.map_eq_some_iff] at hoption
    obtain ⟨identity, -, rfl⟩ := hoption
    trivial
  · split at hoption
    · cases hoption
    · obtain rfl := List.mem_singleton.mp hoption
      trivial

section Columns

variable {G}

/-- The types that are compiled with legal arguments have words of the grammar. -/
theorem process_typeWords {type : ColumnType} (htype : type.Legal) {declaration : Declaration}
    (h : process G type = some declaration) :
  ∃ words, (declaration.keyword, words) ∈ typeWords
  := by
  have hsized : ∀ name length, 1 ≤ length →
      (G.renderStringType name (some length)).keyword = name := by
    intro name length hlength
    rw [G.renderStringType_some name length hlength]
  cases type with
  | nulltype => cases htype
  | float precision =>
      cases precision <;> obtain rfl := Option.some.inj h <;> simp [typeWords, visitFLOAT]
  | varchar length =>
      obtain rfl := Option.some.inj h
      cases length with
      | none => simp [typeWords, visitVARCHAR]
      | some n =>
          rw [visitVARCHAR, hsized "VARCHAR" n (htype n rfl)]
          simp [typeWords]
  | char length =>
      obtain rfl := Option.some.inj h
      cases length with
      | none =>
          rw [G.renderStringType_none]
          simp [typeWords]
      | some n =>
          rw [hsized "CHAR" n (htype n rfl)]
          simp [typeWords]
  | uuid nativeUuid =>
      obtain rfl := Option.some.inj h
      cases nativeUuid with
      | true => simp [typeWords, visitUuid]
      | false =>
          rw [visitUuid, if_neg Bool.false_ne_true, hsized "CHAR" 32 (by decide)]
          simp [typeWords]
  | _ =>
      obtain rfl := Option.some.inj h
      simp [typeWords, decimal, visitTIME, visitTIMESTAMP]

/-- The tokens of a column. -/
theorem lex_getColumnSpecification {column : ColumnDeclaration}
    (hname : Preparable L column.name)
    (hdefault : ∀ default ∈ column.serverDefault, default.Plain L C) {type : Declaration}
    (hprocess : process G column.type = some type) {words : List String}
    (hwords : (type.keyword, words) ∈ typeWords) {text : String}
    (h : getColumnSpecification C G column = some text) :
  lex L text = some (nameToken C column.name
    :: (declarationTokens type words ++ (column.options L C).flatMap ColumnOption.tokens))
  := by
  rw [getColumnSpecification, hprocess] at h
  obtain rfl := Option.some.inj h
  have hspace : Appendable L " " [] := ⟨rfl, rfl⟩
  simp only [String.append_assoc]
  apply lex_appendable (lex_quote hname)
  apply hspace.before rfl (by decide)
  apply lex_appendable (lex_declaration hwords)
  rw [← String.append_assoc]
  apply appendable_options hdefault

/-- A column is read back when its type has words of the grammar. -/
theorem readColumn_of_typeWords {column : ColumnDeclaration}
    (hname : Preparable L column.name)
    (hdefault : ∀ default ∈ column.serverDefault, default.Plain L C) {type : Declaration}
    (hprocess : process G column.type = some type) {words : List String}
    (hwords : (type.keyword, words) ∈ typeWords) {text : String}
    (h : getColumnSpecification C G column = some text) :
  readColumn L text = some ⟨column.name, type, column.options L C⟩
  := by
  have hplain := ColumnDeclaration.plain_options hdefault
  have hnil : OptionFollows [] := by rintro t ⟨⟩
  let part (option : ColumnOption) : List SqlToken × ColumnOption := (option.tokens, option)
  have hoptions : (Parser.many columnOption).Reads
      (((column.options L C).map part).flatMap Prod.fst)
      (((column.options L C).map part).map Prod.snd) [] := by
    have hfails : Parser.Fails columnOption [] := rfl
    apply Parser.reads_many_follows (Q := OptionFollows) _ _ hnil hfails
    · intro p hp
      obtain ⟨option, -, rfl⟩ := List.mem_map.mp hp
      cases option <;> apply List.cons_ne_nil
    · intro p hp rest hrest
      obtain ⟨option, hoption, rfl⟩ := List.mem_map.mp hp
      exact ⟨reads_columnOption (hplain option hoption) hrest, follows_option option rest⟩
  have hself : ((column.options L C).map part).map Prod.snd = column.options L C := by
    rw [List.map_map]
    apply List.map_id
  rw [List.flatMap_map, hself] at hoptions
  have hfollows : OptionFollows ((column.options L C).flatMap ColumnOption.tokens ++ []) := by
    cases column.options L C with
    | nil => apply hnil
    | cons option options =>
        rw [List.flatMap_cons, List.append_assoc]
        apply follows_option
  have hread : (columnDefinition L).Reads
      (nameToken C column.name
        :: (declarationTokens type words ++ (column.options L C).flatMap ColumnOption.tokens))
      ⟨column.name, type, column.options L C⟩ [] := by
    apply Parser.Reads.bind (l := [nameToken C column.name]) (reads_identifier hname _)
    apply Parser.Reads.bind
      (reads_dataType hwords (hfollows.ne (by decide)) (hfollows.ne (by decide)))
    apply hoptions.returns
  rw [readColumn, lex_getColumnSpecification hname hdefault hprocess hwords h, Option.bind_some,
    hread.all]

/-- What MonetDB stores has words of the grammar. -/
theorem typeWords_of_store {M : MonetTypes} {declaration : Declaration} {row : CatalogType}
    (h : M.store declaration = some row) :
  ∃ words, (declaration.keyword, words) ∈ typeWords
  := by
  have hplain : ∀ p ∈ plainTypes, ∃ words, (p.1, words) ∈ typeWords := by
    simp [plainTypes, typeWords]
  unfold MonetTypes.store at h
  split at h
  case h_9 =>
    obtain ⟨name, hname, -⟩ := Option.map_eq_some_iff.mp h
    obtain ⟨before, after, hsplit, -⟩ := List.lookup_eq_some_iff.mp hname
    apply hplain (_, name)
    rw [hsplit]
    apply List.mem_append_right _ List.mem_cons_self
  case h_10 => cases h
  all_goals simp [typeWords]

/-- A column is read back with its name and its parts, and with a type that MonetDB stores in a
row. -/
def StoredAs (L : MonetLexis) (C : DdlCompiler) (G : GenericTypeCompiler) (M : MonetTypes)
    (column : ColumnDeclaration) (row : CatalogType) : Prop :=
  ∃ text type, getColumnSpecification C G column = some text ∧
    readColumn L text = some ⟨column.name, type, column.options L C⟩ ∧
    M.store type = some row

/-- A column is stored as its type is. -/
theorem storedAs_of_store {M : MonetTypes} {column : ColumnDeclaration}
    (hname : Preparable L column.name)
    (hdefault : ∀ default ∈ column.serverDefault, default.Plain L C) {type : Declaration}
    (hprocess : process G column.type = some type) {row : CatalogType}
    (hrow : M.store type = some row) :
  StoredAs L C G M column row
  := by
  obtain ⟨words, hwords⟩ := typeWords_of_store hrow
  have hspec : ∃ text, getColumnSpecification C G column = some text := by
    rw [getColumnSpecification, hprocess]
    exact ⟨_, rfl⟩
  obtain ⟨text, htext⟩ := hspec
  use text, type, htext
  exact ⟨readColumn_of_typeWords hname hdefault hprocess hwords htext, hrow⟩

/-- A type with legal arguments is re-created unless it is a decimal with less digits than its
default scale. -/
theorem recreates_of_legal (M : MonetTypes) {type : ColumnType} (h : type.Legal)
    (hscale : ∀ precision, type = .numeric (some precision) none → 3 ≤ precision) :
  Recreates G M type
  := by
  cases type with
  | numeric precision scale => apply (recreates_numeric_iff G M h).mpr hscale
  | nulltype => cases h
  | float precision => apply recreates_float G M h
  | varchar length => apply recreates_varchar G M h
  | char length => apply recreates_char G M h
  | time timezone => apply recreates_time
  | timestamp timezone => apply recreates_timestamp
  | uuid nativeUuid => apply recreates_uuid
  | _ => apply recreates_of_store G M rfl rfl rfl rfl

end Columns

/-! ### A compiler -/

/-- The text of a server default, with names that are bare where that is possible. -/
def DefaultClause.text : DefaultClause → String
  | .string value => renderLiteralValue plainString value
  | .nextValue sequence => visitSequence barePreparer sequence
  | .expression text => text

/-- A compiler that leaves names bare where that is possible. -/
def bareDdlCompiler : DdlCompiler where
  toSqlCompiler := bareCompiler
  getIdentityOptions identity := " ".intercalate (identity.options.map IdentityOption.text)
  getColumnDefaultString := DefaultClause.text
  getIdentityOptions_eq _ := rfl
  getColumnDefaultString_string _ := rfl
  getColumnDefaultString_nextValue _ := rfl

/-- A column with a reserved name, whose default has the word that begins `NOT NULL` in quotes. -/
def orderColumn : ColumnDeclaration where
  name := ⟨"order", none, by decide⟩
  type := .varchar (some 20)
  primaryKey := false
  isAutoincrementColumn := false
  default := none
  serverDefault := some (.expression "'not set'")
  identity := none
  nullable := false

/-- A decimal that is drawn from a sequence with a reserved name. -/
def priceColumn : ColumnDeclaration where
  name := ⟨"price", none, by decide⟩
  type := .numeric (some 10) none
  primaryKey := false
  isAutoincrementColumn := false
  default := none
  serverDefault := some (.nextValue ⟨none, ⟨"default", none, by decide⟩⟩)
  identity := none
  nullable := true

end MonetDB
