import MonetdbAdbc.Library.Lexer

/-!
# Identifiers

The dialect gives SQLAlchemy's identifier preparer the reserved words and the characters that a
bare name cannot begin with.  The preparer writes a name in double quotes, or bare when it is
none of these words and consists of characters that need no quotes (`IdentifierPreparer`).

MonetDB reads a bare name as a word, and not at all if the word is a keyword.  What its lexical
rules leave open here is a parameter (`MonetLexis`): the keywords, which are among the reserved
words, and the characters beyond ASCII that words may have.  A prepared name is read as one token
that stands for the name (`lex_quote`, `readIdentifier_nameToken`).
-/

namespace MonetDB

/-! ### Preparing -/

/-- `RESERVED_WORDS`. -/
def reservedWords : List String :=
  ["add", "admin", "after", "aggregate", "all", "alter", "always", "analyze", "and", "any", "asc",
    "asymmetric", "at", "atomic", "authorization", "auto_increment", "before", "begin", "best",
    "between", "big", "bigint", "bigserial", "binary", "blob", "by", "cache", "call", "cascade",
    "case", "cast", "century", "chain", "char", "character", "check", "client", "clob",
    "coalesce", "column", "comment", "commit", "committed", "constraint", "continue", "convert",
    "copy", "corresponding", "create", "cross", "cube", "current", "current_date", "current_role",
    "current_schema", "current_time", "current_timestamp", "current_timezone", "current_user",
    "cycle", "data", "date", "day", "deallocate", "debug", "dec", "decade", "decimal", "declare",
    "default", "delete", "delimiters", "desc", "diagnostics", "distinct", "do", "double", "dow",
    "doy", "drop", "each", "effort", "else", "elseif", "encrypted", "end", "endian", "epoch",
    "escape", "every", "except", "exclude", "exec", "execute", "exists", "explain", "external",
    "extract", "false", "first", "float", "following", "for", "foreign", "from", "full",
    "function", "fwf", "generated", "global", "grant", "group", "grouping", "groups", "having",
    "hour", "hugeint", "identity", "if", "ilike", "imprints", "in", "increment", "index", "inner",
    "insert", "int", "integer", "intersect", "interval", "into", "is", "isolation", "join", "key",
    "language", "large", "last", "lateral", "left", "level", "like", "limit", "little", "loader",
    "local", "localtime", "localtimestamp", "match", "matched", "maxvalue", "mediumint", "merge",
    "minute", "minvalue", "month", "name", "native", "natural", "new", "next", "no", "not", "now",
    "null", "nullif", "nulls", "numeric", "object", "of", "offset", "old", "on", "only", "option",
    "options", "or", "order", "ordered", "others", "outer", "over", "partial", "partition",
    "password", "path", "position", "preceding", "precision", "prep", "prepare", "preserve",
    "primary", "privileges", "procedure", "public", "quarter", "range", "read", "real", "records",
    "references", "referencing", "release", "remote", "rename", "repeatable", "replace",
    "replica", "restart", "restrict", "return", "returns", "revoke", "right", "role", "rollback",
    "rollup", "row", "rows", "sample", "savepoint", "schema", "second", "seed", "select",
    "sequence", "serial", "serializable", "server", "session", "session_user", "set", "sets",
    "simple", "size", "smallint", "some", "split_part", "start", "statement", "stdin", "stdout",
    "storage", "string", "substring", "symmetric", "table", "temp", "temporary", "text", "then",
    "ties", "time", "timestamp", "tinyint", "to", "trace", "transaction", "trigger", "true",
    "truncate", "type", "unbounded", "uncommitted", "unencrypted", "union", "unique", "update",
    "user", "using", "value", "values", "varchar", "varying", "view", "week", "when", "where",
    "while", "window", "with", "work", "write", "xmlagg", "xmlattributes", "xmlcomment",
    "xmlconcat", "xmldocument", "xmlelement", "xmlforest", "xmlnamespaces", "xmlparse", "xmlpi",
    "xmlquery", "xmlschema", "xmltext", "xmlvalidate", "year", "zone", "as", "both", "details",
    "fetch", "geometrycollection", "geometrycollectionm", "geometrycollectionz",
    "geometrycollectionzm", "leading", "linestring", "linestringm", "linestringz", "linestringzm",
    "logical", "multilinestring", "multilinestringm", "multilinestringz", "multilinestringzm",
    "multipoint", "multipointm", "multipointz", "multipointzm", "multipolygon", "multipolygonm",
    "multipolygonz", "multipolygonzm", "physical", "point", "pointm", "pointz", "pointzm",
    "polygon", "polygonm", "polygonz", "polygonzm", "qualify", "recursive", "returning",
    "rewrite", "show", "snapshot", "sql_bigint", "sql_binary", "sql_bit", "sql_char", "sql_date",
    "sql_decimal", "sql_double", "sql_float", "sql_guid", "sql_hugeint", "sql_integer",
    "sql_interval_day", "sql_interval_day_to_hour", "sql_interval_day_to_minute",
    "sql_interval_day_to_second", "sql_interval_hour", "sql_interval_hour_to_minute",
    "sql_interval_hour_to_second", "sql_interval_minute", "sql_interval_minute_to_second",
    "sql_interval_month", "sql_interval_second", "sql_interval_year",
    "sql_interval_year_to_month", "sql_longvarbinary", "sql_longvarchar", "sql_numeric",
    "sql_real", "sql_smallint", "sql_time", "sql_timestamp", "sql_tinyint", "sql_tsi_day",
    "sql_tsi_frac_second", "sql_tsi_hour", "sql_tsi_minute", "sql_tsi_month", "sql_tsi_quarter",
    "sql_tsi_second", "sql_tsi_week", "sql_tsi_year", "sql_varbinary", "sql_varchar", "sql_wchar",
    "sql_wlongvarchar", "sql_wvarchar", "trailing", "unnest", "within"]

/-- `illegal_initial_characters`. -/
def illegalInitialCharacters : List Char :=
  ['0', '1', '2', '3', '4', '5', '6', '7', '8', '9', '_', '$']

/-- A name, which is not empty; the preparer fails on the empty one.  A `quoted_name` says whether
it is quoted. -/
structure Name where
  text : String
  quote : Option Bool := none
  ne_empty : text ≠ ""
deriving DecidableEq

instance : Coe Name String :=
  ⟨Name.text⟩

/-- The name of a table, a sequence or an index, in a schema if there is one. -/
structure QualifiedName where
  schema : Option Name
  name : Name
deriving DecidableEq

/-- A name in double quotes, with those inside doubled. -/
def inDoubleQuotes (name : String) : String :=
  "\"" ++ String.ofList (Quoted.double '"' name.toList) ++ "\""

/-- `legal_characters`, in lower case: a letter, a digit, an underscore or a dollar sign, without
regard to case. -/
def isBareCharacter (c : Char) : Bool :=
  c.isLower || c.isDigit || c = '_' || c = '$' || c = '\u0131' || c = '\u017f'

/-- What SQLAlchemy requires of a name that is left bare, given the reserved words and the illegal
initial characters of the dialect. -/
structure Bare (name : String) : Prop where
  reserved : name ∉ reservedWords
  initial : ∀ c, name.toList.head? = some c → c ∉ illegalInitialCharacters
  legal : ∀ c ∈ name.toList, isBareCharacter c

/-- SQLAlchemy's identifier preparer with the attributes of `MonetDBIdentifierPreparer`. -/
structure IdentifierPreparer where
  /-- `quote_identifier`. -/
  quoteIdentifier : String → String
  /-- `quote`. -/
  quote : Name → String
  /-- `format_table`, `format_sequence` and, for an index in a schema, `_prepared_index_name`. -/
  formatQualified : QualifiedName → String
  quoteIdentifier_eq : ∀ name, quoteIdentifier name = inDoubleQuotes name
  /-- A name is quoted, or bare where that is possible, unless it says itself that it is not
  quoted.  A line break at the end of a name is overlooked. -/
  quote_eq : ∀ name : Name, name.quote ≠ some false → name.text.toList.getLast? ≠ some '\n' →
    quote name = inDoubleQuotes name.text ∨ quote name = name.text ∧ Bare name.text
  formatQualified_eq : ∀ q, formatQualified q =
    match q.schema with
    | none => quote q.name
    | some schema => quote schema ++ "." ++ quote q.name

/-! ### Lexing -/

/-- The quoted texts of MonetDB: names, strings that are read without escapes (`R'...'`), strings
that are read with them (`E'...'`), and other strings. -/
inductive QuoteKind where
  | identifier
  | raw
  | escaped
  | string
deriving DecidableEq, Repr

/-- What MonetDB's lexical rules leave open here. -/
structure MonetLexis where
  keywords : List String
  /-- Words may have this character, which is a dollar sign or not in ASCII. -/
  isWord : Char → Bool
  /-- A name that is a word may begin with this character. -/
  beginsName : Char → Bool
  /-- A backslash begins an escape in a string without a prefix. -/
  hasEscapes : Bool
  /-- The dialect's reserved words include the keywords. -/
  keywords_reserved : ∀ word ∈ keywords, word ∈ reservedWords
  /-- The dialect's illegal initial characters include those of bare names that a word cannot
  begin with as a name. -/
  beginsName_of_not_mem : ∀ c, isBareCharacter c → c ∉ illegalInitialCharacters → beginsName c

variable (L : MonetLexis)

/-- MonetDB's lexical rules, for texts without comments. -/
def lexis : Lexer.Rules Char QuoteKind where
  isSpace c := c = ' ' || c = '\n' || c = '\t' || c = '\r'
  isWord c := c.isAlphanum || c = '_' || (c = '$' || 128 ≤ c.toNat) && L.isWord c
  isQuote c := c = '"' || c = '\''
  fold := Char.toLower
  kind before c :=
    if c = '"' then
      if before = [] then some .identifier else none
    else if c = '\'' then
      if before = [] then some .string
      else if before = ['R'] ∨ before = ['r'] then some .raw
      else if before = ['E'] ∨ before = ['e'] then some .escaped
      else none
    else none
  isEscape kind c :=
    match kind with
    | .identifier => false
    | .raw => false
    | .escaped => c = '\\'
    | .string => L.hasEscapes && c = '\\'
  comments := [('-', some '-'), ('/', some '*'), ('#', none)]
  space_not_word := by
    intro c h
    simp only [Bool.or_eq_true, decide_eq_true_eq] at h
    obtain ((rfl | rfl) | rfl) | rfl := h <;> rfl
  quote_not_word := by
    intro c h
    simp only [Bool.or_eq_true, decide_eq_true_eq] at h
    obtain rfl | rfl := h <;> rfl

/-- A token of MonetDB's. -/
abbrev SqlToken := Lexer.Token Char QuoteKind

/-- The tokens of a text. -/
def lex (text : String) : Option (List SqlToken) :=
  Lexer.lex (lexis L) text.toList

/-- The name that a token stands for as an identifier. -/
def readIdentifier : SqlToken → Option String
  | .quoted .identifier cs => some (String.ofList cs)
  | .word cs =>
    if cs.head?.all L.beginsName ∧ String.ofList cs ∉ L.keywords then some (String.ofList cs)
    else none
  | _ => none

/-- The name is prepared by the rules: it does not say itself that it is not quoted, it does not
end with a line break, and those of its characters that can be left bare, but are no letters,
digits or underscores of ASCII, occur in MonetDB's words. -/
structure Preparable (name : Name) : Prop where
  unforced : name.quote ≠ some false
  unbroken : name.text.toList.getLast? ≠ some '\n'
  words : ∀ c ∈ name.text.toList, c = '$' ∨ c = '\u0131' ∨ c = '\u017f' → L.isWord c

instance (name : Name) : Decidable (Preparable L name) :=
  -- decided along the name, not over all characters
  letI : Decidable
      (∀ c ∈ name.text.toList, c = '$' ∨ c = '\u0131' ∨ c = '\u017f' → L.isWord c) :=
    List.decidableBAll _ _
  decidable_of_iff (name.quote ≠ some false ∧ name.text.toList.getLast? ≠ some '\n' ∧
      ∀ c ∈ name.text.toList, c = '$' ∨ c = '\u0131' ∨ c = '\u017f' → L.isWord c)
    ⟨fun h => ⟨h.1, h.2.1, h.2.2⟩, fun h => ⟨h.unforced, h.unbroken, h.words⟩⟩

/-- Both parts of the name are preparable. -/
structure QualifiedName.Preparable (q : QualifiedName) : Prop where
  schema : ∀ schema ∈ q.schema, MonetDB.Preparable L schema
  name : MonetDB.Preparable L q.name

instance (q : QualifiedName) : Decidable (q.Preparable L) :=
  decidable_of_iff ((∀ schema ∈ q.schema, MonetDB.Preparable L schema) ∧
      MonetDB.Preparable L q.name)
    ⟨fun h => ⟨h.1, h.2⟩, fun h => ⟨h.schema, h.name⟩⟩

/-! ### A prepared name is read back -/

variable (P : IdentifierPreparer)

/-- The token that a prepared name is read as. -/
def nameToken (name : Name) : SqlToken :=
  if P.quote name = inDoubleQuotes name then .quoted .identifier name.text.toList
  else .word name.text.toList

variable {L P}

theorem toList_inDoubleQuotes (name : String) :
  (inDoubleQuotes name).toList = '"' :: (Quoted.double '"' name.toList ++ ['"'])
  := by
  simp only [inDoubleQuotes, String.toList_append, String.toList_ofList]
  rfl

theorem lex_inDoubleQuotes (name : String) :
  lex L (inDoubleQuotes name) = some [.quoted .identifier name.toList]
  := by
  rw [lex, toList_inDoubleQuotes]
  have hnone : ∀ c ∈ ([] : List Char), (lexis L).isWord c := by rintro c ⟨⟩
  apply Lexer.lex_quoted hnone ⟨'"', rfl⟩ rfl (fun _ => rfl)

/-- A digit has no case. -/
theorem toLower_of_isDigit {c : Char} (h : c.isDigit) :
  c.toLower = c
  := by
  simp only [Char.isDigit, Bool.and_eq_true, decide_eq_true_eq] at h
  apply dif_neg
  rintro ⟨hupper, -⟩
  exact absurd (UInt32.le_trans hupper h.2) (by decide)

/-- A character of a bare name occurs in words, and is in lower case. -/
theorem isWord_of_isBareCharacter {c : Char} (h : isBareCharacter c)
    (hword : c = '$' ∨ c = '\u0131' ∨ c = '\u017f' → L.isWord c) :
  (lexis L).isWord c ∧ c.toLower = c
  := by
  simp only [isBareCharacter, Bool.or_eq_true, decide_eq_true_eq] at h
  simp only [lexis, Bool.or_eq_true, Bool.and_eq_true, decide_eq_true_eq]
  obtain ((((h | h) | rfl) | rfl) | rfl) | rfl := h
  · constructor
    · left
      left
      have halphanum : c.isAlphanum = (c.isUpper || c.isLower || c.isDigit) := rfl
      rw [halphanum, h, Bool.or_true, Bool.true_or]
    · have hlower : c.isLower = (decide ('a'.val ≤ c.val) && decide (c.val ≤ 'z'.val)) := rfl
      simp only [hlower, Bool.and_eq_true, decide_eq_true_eq] at h
      apply dif_neg
      rintro ⟨-, hupper⟩
      exact absurd (UInt32.le_trans h.1 hupper) (by decide)
  · constructor
    · left
      left
      simp only [Char.isAlphanum, h, Bool.or_true]
    · apply toLower_of_isDigit h
  · exact ⟨.inl (.inr rfl), by decide⟩
  · exact ⟨.inr ⟨.inl rfl, hword (.inl rfl)⟩, by decide⟩
  · exact ⟨.inr ⟨.inr (by decide), hword (.inr (.inl rfl))⟩, by decide⟩
  · exact ⟨.inr ⟨.inr (by decide), hword (.inr (.inr rfl))⟩, by decide⟩

/-- A preparable name that is not quoted is bare. -/
theorem bare_of_ne {name : Name} (h : Preparable L name)
    (hne : P.quote name ≠ inDoubleQuotes name) :
  P.quote name = name.text ∧ Bare name
  := (P.quote_eq name h.unforced h.unbroken).resolve_left hne

/-- A prepared name is read as one token. -/
theorem lex_quote {name : Name} (h : Preparable L name) :
  lex L (P.quote name) = some [nameToken P name]
  := by
  rw [nameToken]
  split
  · rename_i hquoted
    rw [hquoted]
    apply lex_inDoubleQuotes
  · rename_i hquoted
    obtain ⟨hquote, hbare⟩ := bare_of_ne h hquoted
    have hne : name.text.toList ≠ [] := by
      rw [Ne, String.toList_eq_nil_iff]
      apply name.ne_empty
    have hword : ∀ c ∈ name.text.toList, (lexis L).isWord c ∧ c.toLower = c := by
      intro c hc
      apply isWord_of_isBareCharacter (hbare.legal c hc) (h.words c hc)
    have hfold : name.text.toList.map (lexis L).fold = name.text.toList := by
      apply (List.map_congr_left (g := id) _).trans (List.map_id _)
      intro c hc
      apply (hword c hc).2
    rw [hquote, lex, Lexer.lex_word hne fun c hc => (hword c hc).1, hfold]

/-- The token of a prepared name stands for the name. -/
theorem readIdentifier_nameToken {name : Name} (h : Preparable L name) :
  readIdentifier L (nameToken P name) = some name.text
  := by
  rw [nameToken]
  split
  · simp only [readIdentifier, String.ofList_toList]
  · rename_i hquoted
    obtain ⟨-, hbare⟩ := bare_of_ne h hquoted
    have hbegins : name.text.toList.head?.all L.beginsName := by
      rw [Option.all_eq_true_iff_get]
      intro hsome
      have hhead := (Option.some_get hsome).symm
      apply L.beginsName_of_not_mem
      · apply hbare.legal _ (List.mem_of_head? hhead)
      · apply hbare.initial _ hhead
    have hkeyword : name.text ∉ L.keywords := fun hmem =>
      hbare.reserved (L.keywords_reserved name.text hmem)
    rw [readIdentifier, String.ofList_toList, if_pos ⟨hbegins, hkeyword⟩]

/-! ### Qualified names -/

variable (P) in
/-- The tokens of a prepared qualified name. -/
def QualifiedName.tokens (q : QualifiedName) : List SqlToken :=
  match q.schema with
  | none => [nameToken P q.name]
  | some schema => [nameToken P schema, .symbol '.', nameToken P q.name]

theorem lex_formatQualified {q : QualifiedName} (h : q.Preparable L) :
  lex L (P.formatQualified q) = some (q.tokens P)
  := by
  obtain ⟨schema, name⟩ := q
  rw [P.formatQualified_eq]
  cases schema with
  | none => apply lex_quote h.name
  | some schema =>
      have hdot : Lexer.lex (lexis L) ".".toList = some [.symbol '.'] := rfl
      have hname := Lexer.lex_append hdot (lex_quote (P := P) h.name) (.inl rfl)
      rw [lex, String.toList_append, String.toList_append, List.append_assoc]
      apply Lexer.lex_append (lex_quote (h.schema schema rfl)) hname (.inr rfl)

/-! ### A preparer and a lexis -/

/-- A name is bare where that is possible, or quoted. -/
def bareOrQuoted (name : Name) : String :=
  if name.quote = some false ∨ name.quote = none ∧ name.text ∉ reservedWords ∧
      name.text.toList.head?.all (· ∉ illegalInitialCharacters) ∧
      name.text.toList.all isBareCharacter then
    name.text
  else
    inDoubleQuotes name

/-- A preparer that leaves a name bare where that is possible. -/
def barePreparer : IdentifierPreparer where
  quoteIdentifier := inDoubleQuotes
  quote := bareOrQuoted
  formatQualified q :=
    match q.schema with
    | none => bareOrQuoted q.name
    | some schema => bareOrQuoted schema ++ "." ++ bareOrQuoted q.name
  quoteIdentifier_eq _ := rfl
  quote_eq name hunforced _ := by
    rw [bareOrQuoted]
    split
    · rename_i hcond
      obtain ⟨-, hreserved, hinitial, hlegal⟩ := hcond.resolve_left hunforced
      right
      use rfl, hreserved
      · intro c hc
        rw [hc, Option.all_some] at hinitial
        apply of_decide_eq_true hinitial
      · apply List.all_eq_true.mp hlegal
    · left
      rfl
  formatQualified_eq _ := rfl

/-- Lexical rules with some keywords, and with words that have a dollar sign. -/
def plainLexis : MonetLexis where
  keywords := ["create", "default", "index", "order", "select", "table"]
  isWord c := c = '$'
  beginsName c := c ∉ illegalInitialCharacters
  hasEscapes := true
  keywords_reserved := by decide +kernel
  beginsName_of_not_mem _ _ h := decide_eq_true h

end MonetDB
