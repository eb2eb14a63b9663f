import MonetdbAdbc.Compiler.Identifiers
import MonetdbAdbc.Json.Path
import MonetdbAdbc.Library.Parser

/-!
# Statements that define objects

A `Statement` says what a statement of the data definition language is for: which object it
creates, changes or drops, and how.  `readStatement` reads a text as a statement, by the rules
of MonetDB's grammar for the statements that the dialect's compiler writes in its own way.
-/

namespace MonetDB

/-- The name of a table, a sequence or an index as a statement gives it. -/
structure ObjectName where
  schema : Option String
  name : String
deriving DecidableEq, Repr

/-- An option of a sequence. -/
inductive SequenceOption where
  | startWith (n : Int)
  | incrementBy (n : Int)
  | minValue (n : Int)
  | maxValue (n : Int)
  | cache (n : Int)
  | cycle
deriving DecidableEq, Repr

/-- A statement that defines objects. -/
inductive Statement where
  | createSequence (sequence : ObjectName) (options : List SequenceOption)
  | dropSequence (sequence : ObjectName)
  /-- The table of the column, the column, and its comment unless that is dropped. -/
  | commentOnColumn (table : ObjectName) (column : String) (comment : Option String)
  | createIndex (ifNotExists : Bool) (index : String) (table : ObjectName)
      (columns : List String)
  | dropIndex (ifExists : Bool) (index : ObjectName)
  | addUnique (table : ObjectName) (constraint : String) (columns : List String)
  | dropConstraint (table : ObjectName) (ifExists : Bool) (constraint : String)
deriving DecidableEq, Repr

/-! ### Reading -/

/-- A word of the grammar. -/
def keyword (word : String) : SqlToken :=
  .word word.toList

section Reading

variable (L : MonetLexis)

/-- A name by itself. -/
def identifier : Parser SqlToken String :=
  .token (readIdentifier L)

/-- A name that may be qualified by a schema. -/
def objectName : Parser SqlToken ObjectName := do
  let first ← identifier L
  let second ← Parser.optional do
    Parser.exactly [.symbol '.']
    identifier L
  return second.elim ⟨none, first⟩ fun name => ⟨some first, name⟩

/-- The table of a column, which may be qualified by a schema, and the column. -/
def columnPath : Parser SqlToken (ObjectName × String) := do
  let first ← identifier L
  Parser.exactly [.symbol '.']
  let second ← identifier L
  let third ← Parser.optional do
    Parser.exactly [.symbol '.']
    identifier L
  return third.elim (⟨none, first⟩, second) fun column => (⟨some first, second⟩, column)

/-- Names in parentheses. -/
def nameList : Parser SqlToken (List String) := do
  Parser.exactly [.symbol '(']
  let names ← Parser.separated (.symbol ',') (identifier L)
  Parser.exactly [.symbol ')']
  return names

/-- A numeral. -/
def natural : Parser SqlToken Nat :=
  .token fun t =>
    match t with
    | .word cs => readNatural cs
    | _ => none

/-- A numeral with an optional sign. -/
def integer : Parser SqlToken Int := do
  let negative ← Parser.flag [.symbol '-']
  let n ← natural
  return if negative then -n else n

/-- A string that is read without escapes. -/
def rawString : Parser SqlToken String :=
  .token fun t =>
    match t with
    | .quoted .raw cs => some (String.ofList cs)
    | _ => none

/-- An option of a sequence. -/
def sequenceOption : Parser SqlToken SequenceOption :=
  .keyed [
    (keyword "start", do
      Parser.exactly [keyword "with"]
      SequenceOption.startWith <$> integer),
    (keyword "increment", do
      Parser.exactly [keyword "by"]
      SequenceOption.incrementBy <$> integer),
    (keyword "minvalue", SequenceOption.minValue <$> integer),
    (keyword "maxvalue", SequenceOption.maxValue <$> integer),
    (keyword "cache", SequenceOption.cache <$> integer),
    (keyword "cycle", pure .cycle)]

/-- What follows `CREATE SEQUENCE`. -/
def createSequence : Parser SqlToken Statement := do
  let sequence ← objectName L
  Parser.exactly [keyword "as", keyword "bigint"]
  let options ← Parser.many sequenceOption
  return .createSequence sequence options

/-- What follows `CREATE INDEX`. -/
def createIndex : Parser SqlToken Statement := do
  let ifNotExists ← Parser.flag [keyword "if", keyword "not", keyword "exists"]
  let index ← identifier L
  Parser.exactly [keyword "on"]
  let table ← objectName L
  let columns ← nameList L
  return .createIndex ifNotExists index table columns

/-- What follows `DROP INDEX`. -/
def dropIndex : Parser SqlToken Statement := do
  let ifExists ← Parser.flag [keyword "if", keyword "exists"]
  let index ← objectName L
  return .dropIndex ifExists index

/-- What follows `COMMENT`. -/
def comment : Parser SqlToken Statement := do
  Parser.exactly [keyword "on", keyword "column"]
  let path ← columnPath L
  Parser.exactly [keyword "is"]
  let comment ← Parser.orElse (some <$> rawString) do
    Parser.exactly [keyword "null"]
    return none
  return .commentOnColumn path.1 path.2 comment

/-- What follows `ALTER`. -/
def alterTable : Parser SqlToken Statement := do
  Parser.exactly [keyword "table"]
  let table ← objectName L
  Parser.keyed [
    (keyword "add", do
      Parser.exactly [keyword "constraint"]
      let constraint ← identifier L
      Parser.exactly [keyword "unique"]
      let columns ← nameList L
      return .addUnique table constraint columns),
    (keyword "drop", do
      Parser.exactly [keyword "constraint"]
      let ifExists ← Parser.flag [keyword "if", keyword "exists"]
      let constraint ← identifier L
      return .dropConstraint table ifExists constraint)]

/-- A statement. -/
def statement : Parser SqlToken Statement :=
  .keyed [
    (keyword "create", .keyed [
      (keyword "sequence", createSequence L),
      (keyword "index", createIndex L)]),
    (keyword "drop", .keyed [
      (keyword "sequence", Statement.dropSequence <$> objectName L),
      (keyword "index", dropIndex L)]),
    (keyword "comment", comment L),
    (keyword "alter", alterTable L)]

/-- The statement that a text is. -/
def readStatement (text : String) : Option Statement :=
  (lex L text).bind (statement L).all

end Reading

end MonetDB
