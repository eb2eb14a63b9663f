import MonetdbAdbc.Catalog.Types

/-!
# Declaring column types

`MonetDBTypeCompiler` renders a column type as a MonetDB declaration, and `resolveType` builds
a column type from the row that MonetDB stores for a declaration.  A type is re-created when
its declaration is legal and the type read back is declared with the same row
(`recreates_iff`).

`MonetTypes` is what MonetDB records besides the sizes, and `GenericTypeCompiler` is the
compiler of SQLAlchemy that `MonetDBTypeCompiler` falls back to.
-/

namespace MonetDB

/-! ### Declarations -/

/-- A column type in SQL: `KEYWORD(arguments) WITH TIME ZONE`. -/
structure Declaration where
  keyword : String
  arguments : List Int := []
  withTimeZone : Bool := false
deriving DecidableEq, Repr

/-- SQLAlchemy's rendering of the types that take a length. -/
structure GenericTypeCompiler where
  /-- `_render_string_type`, without a collation. -/
  renderStringType : String → Option Int → Declaration
  renderStringType_none : ∀ name, renderStringType name none = { keyword := name }
  renderStringType_some : ∀ name length, 1 ≤ length →
    renderStringType name (some length) = { keyword := name, arguments := [length] }

/-- The column types that the dialect compiles, under the names of their visitors. -/
inductive ColumnType where
  /-- `Numeric`, `NUMERIC` and `DECIMAL`. -/
  | numeric (precision scale : Option Int)
  /-- `Float` and `FLOAT`. -/
  | float (precision : Option Int)
  /-- `Double`, `DOUBLE` and `DOUBLE_PRECISION`. -/
  | double
  | real
  | integer
  | smallInteger
  | bigInteger
  | tinyint
  | hugeint
  | boolean
  /-- `String`, `VARCHAR`, `NVARCHAR`, `Unicode` and `Enum`. -/
  | varchar (length : Option Int)
  /-- `Text`, `TEXT`, `NTEXT` and `UnicodeText`. -/
  | text
  | char (length : Option Int)
  /-- `LargeBinary`, `BLOB`, `VARBINARY` and `BINARY`. -/
  | blob
  | date
  /-- `DateTime`, `DATETIME` and `TIMESTAMP`. -/
  | timestamp (timezone : Bool)
  /-- `Time` and `TIME`. -/
  | time (timezone : Bool)
  /-- `SECOND_INTERVAL`, which `Interval` is adapted to. -/
  | secondInterval
  | monthInterval
  /-- `Uuid` and `UUID`. -/
  | uuid (nativeUuid : Bool)
  | json
  | inet
  | url
  | nulltype
deriving DecidableEq, Repr

/-! ### `MonetDBTypeCompiler` -/

/-- `MONETDB_DEFAULT_DECIMAL_PRECISION`. -/
def defaultDecimalPrecision : Int := 18

/-- `MONETDB_DEFAULT_DECIMAL_SCALE`. -/
def defaultDecimalScale : Int := 3

/-- `getattr(type_, "precision", None) or MONETDB_DEFAULT_DECIMAL_PRECISION`. -/
def decimalPrecision : Option Int → Int
  | none => defaultDecimalPrecision
  | some precision => if precision = 0 then defaultDecimalPrecision else precision

/-- A precision that is given is kept. -/
theorem decimalPrecision_some {precision : Int} (h : 1 ≤ precision) :
  decimalPrecision (some precision) = precision
  := by
  have hnonzero : precision ≠ 0 := by omega
  apply if_neg hnonzero

/-- `_decimal`. -/
def decimal (precision scale : Option Int) : Declaration :=
  { keyword := "DECIMAL"
    arguments := [decimalPrecision precision, scale.getD defaultDecimalScale] }

/-- `visit_FLOAT`. -/
def visitFLOAT : Option Int → Declaration
  | none => { keyword := "DOUBLE PRECISION" }
  | some precision => { keyword := "FLOAT", arguments := [precision] }

/-- `visit_TIMESTAMP`. -/
def visitTIMESTAMP (timezone : Bool) : Declaration :=
  { keyword := "TIMESTAMP", withTimeZone := timezone }

/-- `visit_TIME` of a type without a precision. -/
def visitTIME (timezone : Bool) : Declaration :=
  { keyword := "TIME", arguments := [6], withTimeZone := timezone }

variable (G : GenericTypeCompiler)

/-- `visit_VARCHAR`. -/
def visitVARCHAR : Option Int → Declaration
  | none => { keyword := "CLOB" }
  | some length => G.renderStringType "VARCHAR" (some length)

/-- `visit_uuid`. -/
def visitUuid (nativeUuid : Bool) : Declaration :=
  if nativeUuid then { keyword := "UUID" } else G.renderStringType "CHAR" (some 32)

/-- The declaration of a column type; the null type has none. -/
def process : ColumnType → Option Declaration
  | .numeric precision scale => some (decimal precision scale)
  | .float precision => some (visitFLOAT precision)
  | .double => some { keyword := "DOUBLE PRECISION" }
  | .real => some { keyword := "REAL" }
  | .integer => some { keyword := "INTEGER" }
  | .smallInteger => some { keyword := "SMALLINT" }
  | .bigInteger => some { keyword := "BIGINT" }
  | .tinyint => some { keyword := "TINYINT" }
  | .hugeint => some { keyword := "HUGEINT" }
  | .boolean => some { keyword := "BOOLEAN" }
  | .varchar length => some (visitVARCHAR G length)
  | .text => some { keyword := "CLOB" }
  | .char length => some (G.renderStringType "CHAR" length)
  | .blob => some { keyword := "BLOB" }
  | .date => some { keyword := "DATE" }
  | .timestamp timezone => some (visitTIMESTAMP timezone)
  | .time timezone => some (visitTIME timezone)
  | .secondInterval => some { keyword := "INTERVAL SECOND" }
  | .monthInterval => some { keyword := "INTERVAL MONTH" }
  | .uuid nativeUuid => some (visitUuid G nativeUuid)
  | .json => some { keyword := "JSON" }
  | .inet => some { keyword := "INET" }
  | .url => some { keyword := "URL" }
  | .nulltype => none

/-! ### What MonetDB stores -/

/-- The type of a column as the catalog has it. -/
structure CatalogType where
  typeName : String
  digits : Int
  scale : Int
deriving DecidableEq, Repr

/-- The digits and scales that MonetDB records for types without a size of their own. -/
structure MonetTypes where
  sizes : String → Int × Int

/-- The catalog names of the types that are declared by a keyword alone. -/
def plainTypes : List (String × String) :=
  [("INTEGER", "int"),
    ("SMALLINT", "smallint"),
    ("BIGINT", "bigint"),
    ("TINYINT", "tinyint"),
    ("HUGEINT", "hugeint"),
    ("BOOLEAN", "boolean"),
    ("REAL", "real"),
    ("DOUBLE PRECISION", "double"),
    ("BLOB", "blob"),
    ("DATE", "date"),
    ("INTERVAL SECOND", "sec_interval"),
    ("INTERVAL MONTH", "month_interval"),
    ("UUID", "uuid"),
    ("JSON", "json"),
    ("INET", "inet"),
    ("URL", "url")]

namespace MonetTypes

variable (M : MonetTypes)

/-- The row of a type without a size. -/
def unsized (typeName : String) : CatalogType :=
  ⟨typeName, (M.sizes typeName).1, (M.sizes typeName).2⟩

/-- The row that MonetDB stores for a declaration, if it is legal. -/
def store : Declaration → Option CatalogType
  | ⟨"DECIMAL", [precision, scale], false⟩ =>
      if 1 ≤ precision ∧ precision ≤ 38 ∧ 0 ≤ scale ∧ scale ≤ precision then
        some ⟨"decimal", precision, scale⟩
      else
        none
  | ⟨"FLOAT", [precision], false⟩ =>
      if 1 ≤ precision ∧ precision ≤ 53 then
        some (M.unsized (if precision ≤ 24 then "real" else "double"))
      else
        none
  | ⟨"VARCHAR", [length], false⟩ =>
      if 1 ≤ length then some ⟨"varchar", length, 0⟩ else none
  | ⟨"CLOB", [], false⟩ => some ⟨"varchar", 0, 0⟩
  | ⟨"CHAR", [length], false⟩ => if 1 ≤ length then some ⟨"char", length, 0⟩ else none
  | ⟨"CHAR", [], false⟩ => some ⟨"char", 1, 0⟩
  | ⟨"TIME", [6], timezone⟩ => some (M.unsized (if timezone then "timetz" else "time"))
  | ⟨"TIMESTAMP", [], timezone⟩ =>
      some (M.unsized (if timezone then "timestamptz" else "timestamp"))
  | ⟨keyword, [], false⟩ => (plainTypes.lookup keyword).map M.unsized
  | _ => none

/-- A declaration is legal when MonetDB stores a column of it. -/
def Legal (declaration : Declaration) : Prop :=
  (M.store declaration).isSome

end MonetTypes

/-! ### Re-creating a column -/

/-- The column type that a reflected one is. -/
def ReflectedType.columnType : ReflectedType → ColumnType
  | .bigint => .bigInteger
  | .blob => .blob
  | .boolean => .boolean
  | .char length => .char (some length)
  | .text => .text
  | .date => .date
  | .secondInterval => .secondInterval
  | .decimal precision scale => .numeric (some precision) (some scale)
  | .doublePrecision => .double
  | .hugeint => .hugeint
  | .inet => .inet
  | .integer => .integer
  | .json => .json
  | .monthInterval => .monthInterval
  | .real => .real
  | .smallint => .smallInteger
  | .time timezone => .time timezone
  | .timestamp timezone => .timestamp timezone
  | .tinyint => .tinyint
  | .url => .url
  | .uuid => .uuid true
  | .varchar length => .varchar (some length)
  | .nulltype => .nulltype

/-- The column type that is built from a row of the catalog. -/
def CatalogType.reflect (row : CatalogType) : ColumnType :=
  (resolveType row.typeName row.digits row.scale).columnType

/-- The arguments that a column type can be given. -/
def ColumnType.Legal : ColumnType → Prop
  | .numeric precision scale =>
      (∀ p, precision = some p → 1 ≤ p ∧ p ≤ 38) ∧
        ∀ s, scale = some s → 0 ≤ s ∧ s ≤ precision.getD defaultDecimalPrecision
  | .float precision => ∀ p, precision = some p → 1 ≤ p ∧ p ≤ 53
  | .varchar length => ∀ n, length = some n → 1 ≤ n
  | .char length => ∀ n, length = some n → 1 ≤ n
  | .nulltype => False
  | _ => True

variable (M : MonetTypes)

/-- A column type is declared legally, and the type that is read back is declared with the
same row. -/
structure Recreates (type : ColumnType) : Prop where
  legal : ∃ declaration, process G type = some declaration ∧ M.Legal declaration
  same : ∀ declaration row, process G type = some declaration → M.store declaration = some row →
    ∃ declaration', process G row.reflect = some declaration' ∧ M.store declaration' = some row

/-- A type whose declaration is stored as a row that is re-created. -/
theorem recreates_of_store {type : ColumnType} {declaration declaration' : Declaration}
    {row : CatalogType} (hprocess : process G type = some declaration)
    (hstore : M.store declaration = some row)
    (hreflect : process G row.reflect = some declaration')
    (hstore' : M.store declaration' = some row) :
  Recreates G M type
  := by
  constructor
  · use declaration, hprocess
    rw [MonetTypes.Legal, hstore]
    rfl
  · intro d r hd hr
    rw [hprocess] at hd
    cases hd
    rw [hstore] at hr
    cases hr
    exact ⟨declaration', hreflect, hstore'⟩

/-- A decimal whose scale is at most its precision is re-created. -/
theorem recreates_decimal {type : ColumnType} {precision scale : Int}
    (hprocess : process G type = some { keyword := "DECIMAL", arguments := [precision, scale] })
    (hprecision : 1 ≤ precision ∧ precision ≤ 38) (hscale : 0 ≤ scale ∧ scale ≤ precision) :
  Recreates G M type
  := by
  have hstore : M.store { keyword := "DECIMAL", arguments := [precision, scale] }
      = some ⟨"decimal", precision, scale⟩ := by
    apply if_pos
    exact ⟨hprecision.1, hprecision.2, hscale.1, hscale.2⟩
  apply recreates_of_store G M hprocess hstore _ hstore
  change some (decimal (some precision) (some scale)) = _
  rw [decimal, decimalPrecision_some hprecision.1, Option.getD_some]

/-- A type that is declared as a string of a length is re-created. -/
theorem recreates_sized {type : ColumnType} {keyword typeName : String} {length : Int}
    (hname : keyword = "VARCHAR" ∧ typeName = "varchar" ∨ keyword = "CHAR" ∧ typeName = "char")
    (hprocess : process G type = some { keyword := keyword, arguments := [length] })
    (hlength : 1 ≤ length) :
  Recreates G M type
  := by
  have hstore : M.store { keyword := keyword, arguments := [length] }
      = some ⟨typeName, length, 0⟩ := by
    rcases hname with ⟨rfl, rfl⟩ | ⟨rfl, rfl⟩ <;> apply if_pos hlength
  apply recreates_of_store G M hprocess hstore _ hstore
  have hpositive : length ≠ 0 := by omega
  rcases hname with ⟨rfl, rfl⟩ | ⟨rfl, rfl⟩
  · have hresolve : resolveType "varchar" length 0 = .varchar length := by
      rw [resolveType, if_neg fun h => hpositive h.2]
      rfl
    rw [CatalogType.reflect, hresolve]
    apply congrArg some
    apply G.renderStringType_some "VARCHAR" length hlength
  · apply congrArg some
    apply G.renderStringType_some "CHAR" length hlength

/-- A decimal is re-created unless it has a precision below its default scale. -/
theorem recreates_numeric_iff {precision scale : Option Int}
    (h : (ColumnType.numeric precision scale).Legal) :
  Recreates G M (.numeric precision scale)
    ↔ ∀ p, ColumnType.numeric precision scale = .numeric (some p) none → 3 ≤ p
  := by
  obtain ⟨hprecision, hscale⟩ := h
  constructor
  · rintro hrec p ⟨⟩
    obtain ⟨declaration, hprocess, hlegal⟩ := hrec.legal
    cases hprocess
    by_contra hlt
    have hstore : M.store (decimal (some p) none) = none := by
      rw [decimal, decimalPrecision_some (hprecision p rfl).1]
      apply if_neg
      rintro ⟨-, -, -, hle⟩
      exact hlt hle
    rw [MonetTypes.Legal, hstore] at hlegal
    cases hlegal
  · intro hdefault
    have hbounds : 1 ≤ decimalPrecision precision ∧ decimalPrecision precision ≤ 38 := by
      cases precision with
      | none => decide
      | some p =>
          have hp := hprecision p rfl
          rw [decimalPrecision_some hp.1]
          apply hp
    have hequal : precision.getD defaultDecimalPrecision = decimalPrecision precision := by
      cases precision with
      | none => rfl
      | some p =>
          rw [decimalPrecision_some (hprecision p rfl).1, Option.getD_some]
    apply recreates_decimal G M rfl hbounds
    cases scale with
    | some s =>
        have hs := hscale s rfl
        rw [hequal] at hs
        apply hs
    | none =>
        cases precision with
        | none => decide
        | some p =>
            have hp := hdefault p rfl
            rw [← hequal]
            exact ⟨by decide, hp⟩

/-- A type of floating-point numbers is re-created as the single or double precision it has. -/
theorem recreates_float {precision : Option Int} (h : (ColumnType.float precision).Legal) :
  Recreates G M (.float precision)
  := by
  cases precision with
  | none => apply recreates_of_store G M rfl rfl rfl rfl
  | some p =>
      have hstore : M.store (visitFLOAT (some p))
          = some (M.unsized (if p ≤ 24 then "real" else "double")) := if_pos (h p rfl)
      by_cases hp : p ≤ 24
      · rw [if_pos hp] at hstore
        apply recreates_of_store G M rfl hstore rfl rfl
      · rw [if_neg hp] at hstore
        apply recreates_of_store G M rfl hstore rfl rfl

/-- Texts of a length, and those without one, are re-created. -/
theorem recreates_varchar {length : Option Int} (h : (ColumnType.varchar length).Legal) :
  Recreates G M (.varchar length)
  := by
  cases length with
  | none => apply recreates_of_store G M rfl rfl rfl rfl
  | some n =>
      have hn := h n rfl
      apply recreates_sized G M (.inl ⟨rfl, rfl⟩) _ hn
      apply congrArg some
      apply G.renderStringType_some "VARCHAR" n hn

theorem recreates_char {length : Option Int} (h : (ColumnType.char length).Legal) :
  Recreates G M (.char length)
  := by
  have hsized : ∀ n, 1 ≤ n →
      process G (.char (some n)) = some { keyword := "CHAR", arguments := [n] } :=
    fun n hn => congrArg some (G.renderStringType_some "CHAR" n hn)
  cases length with
  | some n => apply recreates_sized G M (.inr ⟨rfl, rfl⟩) (hsized n (h n rfl)) (h n rfl)
  | none =>
      -- a single character, which is declared with its length when it is read back
      have hbare : process G (.char none) = some { keyword := "CHAR" } :=
        congrArg some (G.renderStringType_none "CHAR")
      have hstore : M.store { keyword := "CHAR" } = some ⟨"char", 1, 0⟩ := rfl
      apply recreates_of_store G M hbare hstore (hsized 1 (by decide)) rfl

/-- Times and timestamps are re-created with their time zone flag. -/
theorem recreates_time (timezone : Bool) :
  Recreates G M (.time timezone)
  := by
  cases timezone <;> apply recreates_of_store G M rfl rfl rfl rfl

theorem recreates_timestamp (timezone : Bool) :
  Recreates G M (.timestamp timezone)
  := by
  cases timezone <;> apply recreates_of_store G M rfl rfl rfl rfl

/-- A `Uuid` is re-created, as 32 characters when it is not native. -/
theorem recreates_uuid (nativeUuid : Bool) :
  Recreates G M (.uuid nativeUuid)
  := by
  cases nativeUuid with
  | true => apply recreates_of_store G M rfl rfl rfl rfl
  | false =>
      apply recreates_sized G M (.inr ⟨rfl, rfl⟩) _ (by decide : (1 : Int) ≤ 32)
      apply congrArg some
      apply G.renderStringType_some "CHAR" 32 (by decide)

/-- Every type with legal arguments is re-created, except a decimal of precision 1 or 2 that is
not given its scale. -/
theorem recreates_iff (type : ColumnType) (h : type.Legal) :
  Recreates G M type ↔ ∀ precision, type = .numeric (some precision) none → 3 ≤ precision
  := by
  cases type with
  | numeric precision scale => apply recreates_numeric_iff G M h
  | nulltype => exact absurd h not_false
  | float precision => exact iff_of_true (recreates_float G M h) nofun
  | varchar length => exact iff_of_true (recreates_varchar G M h) nofun
  | char length => exact iff_of_true (recreates_char G M h) nofun
  | time timezone => exact iff_of_true (recreates_time G M timezone) nofun
  | timestamp timezone => exact iff_of_true (recreates_timestamp G M timezone) nofun
  | uuid nativeUuid => exact iff_of_true (recreates_uuid G M nativeUuid) nofun
  | _ => exact iff_of_true (recreates_of_store G M rfl rfl rfl rfl) nofun

/-- SQLAlchemy's rendering of a length: in parentheses unless it is absent or zero. -/
def renderStringType : GenericTypeCompiler where
  renderStringType name
    | none => { keyword := name }
    | some length =>
        if length = 0 then { keyword := name } else { keyword := name, arguments := [length] }
  renderStringType_none _ := rfl
  renderStringType_some name length h := by
    have hnonzero : length ≠ 0 := by omega
    apply if_neg hnonzero

/-- Types without a size are recorded with none. -/
def unsizedTypes : MonetTypes where
  sizes _ := (0, 0)

/-- A decimal of ten digits without a scale is declared with three decimals. -/
theorem recreates_decimal10 :
  Recreates renderStringType unsizedTypes (.numeric (some 10) none)
  := by
  have hlegal : (ColumnType.numeric (some 10) none).Legal := by
    constructor
    · rintro p ⟨⟩
      decide
    · rintro s ⟨⟩
  apply (recreates_iff renderStringType unsizedTypes _ hlegal).mpr
  rintro precision ⟨⟩
  decide

/-- A decimal of two digits without a scale is declared with three decimals, which MonetDB
rejects. -/
theorem decimal2_illegal :
  process renderStringType (.numeric (some 2) none)
      = some { keyword := "DECIMAL", arguments := [2, 3] }
    ∧ unsizedTypes.store { keyword := "DECIMAL", arguments := [2, 3] } = none
    ∧ ¬ ∀ type : ColumnType, type.Legal → Recreates renderStringType unsizedTypes type
  := by
  have hstore : unsizedTypes.store { keyword := "DECIMAL", arguments := [2, 3] } = none := rfl
  refine ⟨rfl, hstore, ?_⟩
  intro h
  have hlegal : (ColumnType.numeric (some 2) none).Legal := by
    constructor
    · rintro p ⟨⟩
      decide
    · rintro s ⟨⟩
  obtain ⟨declaration, hprocess, hdeclared⟩ := (h _ hlegal).legal
  cases hprocess
  rw [MonetTypes.Legal, decimal, decimalPrecision] at hdeclared
  cases hdeclared

end MonetDB
