import Mathlib.Data.List.Basic

/-!
# Types of reflected columns

The SQLAlchemy types that `resolve_type` builds, and the map from MonetDB's type names to
them.  The warning about an unknown type name is left out.
-/

namespace MonetDB

/-- The SQLAlchemy types that reflection builds. -/
inductive ReflectedType where
  | bigint
  | blob
  | boolean
  | char (length : Int)
  | text
  | date
  | secondInterval
  | decimal (precision scale : Int)
  | doublePrecision
  | hugeint
  | inet
  | integer
  | json
  | monthInterval
  | real
  | smallint
  | time (timezone : Bool)
  | timestamp (timezone : Bool)
  | tinyint
  | url
  | uuid
  | varchar (length : Int)
  | nulltype
deriving DecidableEq, Repr

/-- How a type of `MONETDB_TYPE_MAP` is built from the digits and the scale of a column. -/
def monetdbTypeMap : List (String × (Int → Int → ReflectedType)) :=
  [("bigint", fun _ _ => .bigint),
    ("blob", fun _ _ => .blob),
    ("boolean", fun _ _ => .boolean),
    ("char", fun digits _ => .char digits),
    ("clob", fun _ _ => .text),
    ("date", fun _ _ => .date),
    ("day_interval", fun _ _ => .secondInterval),
    ("decimal", fun digits scale => .decimal digits scale),
    ("double", fun _ _ => .doublePrecision),
    ("hugeint", fun _ _ => .hugeint),
    ("inet", fun _ _ => .inet),
    ("int", fun _ _ => .integer),
    ("json", fun _ _ => .json),
    ("month_interval", fun _ _ => .monthInterval),
    ("oid", fun _ _ => .bigint),
    ("real", fun _ _ => .real),
    ("sec_interval", fun _ _ => .secondInterval),
    ("smallint", fun _ _ => .smallint),
    ("time", fun _ _ => .time false),
    ("timestamp", fun _ _ => .timestamp false),
    ("timestamptz", fun _ _ => .timestamp true),
    ("timetz", fun _ _ => .time true),
    ("tinyint", fun _ _ => .tinyint),
    ("url", fun _ _ => .url),
    ("uuid", fun _ _ => .uuid),
    ("varchar", fun digits _ => .varchar digits)]

/-- `resolve_type`. -/
def resolveType (typeName : String) (digits scale : Int) : ReflectedType :=
  if typeName = "varchar" ∧ digits = 0 then
    .text
  else
    match monetdbTypeMap.lookup typeName with
    | none => .nulltype
    | some constructor => constructor digits scale

end MonetDB
