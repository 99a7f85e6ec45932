import Multifiling.Database.Url

/-!
The kinds of database that the tables can be created in, and the URLs that lead to them.
-/

namespace Multifiling.Database

/-- A kind of database. -/
inductive Dialect where
  | postgresql
  | sqlite
  deriving DecidableEq, Repr

/-- Why a URL leads to no such database. -/
inductive DialectError where
  /-- There is no driver of this name. -/
  | unknown
  /-- The dialect has something else of this name. -/
  | noDriver
  /-- The name in front has more than two parts. -/
  | tooManyParts
  deriving DecidableEq, Repr

namespace Dialect

def backend : Dialect → String
  | .postgresql => "postgresql"
  | .sqlite => "sqlite"

/-- The drivers that a URL can name beside the backend. -/
def drivers : Dialect → List String
  | .postgresql =>
    ["base", "psycopg2", "psycopg", "psycopg_async", "asyncpg", "pg8000", "psycopg2cffi"]
  | .sqlite => ["base", "pysqlite", "aiosqlite", "pysqlcipher"]

/-- What a dialect has beside its drivers: modules, column types and constructs of its own. -/
def parts : Dialect → List String
  | .postgresql =>
    ["array", "arraylib", "dialect", "dml", "ext", "hstore", "json", "named_types", "operators",
     "pg_catalog", "ranges", "types", "_psycopg_common",
     "All", "Any", "ARRAY", "BIGINT", "BIT", "BOOLEAN", "BYTEA", "CHAR", "CIDR", "CITEXT", "DATE",
     "DOMAIN", "DOUBLE_PRECISION", "ENUM", "FLOAT", "HSTORE", "INET", "INTEGER", "INTERVAL", "JSON",
     "JSONB", "JSONPATH", "MACADDR", "MACADDR8", "MONEY", "NUMERIC", "OID", "REAL", "REGCLASS",
     "REGCONFIG", "SMALLINT", "TEXT", "TIME", "TIMESTAMP", "TSQUERY", "TSVECTOR", "UUID", "VARCHAR",
     "AbstractMultiRange", "AbstractRange", "AbstractSingleRange", "DATEMULTIRANGE", "DATERANGE",
     "INT4MULTIRANGE", "INT4RANGE", "INT8MULTIRANGE", "INT8RANGE", "MultiRange", "NUMMULTIRANGE",
     "NUMRANGE", "Range", "TSMULTIRANGE", "TSRANGE", "TSTZMULTIRANGE", "TSTZRANGE",
     "CreateDomainType", "CreateEnumType", "DropDomainType", "DropEnumType", "NamedType",
     "ExcludeConstraint", "Insert", "insert", "distinct_on", "aggregate_order_by", "array_agg",
     "phraseto_tsquery", "plainto_tsquery", "to_tsquery", "to_tsvector", "ts_headline",
     "websearch_to_tsquery", "BitString", "bitstring", "ModuleType"]
  | .sqlite =>
    ["dialect", "dml", "json", "Insert", "insert",
     "BLOB", "BOOLEAN", "CHAR", "DATE", "DATETIME", "DECIMAL", "FLOAT", "INTEGER", "JSON",
     "NUMERIC", "REAL", "SMALLINT", "TEXT", "TIME", "TIMESTAMP", "VARCHAR"]

/-- What every dialect has, because every module has it. -/
def moduleParts : List String :=
  ["__all__", "__annotations__", "__builtins__", "__cached__", "__class__", "__delattr__",
   "__dict__", "__dir__", "__doc__", "__eq__", "__file__", "__format__", "__ge__",
   "__getattribute__", "__getstate__", "__gt__", "__hash__", "__init__", "__init_subclass__",
   "__le__", "__loader__", "__lt__", "__name__", "__ne__", "__new__", "__package__", "__path__",
   "__reduce__", "__reduce_ex__", "__repr__", "__setattr__", "__sizeof__", "__spec__", "__str__",
   "__subclasshook__"]

/-- The dialect of a URL. -/
def ofUrl (url : Url) : Except DialectError Dialect :=
  if url.driver.any (·.toList.contains '+') then .error .tooManyParts
  else
    match [postgresql, sqlite].find? (·.backend = url.backend) with
    | none => .error .unknown
    | some dialect =>
      match url.driver with
      | none => .ok dialect
      | some driver =>
        if dialect.drivers.contains driver then .ok dialect
        else if (dialect.parts ++ moduleParts).contains driver then .error .noDriver
        else .error .unknown

end Dialect

end Multifiling.Database
