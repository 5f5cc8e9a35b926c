import Pushdown.Relational.Dialect

/-!
# Type names of relational databases

One dialect lists its type names; the other two are matched by patterns, of which the first that
matches decides.
-/

namespace Pushdown.Dialect

open TypeRule TypePattern

/-- The type names of MySQL and MariaDB. -/
def mySqlTypes : List (String × ColumnType) :=
  [ ("integer", .numeric), ("int", .numeric), ("smallint", .numeric), ("tinyint", .numeric),
    ("mediumint", .numeric), ("bigint", .numeric), ("decimal", .numeric), ("numeric", .numeric),
    ("float", .numeric), ("double", .numeric), ("bit", .hierarchy), ("date", .datetime),
    ("datetime", .datetime), ("timestamp", .datetime), ("time", .datetime), ("year", .datetime),
    ("char", .hierarchy), ("varchar", .hierarchy), ("binary", .hierarchy),
    ("varbinary", .hierarchy), ("text", .hierarchy), ("tinytext", .hierarchy),
    ("mediumtext", .hierarchy), ("longtext", .hierarchy), ("enum", .hierarchy),
    ("set", .hierarchy), ("json", .hierarchy), ("string", .hierarchy) ]

/-- Patterns one after the other. -/
def inOrder : List TypePattern → TypePattern
  | [] => .word ""
  | [p] => p
  | p :: rest => .seq p (inOrder rest)

/-- A digit in parentheses. -/
def precision : TypePattern := inOrder [.word "(", .digit, .word ")"]

/-- A type of instants with an optional precision and its time zone spelled out. -/
def zoned (letters : String) : TypePattern :=
  inOrder [.word letters, .maybe precision, .word " with", .maybe (.word "out"),
    .word " time zone"]

/-- The type names of PostgreSQL. -/
def postgresTypes : List TypeRule :=
  [ holding "money" .numeric,
    exactly (.word "smallint") .numeric,
    exactly (.word "integer") .numeric,
    startingWith "numeric" .numeric,
    exactly (.word "bigint") .numeric,
    startingWith "decimal" .numeric,
    exactly (.word "double precision") .numeric,
    exactly (inOrder [.maybe (.either (.word "small") (.word "big")), .word "serial"]) .numeric,
    exactly (inOrder [.word "float", .maybe .digit]) .numeric,
    startingWith "real" .numeric,
    exactly (inOrder [.word "int",
      .maybe (.either (.word "2") (.either (.word "4") (.word "8")))]) .numeric,
    exactly (.word "date") .datetime,
    exactly (.word "time") .datetime,
    exactly (.word "timestamp") .datetime,
    exactly (.word "timestamptz") .datetime,
    exactly (.word "interval") .datetime,
    exactly (zoned "timestamp") .datetime,
    exactly (zoned "time") .datetime,
    startingWith "uuid" .hierarchy,
    startingWith "character varying" .hierarchy,
    startingWith "varchar" .hierarchy,
    startingWith "char" .hierarchy,
    startingWith "character" .hierarchy,
    exactly (.word "text") .hierarchy,
    exactly (.word "boolean") .hierarchy,
    exactly (.word "bit") .hierarchy,
    startingWith "bit varying" .hierarchy ]

/-- The type names of SQL Server. -/
def sqlServerTypes : List TypeRule :=
  [ holding "money" .numeric,
    exactly (.word "smallint") .numeric,
    exactly (.word "integer") .numeric,
    exactly (.word "int") .numeric,
    exactly (.word "tinyint") .numeric,
    startingWith "numeric" .numeric,
    exactly (.word "bigint") .numeric,
    startingWith "decimal" .numeric,
    exactly (.word "double precision") .numeric,
    exactly (.word "serial") .numeric,
    exactly (inOrder [.word "float", .maybe .digit]) .numeric,
    startingWith "real" .numeric,
    exactly (.word "date") .datetime,
    exactly (.word "time") .datetime,
    exactly (inOrder [.maybe (.word "small"), .word "datetime", .maybe .digit,
      .maybe (.word "offset")]) .datetime,
    exactly (.word "timestamp") .datetime,
    startingWith "uuid" .hierarchy,
    exactly (inOrder [.maybe (.word "var"), .word "binary"]) .hierarchy,
    exactly (.word "xml") .hierarchy,
    exactly (.word "hierarchyid") .hierarchy,
    exactly (inOrder [.maybe (.word "n"), .word "varchar", .maybe .digit]) .hierarchy,
    exactly (inOrder [.maybe (.word "n"), .word "char", .maybe .digit]) .hierarchy,
    exactly (inOrder [.maybe (.word "n"), .word "text"]) .hierarchy,
    exactly (.word "bit") .hierarchy,
    exactly (.word "uniqueidentifier") .hierarchy ]

/-- The type names of a dialect. -/
def types : Dialect → TypeTable
  | .mySql => .names mySqlTypes
  | .postgres => .rules postgresTypes
  | .sqlServer => .rules sqlServerTypes

end Pushdown.Dialect
