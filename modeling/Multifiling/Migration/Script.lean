import Multifiling.Database.IniOption
import Multifiling.Migration.Target
import Multifiling.Text.Pieces

/-!
Scripts: the text of the statements of a migration for a dialect, one line after the other, made
without a database. Where such a script starts is written before its target, with a colon between.
-/

namespace Multifiling.Migration

open Database (Dialect DialectError Url UrlError)
open Database.IniOption (IniError setAndGet)

/-- The word for what a column holds. -/
def typeName (dialect : Dialect) : ColumnType → String
  | .identifier => match dialect with
    | .postgresql => "UUID"
    | .sqlite => "CHAR(32)"
  | .text length => "VARCHAR(" ++ toString length ++ ")"
  | .json => "JSON"
  | .boolean => "BOOLEAN"
  | .timestamp => match dialect with
    | .postgresql => "TIMESTAMP WITH TIME ZONE"
    | .sqlite => "DATETIME"

/-- The clause for what stands in a column that is left out. -/
def defaultClause : Dialect → ColumnDefault → String
  | .postgresql, _ => " DEFAULT now()"
  | .sqlite, .nowCall => " DEFAULT (now())"
  | .sqlite, .insertTime => " DEFAULT CURRENT_TIMESTAMP"

def columnText (dialect : Dialect) (column : Column) : String :=
  column.name ++ " " ++ typeName dialect column.type ++
    column.whenOmitted.elim "" (defaultClause dialect) ++
    (if column.nullable then "" else " NOT NULL")

def columnList (columns : List String) : String := "(" ++ ", ".intercalate columns ++ ")"

/-- The name of a constraint, if it has one. -/
def constraintName : Option String → String
  | none => ""
  | some name => "CONSTRAINT " ++ name ++ " "

def onDeleteText : OnDelete → String
  | .setNull => "SET NULL"
  | .cascade => "CASCADE"

def constraintTexts (table : Table) : List String :=
  [constraintName table.primaryKeyName ++ "PRIMARY KEY (" ++ table.primaryKey ++ ")"] ++
    table.foreignKeys.map (fun key =>
      "FOREIGN KEY(" ++ key.column ++ ") REFERENCES " ++ key.table ++ " (id) ON DELETE " ++
        onDeleteText key.onDelete) ++
    table.uniqueKeys.map (fun key =>
      constraintName (some key.name) ++ "UNIQUE " ++ columnList key.columns) ++
    table.checks.map fun check =>
      constraintName (some check.name) ++ "CHECK (" ++ check.left ++ " <> " ++ check.right ++ ")"

/-- The entries of a table's definition, each on a line of its own. -/
def indented : List String → List String
  | [] => []
  | [last] => ["    " ++ last]
  | entry :: rest => ("    " ++ entry ++ ",") :: indented rest

/-- What gives back the version that was inserted. -/
def returningText : Dialect → String
  | .postgresql => versionTable.name ++ ".version_num"
  | .sqlite => "version_num"

/-- The restriction of an index, where the dialect has it. -/
def filterText : Option String → String
  | none => ""
  | some column => " WHERE " ++ column

def Statement.lines (dialect : Dialect) : Statement → List String
  | .createTable table =>
    ["CREATE TABLE " ++ table.name ++ " ("] ++
      indented (table.columns.map (columnText dialect) ++ constraintTexts table) ++ [");"]
  | .createIndex index =>
    [(if index.unique then "CREATE UNIQUE INDEX " else "CREATE INDEX ") ++ index.name ++ " ON " ++
      index.table ++ " " ++ columnList index.columns ++ filterText (index.filterOn dialect) ++ ";"]
  | .dropIndex name => ["DROP INDEX " ++ name ++ ";"]
  | .dropTable name => ["DROP TABLE " ++ name ++ ";"]
  | .insertVersion version =>
    ["INSERT INTO " ++ versionTable.name ++ " (version_num) VALUES ('" ++ version ++
      "') RETURNING " ++ returningText dialect ++ ";"]
  | .deleteVersion version =>
    ["DELETE FROM " ++ versionTable.name ++ " WHERE " ++ versionTable.name ++ ".version_num = '" ++
      version ++ "';"]

def Action.label : Action → String
  | .upgrade => "upgrade"
  | .downgrade => "downgrade"
  | .stamp => "stamp_revision"

def Step.announcement (step : Step) : String :=
  "-- Running " ++ step.action.label ++
    match step.target with
    | .head => "  -> " ++ revision
    | .base => " " ++ revision ++ " ->"

def Step.lines (dialect : Dialect) (current : Stage) (step : Step) : List String :=
  -- a script that starts at the base makes the version table itself
  (if current = .base then (Statement.createTable versionTable).lines dialect else []) ++
    step.announcement :: step.statements.flatMap (Statement.lines dialect)

/-- Puts lines into one transaction, where the dialect has it for changes of the schema. -/
def inTransaction (lines : List String) : Dialect → List String
  | .postgresql => ["BEGIN;"] ++ lines ++ ["COMMIT;"]
  | .sqlite => lines

/-- Why no script can be made. -/
inductive ScriptError where
  /-- A script that leads down needs to be told where it starts. -/
  | noStart
  /-- More than one colon. -/
  | longRange
  | noUrl
  | url (error : UrlError)
  | option (error : IniError)
  | dialect (error : DialectError)
  | start (error : TargetError)
  /-- The start is the base, but not by its own name. -/
  | disguisedBase
  | target (error : TargetError)
  deriving DecidableEq, Repr

/-- What a script is asked for: where it starts, if that is told, and its target. -/
structure ScriptRange where
  start : Option String
  target : String
  deriving DecidableEq, Repr

/-- Reads a range. -/
def ScriptRange.parse (action : Action) (text : String) : Except ScriptError ScriptRange :=
  match Text.pieces ':' text.toList with
  | [start, target] => .ok ⟨some (String.ofList start), String.ofList target⟩
  | [target] =>
    if action = .downgrade then .error .noStart else .ok ⟨none, String.ofList target⟩
  | _ => .error .longRange

/-- Where migrations keep the database URL: an option of a section, and what else stands there. -/
structure UrlOption where
  name : String
  others : Entries String String
  deriving DecidableEq, Repr

/-- The URL that a migration uses: the configured one, set as an option and read back. -/
def UrlOption.pass (option : UrlOption) (databaseUrl : String) : Except IniError String :=
  setAndGet option.others option.name databaseUrl

/-- The dialect that a script for a configured URL is made for. -/
def UrlOption.dialect (option : UrlOption) (databaseUrl : String) : Except ScriptError Dialect := do
  let text ← (option.pass databaseUrl).mapError .option
  if text = "" then throw .noUrl
  let url ← (Url.parse text).mapError .url
  (Dialect.ofUrl url).mapError .dialect

/-- Where a script starts. -/
def ScriptRange.startStage (range : ScriptRange) : Except ScriptError Stage :=
  match range.start with
  | none | some "base" => .ok .base
  | some text =>
    match (Labelled.parse text).stage with
    | .error e => .error (.start e)
    | .ok .base => .error .disguisedBase
    | .ok .head => .ok .head

/-- The script of an action for a configured URL. -/
def script (option : UrlOption) (databaseUrl : String) (action : Action) (text : String) :
    Except ScriptError (List String) := do
  let range ← ScriptRange.parse action text
  let dialect ← option.dialect databaseUrl
  let current ← range.startStage
  match ← (plan action current range.target).mapError .target with
  | none => return inTransaction [] dialect
  | some step => return inTransaction (step.lines dialect current) dialect

end Multifiling.Migration
