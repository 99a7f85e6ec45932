import Multifiling.Entries
import Multifiling.Issue
import Multifiling.Text.Numeral
import Multifiling.Text.Pieces
import Multifiling.Text.UpperCase

/-!
Settings, read from environment variables. Variable names are matched without regard to case; every
variable but the database URL has a default. Lists are written with commas, namespace prefixes as
`prefix=uri` pairs.
-/

namespace Multifiling

structure Settings where
  databaseUrl : String
  poolSize : Int
  maxOverflow : Int
  logLevel : String
  corsOrigins : List String
  namespaces : Entries String String
  associationTypes : List String
  defaultPageSize : Int
  maxPageSize : Int
  deriving DecidableEq, Repr

namespace Settings

open Issue (ofReading)

/-- The value of a variable; of several spellings of its name the last counts. -/
def value? (env : List (String × String)) (name : String) : Option String :=
  (env.reverse.find? fun (key, _) => Text.lowerAscii key = Text.lowerAscii name).map (·.2)

/-- The value of the first of these variables that is set. -/
def firstValue? (env : List (String × String)) (names : List String) : Option String :=
  names.findSome? (value? env)

def logLevels : List String := ["DEBUG", "INFO", "WARNING", "ERROR", "CRITICAL"]

/-- Reads a log level, without regard to case or to blanks around it. -/
def readLogLevel (given : String) : Except Issue String :=
  let level := Text.upper (Text.trim given)
  if logLevels.contains level then .ok level
  else .error ⟨.unknownLogLevel given, [.key "LOG_LEVEL"]⟩

/-- Reads a whole number, at least `least` if that is given. -/
def readInt (name : String) (least : Option Nat) (given : String) : Except Issue Int :=
  match Text.readInteger given with
  | .error e => .error ⟨.ofInteger e, [.key name]⟩
  | .ok n =>
    match least with
    | none => .ok n
    | some bound => if n < bound then .error ⟨.below bound, [.key name]⟩ else .ok n

/-- A setting with a default: what is read if the variable is set. -/
def optional {α : Type} (default : α) (read : String → Except Issue α) :
    Option String → Except Issue α
  | none => .ok default
  | some given => read given

/-- The trimmed sides of a `prefix=uri` pair, if there is a sign and neither side is blank. -/
def readPair? (entry : List Char) : Option (String × String) :=
  match Text.cutAt? '=' entry with
  | none => none
  | some (nsPrefix, uri) =>
    let nsPrefix := Text.trimChars nsPrefix
    let uri := Text.trimChars uri
    if nsPrefix.isEmpty || uri.isEmpty then none
    else some (String.ofList nsPrefix, String.ofList uri)

/-- The namespaces that a text of comma-separated pairs gives; the last pair of a prefix counts. -/
def readNamespaces (given : String) : Entries String String :=
  Entries.putAll [] ((Text.pieces ',' given.toList).filterMap readPair?)

def defaultOrigins : String := "http://localhost:5173"

/-- Reads the settings, or finds every issue in the order of the fields. -/
def ofEnvironment (env : List (String × String)) : Except (List Issue) Settings :=
  let databaseUrl : Except Issue String :=
    match value? env "database_url" with
    | none => .error ⟨.missing, [.key "database_url"]⟩
    | some url => .ok url
  let int (name : String) (least : Option Nat) (default : Int) : Except Issue Int :=
    optional default (readInt name least) (value? env name)
  let poolSize := int "DB_POOL_SIZE" none 5
  let maxOverflow := int "DB_MAX_OVERFLOW" none 10
  let logLevel := optional "INFO" readLogLevel (value? env "LOG_LEVEL")
  let defaultPageSize := int "DEFAULT_PAGE_SIZE" (some 1) 100
  let maxPageSize := int "MAX_PAGE_SIZE" (some 1) 1000
  let origins := firstValue? env ["CORS_ORIGINS", "CORS_ORIGINS_STR"]
  let namespaces := firstValue? env ["NAMESPACES", "NAMESPACES_STR"]
  let types := firstValue? env ["ASSOCIATION_TYPES", "ASSOCIATION_TYPES_STR"]
  match databaseUrl, poolSize, maxOverflow, logLevel, defaultPageSize, maxPageSize with
  | .ok databaseUrl, .ok poolSize, .ok maxOverflow, .ok logLevel, .ok defaultPageSize,
      .ok maxPageSize =>
    .ok {
      databaseUrl, poolSize, maxOverflow, logLevel, defaultPageSize, maxPageSize
      corsOrigins := Text.commaList (origins.getD defaultOrigins)
      namespaces := readNamespaces (namespaces.getD "")
      associationTypes := Text.commaList (types.getD "") }
  | _, _, _, _, _, _ =>
    .error (ofReading databaseUrl ++ ofReading poolSize ++ ofReading maxOverflow ++
      ofReading logLevel ++ ofReading defaultPageSize ++ ofReading maxPageSize)

end Settings

end Multifiling
