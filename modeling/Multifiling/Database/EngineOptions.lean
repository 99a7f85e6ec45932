import Multifiling.Database.Url

/-!
Options of the connection to a database. Pool sizes go only to server databases; SQLite picks its
own pool.
-/

namespace Multifiling.Database

/-- The sizes of a connection pool. -/
structure Pool where
  size : Int
  maxOverflow : Int
  deriving DecidableEq, Repr

/-- The options of a connection. -/
structure EngineOptions where
  echo : Bool
  prePing : Bool
  pool : Option Pool
  deriving DecidableEq, Repr

/-- The options for a database URL and the configured pool sizes. -/
def EngineOptions.ofUrl (url : String) (pool : Pool) : Except UrlError EngineOptions :=
  (Url.parse url).map fun parsed =>
    { echo := false
      prePing := true
      pool := if parsed.backend = "sqlite" then none else some pool }

end Multifiling.Database
