import Multifiling.Text.Numeral
import Multifiling.Text.Word

/-!
Database URLs: a backend and an optional driver, user and password, host, port, database and query.
Only the name in front and the port are looked at here; the port has to be a number.
-/

namespace Multifiling.Database

/-- Why a text is no database URL. -/
inductive UrlError where
  | malformed
  | badPort
  deriving DecidableEq, Repr

/-- The parts of a database URL that decide how it is used. -/
structure Url where
  backend : String
  driver : Option String
  deriving DecidableEq, Repr

namespace Url

/-- Whether a character may stand in the name in front of a URL. -/
def isName (c : Char) : Bool := Text.isWord c || c = '+'

/-- The name in front of `://`, and what follows. -/
def splitName? (cs : List Char) : Option (List Char × List Char) :=
  let name := cs.takeWhile isName
  match cs.dropWhile isName with
  | ':' :: '/' :: '/' :: rest => if name.isEmpty then none else some (name, rest)
  | _ => none

/-- What follows the last `@` of a text, or the whole text without one. -/
def afterLastAt (cs : List Char) : List Char :=
  (cs.reverse.takeWhile (· ≠ '@')).reverse

/-- What follows the user and the password. -/
def dropUser (cs : List Char) : List Char :=
  let user := cs.takeWhile fun c => c ≠ ':' && c ≠ '/'
  let rest := cs.drop user.length
  -- a user alone reaches to the last `@` before a colon or a slash
  let userOnly := if user.contains '@' then afterLastAt user ++ rest else cs
  match rest with
  -- a password reaches to the first `@` after the colon
  | ':' :: afterColon =>
    match afterColon.dropWhile (· ≠ '@') with
    | '@' :: host => host
    | _ => userOnly
  | _ => userOnly

/-- Whether a character may stand in a plain host. -/
def isHost (c : Char) : Bool := c ≠ '/' && c ≠ ':' && c ≠ '?'

/-- What follows the host: one in brackets, else a plain one. -/
def dropHost (cs : List Char) : List Char :=
  let plain := cs.dropWhile isHost
  match cs with
  | '[' :: rest =>
    let inside := rest.takeWhile fun c => c ≠ '/' && c ≠ '?'
    let address := (inside.reverse.dropWhile (· ≠ ']')).reverse
    if 2 ≤ address.length then rest.drop address.length else plain
  | _ => plain

/-- The text of the port, if there is a colon for one. -/
def portText? (afterName : List Char) : Option (List Char) :=
  match dropHost (dropUser afterName) with
  | ':' :: rest => some (rest.takeWhile fun c => c ≠ '/' && c ≠ '?')
  | _ => none

def parse (s : String) : Except UrlError Url :=
  match splitName? s.toList with
  | none => .error .malformed
  | some (name, rest) =>
    if (portText? rest).any fun port => (Text.integer? port).isNone then .error .badPort
    else
      let backend := name.takeWhile (· ≠ '+')
      let driver := match name.dropWhile (· ≠ '+') with
        | '+' :: driver => some (String.ofList driver)
        | _ => none
      .ok ⟨String.ofList backend, driver⟩

end Url

end Multifiling.Database
