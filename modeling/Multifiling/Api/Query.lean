import Multifiling.Issue
import Multifiling.NodeView
import Multifiling.Text.Numeral
import Multifiling.Text.Pieces

/-!
Query parameters of a listing: the clause that names an association type, the parts to include, and
the page.
-/

namespace Multifiling.Api

/-- A query parameter that cannot be understood. -/
inductive QueryError where
  | badWhere (given : String)
  | badInclude (option : String)
  deriving DecidableEq, Repr

namespace QueryError

/-- The words for the parts that can be included, listed. -/
def supported : String := ", ".intercalate (Include.all.map Include.word)

def message : QueryError → String
  | .badWhere given =>
    "Invalid where clause: " ++ given ++ ". Expected (assocType='prefix:local')"
  | .badInclude option => "Invalid include: " ++ option ++ ". Supported: " ++ supported

def status : QueryError → Nat
  | _ => 400

end QueryError

/-- What follows a word in front of a text. -/
def dropWord? : List Char → List Char → Option (List Char)
  | [], cs => some cs
  | w :: word, c :: cs => if w = c then dropWord? word cs else none
  | _ :: _, [] => none

def skipBlanks (cs : List Char) : List Char := cs.dropWhile Text.isBlank

def isQuote (c : Char) : Bool := c = '\'' || c = '"'

/-- The text between quotes in a clause `(assocType='text')`, with blanks between its parts. -/
def clauseValue? (cs : List Char) : Option (List Char) := do
  let cs ← dropWord? ['('] cs
  let cs ← dropWord? "assocType".toList (skipBlanks cs)
  let cs ← dropWord? ['='] (skipBlanks cs)
  match skipBlanks cs with
  | quote :: cs =>
    if isQuote quote then
      let rest ← dropWord? [quote] (cs.dropWhile (!isQuote ·))
      if skipBlanks rest = [')'] then some (cs.takeWhile (!isQuote ·)) else none
    else none
  | [] => none

/-- Reads the clause that names an association type, if one is given. -/
def readWhere (given : Option String) : Except QueryError (Option String) :=
  match given with
  | none => .ok none
  | some text =>
    if Text.isBlankText text then .ok none
    else
      match clauseValue? (Text.trimChars text.toList) with
      | some value => .ok (some (String.ofList value))
      | none => .error (.badWhere text)

/-- Adds the options that words name to those found so far, each once. -/
def addIncludes (found : List Include) : List String → Except QueryError (List Include)
  | [] => .ok found
  | word :: rest =>
    match Include.ofWord? word with
    | none => .error (.badInclude word)
    | some option =>
      addIncludes (if found.contains option then found else found ++ [option]) rest

/-- Reads the comma-separated parts to include; blank parts and repetitions are passed over. -/
def readInclude (given : Option String) : Except QueryError (List Include) :=
  addIncludes [] (Text.commaList (given.getD ""))

/-- The part of a listing that is asked for. -/
structure Page where
  offset : Int
  limit : Option Int
  deriving DecidableEq, Repr

namespace Page

/-- Reads a whole number of a query parameter. -/
def readInt (name : String) (least : Nat) (given : String) : Except Issue Int :=
  match Text.readInteger given with
  | .error e => .error ⟨.ofInteger e, [.key "query", .key name]⟩
  | .ok n => if n < least then .error ⟨.below least, [.key "query", .key name]⟩ else .ok n

/-- Reads offset and limit, or finds the issues of both. -/
def read (offset limit : Option String) : Except (List Issue) Page :=
  let offset : Except Issue Int := match offset with
    | none => .ok 0
    | some given => readInt "offset" 0 given
  let limit : Except Issue (Option Int) := match limit with
    | none => .ok none
    | some given => (readInt "limit" 1 given).map some
  match offset, limit with
  | .ok offset, .ok limit => .ok ⟨offset, limit⟩
  | .error issue, .ok _ => .error [issue]
  | .ok _, .error issue => .error [issue]
  | .error first, .error second => .error [first, second]

/-- The number of items on a page: the limit or its default, at most the maximum. -/
def size (page : Page) (default maximum : Int) : Int := min (page.limit.getD default) maximum

end Page

end Multifiling.Api
