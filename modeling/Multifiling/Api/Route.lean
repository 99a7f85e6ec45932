import Multifiling.Text.Pieces
import Multifiling.Text.UpperCase

/-!
Routes of the API: which resource a path names, and which methods it answers.
-/

namespace Multifiling.Api

/-- The methods that are told apart. No resource answers `head`; a refusal of it has no body. -/
inductive Method where
  | get
  | head
  | post
  | delete
  deriving DecidableEq, Repr

/-- The method of a word, without regard to case. -/
def Method.ofWord? (word : String) : Option Method :=
  match Text.upper word with
  | "GET" => some .get
  | "HEAD" => some .head
  | "POST" => some .post
  | "DELETE" => some .delete
  | _ => none

/-- Segments of a path behind those `before` them, which are in reverse: one dot stands for nothing,
two dots take back the segment before. -/
def resolveDotsAfter (before : List String) : List String → List String
  | [] => before.reverse
  | "." :: rest => resolveDotsAfter before rest
  | ".." :: rest => resolveDotsAfter before.tail rest
  | segment :: rest => resolveDotsAfter (segment :: before) rest

/-- The path of segments, after its leading slash; segments of dots are resolved. -/
def pathOfSegments (segments : List String) : String :=
  "/".intercalate (resolveDotsAfter [] segments)

/-- The resource that a path names. -/
inductive Route where
  | health
  | children (parent : String)
  | child (parent child : String)
  /-- A resource with slashes behind its path; callers are sent to the path without them. -/
  | slashed
  | unknown
  deriving DecidableEq, Repr

namespace Route

/-- Whether a text is a word, or the word and a line feed. -/
def endsAs (word : String) (cs : List Char) : Bool :=
  cs = word.toList || cs = word.toList ++ ['\n']

/-- The route of a path's segments, those after its leading slash. -/
def ofSegments : List (List Char) → Route
  | [last] => if endsAs "health" last then .health else .unknown
  | [first, parent, last] =>
    if first = "nodes".toList && !parent.isEmpty && endsAs "secondary-children" last then
      .children (String.ofList parent)
    else .unknown
  | [first, parent, third, last] =>
    if first = "nodes".toList && !parent.isEmpty && third = "secondary-children".toList &&
        !last.isEmpty then
      .child (String.ofList parent) (String.ofList last)
    else .unknown
  | _ => .unknown

/-- The route of the path after its leading slash. -/
def ofPath (path : String) : Route :=
  match ofSegments (Text.pieces '/' path.toList) with
  | .unknown =>
    let bare := Text.dropEndWhile (· = '/') path.toList
    if bare ≠ path.toList ∧ ofSegments (Text.pieces '/' bare) ≠ .unknown then .slashed else .unknown
  | route => route

end Route

end Multifiling.Api
