import Multifiling.Issue
import Multifiling.Json
import Multifiling.Json.Double
import Multifiling.Text.UpperCase

/-!
Child links as callers write them: the child's identifier, an association type, and whether the
link is primary. Each field has a spelling with low lines and one in camel case; the first counts
if both are present. They are read from values of any form of texts; only the type keeps that form,
since reading it is left to those who know the types.
-/

namespace Multifiling

/-- A link to a child, in the caller's texts. -/
structure ChildLink (τ : Type := String) where
  childId : String
  assocType : Option τ := none
  isPrimary : Bool := false
  deriving DecidableEq, Repr

namespace ChildLink

variable {τ : Type} [DecidableEq τ] [TextForm τ]
open TextForm
open Issue (ofReading)

/-- The value of a field with the spelling that was found. -/
def field? (fields : List (τ × Json τ)) (plain camel : String) : Option (String × Json τ) :=
  match List.lookup (ofString plain) fields with
  | some v => some (plain, v)
  | none => (List.lookup (ofString camel) fields).map fun v => (camel, v)

/-- The words for true and false, in lower case. -/
def trueWords : List String := ["1", "on", "t", "true", "y", "yes"]

def falseWords : List String := ["0", "off", "f", "false", "n", "no"]

/-- Signed words of 64 bits end below this number. -/
def wordEnd : Int := 0x8000_0000_0000_0000

def fitsWord (n : Int) : Bool := -wordEnd ≤ n && n < wordEnd

/-- The whole number strictly between the ends of such words to which a decimal is rounded. -/
def wholeOfDecimal? (mantissa exponent : Int) : Option Int :=
  match (Double.ofDecimal? mantissa.natAbs exponent).bind Double.whole? with
  | none => none
  | some n => if n < wordEnd then some (mantissa.sign * n) else none

def boolOfWord (n : Int) : Except IssueKind Bool :=
  if n = 0 then .ok false else if n = 1 then .ok true else .error .unreadableBool

/-- Reads a truth value: itself, zero or one, or one of the words without regard to case. -/
def readBool : Json τ → Except IssueKind Bool
  | .bool b => .ok b
  -- of the numbers that fit, only zero and one can be read; the others are no truth values at all
  | .int n => if fitsWord n then boolOfWord n else .error .notBool
  | .decimal mantissa exponent =>
    match wholeOfDecimal? mantissa exponent with
    | some n => boolOfWord n
    | none => .error .notBool
  | .string text =>
    match string? text with
    | none => .error .halfOfPair
    | some s =>
      if trueWords.contains (Text.lowerAscii s) then .ok true
      else if falseWords.contains (Text.lowerAscii s) then .ok false
      else .error .unreadableBool
  | _ => .error .notBool

/-- Reads the child's identifier, a text that is not empty. -/
def readChildId (fields : List (τ × Json τ)) : Except Issue String :=
  match field? fields "child_id" "childId" with
  | none => .error ⟨.missing, [.key "child_id"]⟩
  | some (key, .string text) =>
    match string? text with
    | none => .error ⟨.halfOfPair, [.key key]⟩
    | some s => if s = "" then .error ⟨.emptyString, [.key key]⟩ else .ok s
  | some (key, _) => .error ⟨.notString, [.key key]⟩

def readAssocType (fields : List (τ × Json τ)) : Except Issue (Option τ) :=
  match field? fields "assoc_type" "assocType" with
  | none => .ok none
  | some (_, .null) => .ok none
  | some (_, .string s) => .ok (some s)
  | some (key, _) => .error ⟨.notString, [.key key]⟩

def readIsPrimary (fields : List (τ × Json τ)) : Except Issue Bool :=
  match field? fields "is_primary" "isPrimary" with
  | none => .ok false
  | some (key, value) =>
    match readBool value with
    | .ok b => .ok b
    | .error kind => .error ⟨kind, [.key key]⟩

/-- Reads a link from the fields of an object; unknown fields are passed over. -/
def ofFields (fields : List (τ × Json τ)) : Except (List Issue) (ChildLink τ) :=
  match readChildId fields, readAssocType fields, readIsPrimary fields with
  | .ok childId, .ok assocType, .ok isPrimary => .ok ⟨childId, assocType, isPrimary⟩
  | childId, assocType, isPrimary =>
    .error (ofReading childId ++ ofReading assocType ++ ofReading isPrimary)

/-- Reads a link from a value; `other` is the fault of a value that is no object. -/
def ofJson (other : IssueKind) : Json τ → Except (List Issue) (ChildLink τ)
  | .object fields => ofFields fields
  | _ => .error [⟨other, []⟩]

def toJson (link : ChildLink τ) : Json τ :=
  .object [(ofString "child_id", .string (ofString link.childId)),
    (ofString "assoc_type", .ofTextOption link.assocType),
    (ofString "is_primary", .bool link.isPrimary)]

end ChildLink

/-- What a create request carries: one link, or a list of them. -/
inductive LinkBody (τ : Type := String) where
  | one (link : ChildLink τ)
  | many (links : List (ChildLink τ))
  deriving DecidableEq, Repr

namespace LinkBody

variable {τ : Type} [DecidableEq τ] [TextForm τ]

def links : LinkBody τ → List (ChildLink τ)
  | .one link => [link]
  | .many links => links

/-- Reads the links of a list, each at its position, or all issues found. -/
def readAll (position : Nat) : List (Json τ) → Except (List Issue) (List (ChildLink τ))
  | [] => .ok []
  | value :: rest =>
    match ChildLink.ofJson .notObjectInBody value, readAll (position + 1) rest with
    | .ok link, .ok links => .ok (link :: links)
    | .error issues, .ok _ => .error (issues.map (Issue.under [.index position]))
    | .ok _, .error later => .error later
    | .error issues, .error later =>
      .error (issues.map (Issue.under [.index position]) ++ later)

def readMany : Json τ → Except (List Issue) (List (ChildLink τ))
  | .array values => readAll 0 values
  | _ => .error [⟨.notList, []⟩]

/-- Reads a request's value: as one link, else as a list. -/
def ofJson (value : Json τ) : Except (List Issue) (LinkBody τ) :=
  match ChildLink.ofJson .notObjectInBody value, readMany value with
  | .ok link, _ => .ok (.one link)
  | _, .ok links => .ok (.many links)
  -- the issues of both readings, each under the name of what was tried
  | .error issues, .error later =>
    .error (issues.map (Issue.under [.key "AssocChild"]) ++
      later.map (Issue.under [.key "list[AssocChild]"]))

/-- The answer with the links that were made: all of them, or the first where one was sent. -/
def answer? (body : LinkBody τ) (made : List (ChildLink τ)) : Option (Json τ) :=
  match body with
  | .one _ => made.head?.map ChildLink.toJson
  | .many _ => some (.array (made.map ChildLink.toJson))

end LinkBody

end Multifiling
