import Multifiling.Text.Numeral

/-!
What is wrong with an input, and where: the faults that validating settings, request bodies and
query parameters can find, with the code and the wording of each.
-/

namespace Multifiling

/-- One part of the way to a place in an input. -/
inductive PathPart where
  | key (name : String)
  | index (position : Nat)
  deriving DecidableEq, Repr

/-- A way an input can be wrong. -/
inductive IssueKind where
  | missing
  | notString
  | halfOfPair
  | emptyString
  | notBool
  | unreadableBool
  | unreadableInt
  | tooLongInt
  | below (bound : Nat)
  | unknownLogLevel (given : String)
  | notObject
  | notObjectInBody
  | notList
  | notJson
  deriving DecidableEq, Repr

/-- The code of a fault, as programs read it. -/
def IssueKind.code : IssueKind → String
  | .missing => "missing"
  | .notString => "string_type"
  | .halfOfPair => "string_unicode"
  | .emptyString => "string_too_short"
  | .notBool => "bool_type"
  | .unreadableBool => "bool_parsing"
  | .unreadableInt => "int_parsing"
  | .tooLongInt => "int_parsing_size"
  | .below _ => "greater_than_equal"
  | .unknownLogLevel _ => "value_error"
  | .notObject => "model_type"
  | .notObjectInBody => "model_attributes_type"
  | .notList => "list_type"
  | .notJson => "json_invalid"

def IssueKind.message : IssueKind → String
  | .missing => "Field required"
  | .notString => "Input should be a valid string"
  | .halfOfPair =>
    "Input should be a valid string, unable to parse raw data as a unicode string"
  | .emptyString => "String should have at least 1 character"
  | .notBool => "Input should be a valid boolean"
  | .unreadableBool => "Input should be a valid boolean, unable to interpret input"
  | .unreadableInt =>
    "Input should be a valid integer, unable to parse string as an integer"
  | .tooLongInt => "Unable to parse input string as an integer, exceeded maximum size"
  | .below bound => "Input should be greater than or equal to " ++ toString bound
  | .unknownLogLevel given => "Value error, Invalid log level: " ++ given
  | .notObject => "Input should be a valid dictionary or instance of AssocChild"
  | .notObjectInBody => "Input should be a valid dictionary or object to extract fields from"
  | .notList => "Input should be a valid list"
  | .notJson => "JSON decode error"

/-- A fault at a place. -/
structure Issue where
  kind : IssueKind
  place : List PathPart
  deriving DecidableEq, Repr

/-- The fault of a text that is not read as an integer. -/
def IssueKind.ofInteger : Text.IntegerError → IssueKind
  | .unreadable => .unreadableInt
  | .tooLong => .tooLongInt

/-- The issue of a reading that failed, none of one that did not. -/
def Issue.ofReading {α : Type} : Except Issue α → List Issue
  | .ok _ => []
  | .error issue => [issue]

/-- The same fault at a place below `parts`. -/
def Issue.under (parts : List PathPart) (issue : Issue) : Issue :=
  { issue with place := parts ++ issue.place }

end Multifiling
