import Multifiling.Entries
import Multifiling.Text.Form

/-!
JSON values. Integers have any size; other finite numbers are kept as a mantissa and a power of
ten. The fields of an object have distinct names and keep their order. Values that were sent hold
texts as they are sent; all others hold strings.
-/

namespace Multifiling

/-- A JSON value, or a number that has no JSON text. -/
inductive Json (τ : Type := String) where
  | null
  | bool (value : Bool)
  | int (value : Int)
  | decimal (mantissa exponent : Int)
  | notFinite
  | string (value : τ)
  | array (values : List (Json τ))
  | object (fields : List (τ × Json τ))
  deriving Repr, Inhabited

/-- A JSON value as it is sent. -/
abbrev SentJson := Json SentText

namespace Json

variable {τ : Type}

def ofTextOption : Option τ → Json τ
  | none => .null
  | some s => .string s

variable [TextForm τ]
open TextForm

mutual

/-- The value as it can be written, if all its numbers and texts have a JSON text. -/
def written? : Json τ → Option Json
  | .null => some .null
  | .bool b => some (.bool b)
  | .int n => some (.int n)
  | .decimal mantissa exponent => some (.decimal mantissa exponent)
  | .notFinite => none
  | .string text => (string? text).map .string
  | .array values => (writtenAll? values).map .array
  | .object fields => (writtenFields? fields).map .object

def writtenAll? : List (Json τ) → Option (List Json)
  | [] => some []
  | v :: rest => do
    let v ← written? v
    let rest ← writtenAll? rest
    return v :: rest

def writtenFields? : List (τ × Json τ) → Option (List (String × Json))
  | [] => some []
  | (name, v) :: rest => do
    let name ← string? name
    let v ← written? v
    let rest ← writtenFields? rest
    return (name, v) :: rest

end

mutual

/-- The value that was sent, if it is written so. -/
def sent : Json → Json τ
  | .null => .null
  | .bool b => .bool b
  | .int n => .int n
  | .decimal mantissa exponent => .decimal mantissa exponent
  | .notFinite => .notFinite
  | .string text => .string (ofString text)
  | .array values => .array (sentAll values)
  | .object fields => .object (sentFields fields)

def sentAll : List Json → List (Json τ)
  | [] => []
  | v :: rest => sent v :: sentAll rest

def sentFields : List (String × Json) → List (τ × Json τ)
  | [] => []
  | (name, v) :: rest => (ofString name, sent v) :: sentFields rest

end

end Json

end Multifiling
