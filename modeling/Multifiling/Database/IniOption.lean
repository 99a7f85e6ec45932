import Multifiling.Entries
import Multifiling.Text.UpperCase

/-!
Options of an ini section whose values may refer to each other: `%(name)s` stands for the value of
another option, and `%%` for a percent sign. A value is checked when it is set and expanded when it
is read.
-/

namespace Multifiling.Database.IniOption

/-- Why an option cannot be set or read. -/
inductive IniError where
  /-- The value to be set has a percent sign that means nothing. -/
  | badPercent
  /-- The value read has a percent sign that means nothing. -/
  | badReference
  /-- The value read refers to an option that is not there. -/
  | missingOption (name : String)
  /-- References are nested too deep. -/
  | tooDeep
  deriving DecidableEq, Repr

/-- A reference in front of a text, `%(name)s`, with what follows it. -/
def reference? : List Char → Option (List Char × List Char)
  | '%' :: '(' :: cs =>
    let name := cs.takeWhile (· ≠ ')')
    match cs.dropWhile (· ≠ ')') with
    | ')' :: 's' :: rest => if name.isEmpty then none else some (name, rest)
    | _ => none
  | _ => none

/-- A text without its doubled percent signs. -/
def dropDoubled : List Char → List Char
  | '%' :: '%' :: cs => dropDoubled cs
  | c :: cs => c :: dropDoubled cs
  | [] => []

/-- Whether every percent sign of a text begins a reference; `skip` characters belong to one. -/
def onlyReferences (skip : Nat) : List Char → Bool
  | [] => true
  | c :: cs =>
    match skip with
    | skip + 1 => onlyReferences skip cs
    | 0 =>
      if c = '%' then
        match reference? (c :: cs) with
        | some (name, _) => onlyReferences (name.length + 3) cs
        | none => false
      else onlyReferences 0 cs

/-- Checks a value that is to be set. -/
def check (value : String) : Except IniError Unit :=
  if onlyReferences 0 (dropDoubled value.toList) then .ok () else .error .badPercent

/-- A text with its references replaced by what `value?` gives for their names; `skip` characters
belong to the reference just replaced. -/
def expandWith (value? : String → Except IniError (List Char)) (skip : Nat) :
    List Char → Except IniError (List Char)
  | [] => .ok []
  | c :: cs =>
    match skip with
    | skip + 1 => expandWith value? skip cs
    | 0 =>
      if c ≠ '%' then (expandWith value? 0 cs).map (c :: ·)
      else if cs.head? = some '%' then (expandWith value? 1 cs).map ('%' :: ·)
      else
        match reference? (c :: cs) with
        | none => .error .badReference
        | some (name, _) => do
          let before ← value? (Text.lowerAscii (String.ofList name))
          let after ← expandWith value? (name.length + 3) cs
          return before ++ after

/-- Expands a text, down to so many levels of values that have percent signs themselves. -/
def expand (options : Entries String String) : Nat → List Char → Except IniError (List Char)
  | 0, _ => .error .tooDeep
  | depth + 1, cs =>
    expandWith (fun name =>
      match options.get? name with
      | none => .error (.missingOption name)
      | some value =>
        if value.toList.contains '%' then expand options depth value.toList else .ok value.toList)
      0 cs

/-- Values may be nested so deep. -/
def maxDepth : Nat := 10

/-- Sets an option and reads it back. -/
def setAndGet (options : Entries String String) (name value : String) : Except IniError String := do
  check value
  let chars ← expand (options.put name value) maxDepth value.toList
  return String.ofList chars

end Multifiling.Database.IniOption
