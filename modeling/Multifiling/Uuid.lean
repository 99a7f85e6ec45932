import Multifiling.Text.Numeral

/-!
Identifiers of users and nodes, written as UUIDs. Printing gives the canonical lower-case text of
five groups of digits; reading accepts many more spellings: URN prefixes and hyphens anywhere,
braces around, upper case, digits of every script, and the spellings of a hexadecimal numeral of
thirty-two characters.
-/

namespace Multifiling

/-- An identifier; those that have a text of their own are below `2 ^ 128`. -/
structure Uuid where
  value : Nat
  deriving DecidableEq, Repr

namespace Uuid

/-- Users are numbered from here, in the order of their inserts. -/
def userBase : Nat := 0x00000001_0000_7000_8000_000000000000

/-- Nodes are numbered from here, in the order of their inserts. -/
def nodeBase : Nat := 0x00000002_0000_7000_8000_000000000000

def ofUser (k : Nat) : Uuid := ⟨userBase + k⟩

def ofNode (k : Nat) : Uuid := ⟨nodeBase + k⟩

/-- The canonical text as characters: groups of 8, 4, 4, 4 and 12 digits. -/
def chars (u : Uuid) : List Char :=
  let digits := Text.hexDigits 32 u.value
  digits.take 8 ++ '-' :: (digits.drop 8).take 4 ++ '-' :: (digits.drop 12).take 4 ++
    '-' :: (digits.drop 16).take 4 ++ '-' :: digits.drop 20

/-- The canonical text: five groups of lower-case digits, joined by hyphens. -/
def text (u : Uuid) : String := String.ofList u.chars

/-- A text without the places, found from the left, where `word` stands; `skip` counts what is left
of the place under way. -/
def removeFrom (word : List Char) : Nat → List Char → List Char
  | _, [] => []
  | skip + 1, _ :: cs => removeFrom word skip cs
  | 0, c :: cs =>
    if word.isPrefixOf (c :: cs) then removeFrom word (word.length - 1) cs
    else c :: removeFrom word 0 cs

def remove (word : String) (cs : List Char) : List Char := removeFrom word.toList 0 cs

/-- A numeral without its base mark: a zero, an `x`, and at most one low line. -/
def dropBaseMark (cs : List Char) : List Char :=
  match cs with
  | z :: x :: rest =>
    if Text.decimalValue? z = some 0 ∧ (x = 'x' ∨ x = 'X') then
      match rest with
      | '_' :: digits => digits
      | digits => digits
    else cs
  | _ => cs

/-- A hexadecimal numeral: white space around, one plus sign, a base mark, grouped digits. -/
def hexNumeral? (cs : List Char) : Option Nat :=
  let unsigned := match Text.strip Text.isSpace cs with
    | '+' :: rest => rest
    | rest => rest
  Text.grouped? 16 Text.hexValue? (dropBaseMark unsigned)

/-- Whether a character is one of the braces that may enclose an identifier. -/
def isBrace (c : Char) : Bool := c = '{' || c = '}'

/-- The characters that carry the number: URN words, enclosing braces and hyphens are removed. -/
def bareChars (s : String) : List Char :=
  let cs := remove "uuid:" (remove "urn:" s.toList)
  (Text.strip isBrace cs).filter (· ≠ '-')

/-- Reads an identifier: what carries the number is a numeral of thirty-two characters. -/
def parse? (s : String) : Option Uuid :=
  let cs := bareChars s
  if cs.length = 32 then (hexNumeral? cs).map Uuid.mk else none

end Uuid

end Multifiling
