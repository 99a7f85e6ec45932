import Multifiling.Text.Blank
import Multifiling.Text.Digit

/-!
Numerals whose digits may be grouped by single low lines, as in `1_000`.
-/

namespace Multifiling.Text

/-- Reads on from `acc`; `need` says that a digit has to come next. -/
def groupedFrom? (base : Nat) (digit? : Char → Option Nat) (acc : Nat) (need : Bool) :
    List Char → Option Nat
  | [] => if need then none else some acc
  | c :: cs =>
    if c = '_' then
      if need then none else groupedFrom? base digit? acc true cs
    else
      match digit? c with
      | none => none
      | some d => groupedFrom? base digit? (acc * base + d) false cs

/-- The value of a nonempty row of digits with single low lines between digits. -/
def grouped? (base : Nat) (digit? : Char → Option Nat) (cs : List Char) : Option Nat :=
  groupedFrom? base digit? 0 true cs

/-- Decimal numerals are read up to so many digits. -/
def maxDigits : Nat := 4300

/-- An integer in digits of any script: white space around, one sign, grouped digits. -/
def integer? (cs : List Char) : Option Int :=
  let cs := strip isSpace cs
  let unsigned := match cs with
    | '+' :: rest | '-' :: rest => rest
    | rest => rest
  if maxDigits < (unsigned.filter (· ≠ '_')).length then none
  else
    (grouped? 10 decimalValue? unsigned).map fun n => if cs.head? = some '-' then -(n : Int) else n

/-- The digits before a point that only zeros follow; without a point, all characters. -/
def dropZeroFraction (cs : List Char) : List Char :=
  let whole := cs.takeWhile (· ≠ '.')
  match cs.dropWhile (· ≠ '.') with
  | '.' :: '0' :: zeros => if zeros.all (· = '0') then whole else cs
  | _ => cs

/-- The low lines taken out, if each stands alone between two other characters. -/
def dropSingleLows (cs : List Char) : List Char :=
  if cs.head? = some '_' || cs.getLast? = some '_' || (cs.zip cs.tail).contains ('_', '_') then cs
  else cs.filter (· ≠ '_')

/-- Whether a character is an ASCII digit other than zero. -/
def isNonzeroDigit (c : Char) : Bool := c.isDigit && c ≠ '0'

/-- The part of a numeral that counts, after a zero or low line `last` in front of it: zeros and low
lines are passed over up to a digit or a minus sign, but the last of them stays where nothing or a
point follows. -/
def afterZeros? (last : Char) : List Char → Option (List Char)
  | [] => some [last]
  | c :: cs =>
    if c = '0' || c = '_' then afterZeros? c cs
    else if c = '.' then some (last :: c :: cs)
    else if isNonzeroDigit c || c = '-' then some (c :: cs)
    else none

/-- A numeral without the zeros in front, if it begins with a digit. -/
def dropLeadingZeros? : List Char → Option (List Char)
  | [] => none
  | c :: cs =>
    if c = '0' then afterZeros? c cs else if isNonzeroDigit c then some (c :: cs) else none

/-- Why a text is not read as an integer. -/
inductive IntegerError where
  | unreadable
  | tooLong
  deriving DecidableEq, Repr

/-- Reads a plain natural number: a zero, or a row of digits that does not begin with one. -/
def plainNatural (cs : List Char) : Except IntegerError Nat :=
  let digits := cs.takeWhile (·.isDigit)
  if cs = ['0'] then .ok 0
  else if !(digits.head?.any isNonzeroDigit) then .error .unreadable
  -- whatever follows a row that is too long
  else if maxDigits < digits.length then .error .tooLong
  else if digits.length < cs.length then .error .unreadable
  else .ok (Nat.ofDigitChars 10 digits 0)

/-- Reads a plain integer: a plain natural number, or one behind a minus sign. -/
def plainInteger : List Char → Except IntegerError Int
  | '-' :: cs => (plainNatural cs).map fun n => -(n : Int)
  | cs => (plainNatural cs).map fun n => (n : Int)

/-- A numeral behind its sign, written plainly: without the zeros in front, a zero fraction and
single low lines. Behind the zeros a minus sign may stand. -/
def tidyNatural? (cs : List Char) : Option (List Char) :=
  (dropLeadingZeros? cs).map fun cs => dropSingleLows (dropZeroFraction cs)

/-- A numeral written plainly: white space around it and a plus sign are dropped too. -/
def tidyInteger? (cs : List Char) : Option (List Char) :=
  match strip isSpace cs with
  | '-' :: cs => (tidyNatural? cs).map ('-' :: ·)
  | '+' :: cs => tidyNatural? cs
  | cs => tidyNatural? cs

/-- Reads an integer in ASCII digits: white space around, a sign, zeros and low lines in front,
digits with single low lines between them, a zero fraction. -/
def readInteger (s : String) : Except IntegerError Int :=
  match plainInteger s.toList with
  | .error .unreadable =>
    -- written plainly it is read once more, and then a row of digits that is too long is unreadable
    match (tidyInteger? s.toList).map plainInteger with
    | some (.ok n) => .ok n
    | _ => .error .unreadable
  | read => read

end Multifiling.Text
