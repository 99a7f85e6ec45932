import Multifiling.Text.Digit
import Multifiling.Text.Printable

/-!
Quoted texts, as error messages show them: in single quotes, or in double quotes if the text holds
a single quote and no double one. The backslash, the quote in use and everything unprintable is
escaped.
-/

namespace Multifiling.Text

/-- The quote that a text is shown in. -/
def quoteFor (cs : List Char) : Char :=
  if cs.contains '\'' && !cs.contains '"' then '"' else '\''

/-- One character between quotes. -/
def quotedChar (quote c : Char) : List Char :=
  if c = quote ∨ c = '\\' then ['\\', c]
  else if c = '\t' then ['\\', 't']
  else if c = '\n' then ['\\', 'n']
  else if c = '\r' then ['\\', 'r']
  else if isPrintable c then [c]
  else if c.toNat < 0x100 then '\\' :: 'x' :: hexDigits 2 c.toNat
  else if c.toNat < 0x10000 then '\\' :: 'u' :: hexDigits 4 c.toNat
  else '\\' :: 'U' :: hexDigits 8 c.toNat

def quoted (s : String) : String :=
  let quote := quoteFor s.toList
  String.ofList (quote :: s.toList.flatMap (quotedChar quote) ++ [quote])

/-- A text in quotes; an absent one is shown as a bare word. -/
def quotedOption : Option String → String
  | none => "None"
  | some s => quoted s

end Multifiling.Text
