/-!
Upper case as far as it ends in ASCII letters: enough to compare a text, without regard to case,
with an ASCII name. Every character that has no ASCII upper case stays as it is.
-/

namespace Multifiling.Text

/-- The ASCII upper case of a character, or the character itself. -/
def upperChar (c : Char) : List Char :=
  if 'a' ≤ c ∧ c ≤ 'z' then [Char.ofNat (c.toNat - 32)]
  else
    match c.toNat with
    | 0xDF => ['S', 'S']
    | 0x131 => ['I']
    | 0x17F => ['S']
    | 0xFB00 => ['F', 'F']
    | 0xFB01 => ['F', 'I']
    | 0xFB02 => ['F', 'L']
    | 0xFB03 => ['F', 'F', 'I']
    | 0xFB04 => ['F', 'F', 'L']
    | 0xFB05 => ['S', 'T']
    | 0xFB06 => ['S', 'T']
    | _ => [c]

/-- The upper case of a text, for comparison with ASCII names. -/
def upper (s : String) : String := String.ofList (s.toList.flatMap upperChar)

/-- The lower case of the ASCII letters of a text; all else stays. -/
def lowerAscii (s : String) : String :=
  String.ofList (s.toList.map fun c => if 'A' ≤ c ∧ c ≤ 'Z' then Char.ofNat (c.toNat + 32) else c)

end Multifiling.Text
