import Multifiling.Text.Form

/-!
The encoding of a JSON text. The text itself shows it: its first characters are ASCII, so zero bytes
among the first four tell wider units and their byte order apart from UTF-8. Wider units can form
half of a pair alone.
-/

namespace Multifiling.Json

/-- The unit of an encoding: a byte, or two or four bytes in one of two orders. -/
inductive Encoding where
  | utf8
  | utf16 (bigEndian : Bool)
  | utf32 (bigEndian : Bool)
  deriving DecidableEq, Repr

/-- The code point of a number. -/
def pointOf (n : Nat) : Point :=
  if h : 0xD800 ≤ n ∧ n < 0xE000 then .half ⟨n - 0xD800, by omega⟩ else .char (Char.ofNat n)

/-- The character of two UTF-16 units, if they form a pair. -/
def pairChar? (high low : Nat) : Option Char :=
  if 0xD800 ≤ high ∧ high ≤ 0xDBFF ∧ 0xDC00 ≤ low ∧ low ≤ 0xDFFF then
    some (Char.ofNat (0x10000 + (high - 0xD800) * 0x400 + (low - 0xDC00)))
  else none

namespace Encoding

/-- The encoding of a text of these bytes. -/
def detect (bytes : List UInt8) : Encoding :=
  match bytes with
  | [0, _] => .utf16 true
  | [_, 0] => .utf16 false
  | 0 :: 0 :: _ :: _ :: _ => .utf32 true
  | 0 :: _ :: _ :: _ :: _ => .utf16 true
  | _ :: 0 :: 0 :: 0 :: _ => .utf32 false
  | _ :: 0 :: _ :: _ :: _ => .utf16 false
  | _ => .utf8

/-- The number that bytes form in one of the two orders. -/
def unit (bigEndian : Bool) (bytes : List UInt8) : Nat :=
  (if bigEndian then bytes else bytes.reverse).foldl (fun n b => n * 256 + b.toNat) 0

/-- The two-byte units of a text, if its bytes come out even. -/
def units16? (bigEndian : Bool) : List UInt8 → Option (List Nat)
  | [] => some []
  | a :: b :: rest => (units16? bigEndian rest).map (unit bigEndian [a, b] :: ·)
  | _ => none

/-- The four-byte units of a text, if its bytes come out even. -/
def units32? (bigEndian : Bool) : List UInt8 → Option (List Nat)
  | [] => some []
  | a :: b :: c :: d :: rest =>
    (units32? bigEndian rest).map (unit bigEndian [a, b, c, d] :: ·)
  | _ => none

/-- The text of UTF-16 units. -/
def ofUnits16 : List Nat → SentText
  | [] => []
  | [a] => [pointOf a]
  | a :: b :: rest =>
    match pairChar? a b with
    | some c => .char c :: ofUnits16 rest
    | none => pointOf a :: ofUnits16 (b :: rest)

/-- The text of UTF-32 units, if each is a code point. -/
def ofUnits32? : List Nat → Option SentText
  | [] => some []
  | a :: rest => if a < 0x110000 then (ofUnits32? rest).map (pointOf a :: ·) else none

/-- The text that came as the bytes of `s`, in the encoding that they show. -/
def decode? (s : String) : Option SentText :=
  let bytes := s.toUTF8.toList
  match detect bytes with
  | .utf8 =>
    -- a byte order mark counts only here
    match s.toList with
    | '\uFEFF' :: cs => some (cs.map .char)
    | cs => some (cs.map .char)
  | .utf16 bigEndian => (units16? bigEndian bytes).map ofUnits16
  | .utf32 bigEndian => (units32? bigEndian bytes).bind ofUnits32?

end Encoding

end Multifiling.Json
