import Multifiling.Json
import Multifiling.Json.Double
import Multifiling.Json.Encoding
import Multifiling.Text.Numeral

/-!
Reads JSON texts. Beside the standard, the words `NaN`, `Infinity` and `-Infinity` are numbers, the
last of two fields of one name counts, and the text may come in several encodings. Every function
takes what is left of the text and returns what is left after it. Numerals and nested values that
are too large end the reading where they stand. The texts in a value are read in a form that is
given with `text?`; one that has none is malformed.
-/

namespace Multifiling.Json

/-- Why a text gives no value. -/
inductive ReadError where
  | malformed
  /-- The bytes are no text in the encoding that they show. -/
  | undecodable
  /-- A numeral is too long, or values are nested too deep. -/
  | tooLarge
  deriving DecidableEq, Repr

/-- A reading that fails as malformed if there is nothing. -/
def expect {α : Type} : Option α → Except ReadError α
  | some a => .ok a
  | none => .error .malformed

/-- Arrays and objects are nested at most so deep. -/
def maxDepth : Nat := 950

/-- The characters that may stand between two tokens. -/
def isGap (c : Char) : Bool := c = ' ' || c = '\t' || c = '\n' || c = '\r'

/-- The characters in front of a text that have a property, and what follows them. -/
def span (p : Char → Bool) : SentText → List Char × SentText
  | .char c :: rest =>
    if p c then
      let (cs, rest) := span p rest
      (c :: cs, rest)
    else ([], .char c :: rest)
  | rest => ([], rest)

/-- A text without the gap in front. -/
def skipGap (text : SentText) : SentText := (span isGap text).2

/-- The value of an ASCII hexadecimal digit. -/
def asciiHex? : Point → Option Nat
  | .char c => if c.toNat < 0x80 then Text.hexValue? c else none
  | .half _ => none

/-- The number written by four hexadecimal digits. -/
def fourHex? (a b c d : Point) : Option Nat := do
  let a ← asciiHex? a
  let b ← asciiHex? b
  let c ← asciiHex? c
  let d ← asciiHex? d
  return ((a * 16 + b) * 16 + c) * 16 + d

/-- The character that a letter after a backslash stands for. -/
def escapeChar? : Char → Option Char
  | '"' => some '"'
  | '\\' => some '\\'
  | '/' => some '/'
  | 'b' => some '\x08'
  | 'f' => some '\x0c'
  | 'n' => some '\n'
  | 'r' => some '\r'
  | 't' => some '\t'
  | _ => none

/-- The first unit escape of a text, `\u` and four digits, with what follows it. -/
def unitEscape? : SentText → Option (Nat × SentText)
  | .char '\\' :: .char 'u' :: a :: b :: c :: d :: rest =>
    (fourHex? a b c d).map fun n => (n, rest)
  | _ => none

/-- Whether a code point has to be escaped in a string. -/
def isControl : Point → Bool
  | .char c => c.toNat < 0x20
  | .half _ => false

/-- Reads a string after its opening quote, with `acc` its code points so far in reverse. -/
def readString (acc : SentText) : Nat → SentText → Except ReadError (SentText × SentText)
  -- the fuel is the number of code points that may still be read
  | 0, _ => .error .malformed
  | fuel + 1, text =>
    match text with
    | [] => .error .malformed
    | .char '"' :: rest => .ok (acc.reverse, rest)
    | .char '\\' :: .char c :: rest =>
      if c = 'u' then do
        let (n, rest) ← expect (unitEscape? text)
        match (unitEscape? rest).bind fun (m, rest') => (pairChar? n m).map (·, rest') with
        | some (pair, rest') => readString (.char pair :: acc) fuel rest'
        | none => readString (pointOf n :: acc) fuel rest
      else do
        let escaped ← expect (escapeChar? c)
        readString (.char escaped :: acc) fuel rest
    | .char '\\' :: _ => .error .malformed
    | point :: rest =>
      if isControl point then .error .malformed else readString (point :: acc) fuel rest

def digitsValue (cs : List Char) : Nat :=
  cs.foldl (fun n c => n * 10 + (c.toNat - '0'.toNat)) 0

/-- The fraction in front of a text: a point and at least one digit. -/
def fraction? : SentText → Option (List Char × SentText)
  | .char '.' :: rest =>
    let (digits, rest) := span Char.isDigit rest
    if digits.isEmpty then none else some (digits, rest)
  | _ => none

/-- The exponent in front of a text: the letter, an optional sign, at least one digit. -/
def exponent? : SentText → Option (Int × SentText)
  | .char e :: rest =>
    if e = 'e' ∨ e = 'E' then
      let (negative, rest) := match rest with
        | .char '-' :: rest => (true, rest)
        | .char '+' :: rest => (false, rest)
        | rest => (false, rest)
      let (digits, rest) := span Char.isDigit rest
      if digits.isEmpty then none
      else
        let n : Int := digitsValue digits
        some (if negative then -n else n, rest)
    else none
  | _ => none

section
variable {τ : Type}

/-- A number with a fraction or an exponent; one beyond all doubles is not finite. -/
def ofDecimal (mantissa exponent : Int) : Json τ :=
  if (Double.ofDecimal? mantissa.natAbs exponent).isSome then .decimal mantissa exponent
  else .notFinite

/-- Reads a number after its sign. -/
def readNumber (negative : Bool) (text : SentText) : Except ReadError (Json τ × SentText) :=
  let (whole, rest) := span Char.isDigit text
  let (whole, rest) := match whole with
    -- behind a zero the number has no more digits
    | '0' :: more => (['0'], more.map Point.char ++ rest)
    | _ => (whole, rest)
  if whole.isEmpty then .error .malformed
  else
    let sign : Int := if negative then -1 else 1
    match fraction? rest, exponent? rest with
    | some (digits, rest), _ =>
      let mantissa := sign * digitsValue (whole ++ digits)
      match exponent? rest with
      | some (e, rest) => .ok (ofDecimal mantissa (e - digits.length), rest)
      | none => .ok (ofDecimal mantissa (-digits.length), rest)
    | none, some (e, rest) => .ok (ofDecimal (sign * digitsValue whole) e, rest)
    | none, none =>
      if Text.maxDigits < whole.length then .error .tooLarge
      else .ok (.int (sign * digitsValue whole), rest)

/-- The words that are values. -/
def words : List (String × Json τ) :=
  [("null", .null), ("true", .bool true), ("false", .bool false), ("NaN", .notFinite),
   ("Infinity", .notFinite), ("-Infinity", .notFinite)]

/-- The word in front of a text, as a value. -/
def readWord? (text : SentText) : Option (Json τ × SentText) :=
  words.findSome? fun (word, value) =>
    if (word.toList.map Point.char).isPrefixOf text then some (value, text.drop word.length)
    else none

variable [DecidableEq τ] (text? : SentText → Option τ)

mutual

/-- Reads a value that begins at once; `depth` is how deep values may yet be nested. -/
def readValue : Nat → Nat → SentText → Except ReadError (Json τ × SentText)
  | 0, _, _ => .error .malformed
  | fuel + 1, depth, text =>
    match readWord? text with
    | some read => .ok read
    | none =>
      match text with
      | .char '"' :: rest => do
        let (s, rest) ← readString [] (rest.length + 1) rest
        return (.string (← expect (text? s)), rest)
      | .char '[' :: rest =>
        match depth with
        | 0 => .error .tooLarge
        | depth + 1 =>
          match skipGap rest with
          | .char ']' :: rest => .ok (.array [], rest)
          | rest => readElements fuel depth [] rest
      | .char '{' :: rest =>
        match depth with
        | 0 => .error .tooLarge
        | depth + 1 =>
          match skipGap rest with
          | .char '}' :: rest => .ok (.object [], rest)
          | rest => readFields fuel depth [] rest
      | .char '-' :: rest => readNumber true rest
      | rest => readNumber false rest

/-- Reads the elements of an array up to its end, with `acc` those so far in reverse. -/
def readElements : Nat → Nat → List (Json τ) → SentText → Except ReadError (Json τ × SentText)
  | 0, _, _, _ => .error .malformed
  | fuel + 1, depth, acc, text => do
    let (value, rest) ← readValue fuel depth text
    match skipGap rest with
    | .char ',' :: rest => readElements fuel depth (value :: acc) (skipGap rest)
    | .char ']' :: rest => .ok (.array (value :: acc).reverse, rest)
    | _ => .error .malformed

/-- Reads the fields of an object up to its end. -/
def readFields :
    Nat → Nat → Entries τ (Json τ) → SentText → Except ReadError (Json τ × SentText)
  | 0, _, _, _ => .error .malformed
  | fuel + 1, depth, acc, text =>
    match text with
    | .char '"' :: rest => do
      let (s, rest) ← readString [] (rest.length + 1) rest
      let name ← expect (text? s)
      match skipGap rest with
      | .char ':' :: rest => do
        let (value, rest) ← readValue fuel depth (skipGap rest)
        match skipGap rest with
        | .char ',' :: rest => readFields fuel depth (acc.put name value) (skipGap rest)
        | .char '}' :: rest => .ok (.object (acc.put name value), rest)
        | _ => .error .malformed
      | _ => .error .malformed
    | _ => .error .malformed

end

def parseText (text : SentText) : Except ReadError (Json τ) := do
  let text := skipGap text
  let (value, rest) ← readValue text? (text.length + 1) maxDepth text
  if (skipGap rest).isEmpty then return value else throw .malformed

/-- Reads a whole text as one value. -/
def parseAs (s : String) : Except ReadError (Json τ) :=
  match Encoding.decode? s with
  | none => .error .undecodable
  | some text => parseText text? text

end

/-- Reads a text as a value whose texts are strings. -/
def parse (s : String) : Except ReadError Json := parseAs SentText.string? s

/-- Reads a text that was sent. -/
def parseSent (s : String) : Except ReadError SentJson := parseAs some s

end Multifiling.Json
