import Multifiling.Text.Blank
import Multifiling.Text.Quoted
import Multifiling.Text.Word

/-!
Qualified names: a namespace URI and a local name. The store keeps their full form, the URI in
braces before the local name; callers read and write the prefixed form, a prefix and the local name
around a colon.
-/

namespace Multifiling

/-- Why a text gives no qualified name. -/
inductive QNameFault where
  | malformed
  | blank
  | emptyLocalName
  | unknownPrefix (nsPrefix : String)
  | unregisteredNamespace
  deriving DecidableEq, Repr

def QNameFault.reason : QNameFault → String
  | .malformed => "malformed qualified name"
  | .blank => "qualified name cannot be empty"
  | .emptyLocalName => "local name cannot be empty"
  | .unknownPrefix nsPrefix => "unknown namespace prefix '" ++ nsPrefix ++ "'"
  | .unregisteredNamespace => "no prefix registered for namespace"

/-- A text, or none, that gives no qualified name. -/
structure QNameError where
  fault : QNameFault
  value : Option String
  deriving DecidableEq, Repr

/-- The fault, then the text in quotes. -/
def QNameError.message (e : QNameError) : String :=
  e.fault.reason ++ ": " ++ Text.quotedOption e.value

/-- A qualified name; its local name is not empty. -/
@[ext] structure QName where
  namespaceUri : String
  localName : String
  localName_ne : localName ≠ ""
  deriving DecidableEq

namespace QName

/-- The qualified name of two texts, unless the second is empty. -/
def make (namespaceUri localName : String) : Except QNameError QName :=
  if h : localName = "" then .error ⟨.emptyLocalName, some localName⟩
  else .ok ⟨namespaceUri, localName, h⟩

/-- The full form: the URI in braces, then the local name. -/
def fullForm (q : QName) : String := "\x7b" ++ q.namespaceUri ++ "\x7d" ++ q.localName

/-- Whether a character is no brace. -/
def isPlain (c : Char) : Bool := c ≠ '{' && c ≠ '}'

/-- The URI and the local name of a full form: both without braces, the local name not empty. -/
def splitFullForm? : List Char → Option (List Char × List Char)
  | '{' :: cs =>
    match cs.dropWhile isPlain with
    | '}' :: localChars =>
      if !localChars.isEmpty && localChars.all isPlain then some (cs.takeWhile isPlain, localChars)
      else none
    | _ => none
  | _ => none

def ofFullForm (value : Option String) : Except QNameError QName :=
  match splitFullForm? (value.getD "").toList with
  | some (uri, localChars) => make (String.ofList uri) (String.ofList localChars)
  | none => .error ⟨.malformed, value⟩

end QName

/-- A name in prefixed form, with its two parts apart. -/
structure PrefixedName where
  nsPrefix : String
  localName : String
  deriving DecidableEq, Repr

namespace PrefixedName

/-- Whether a character may begin a prefix: an ASCII letter or the low line. -/
def startsPrefix (c : Char) : Bool := c.isAlpha || c = '_'

/-- Whether a character may go on in a prefix. -/
def continuesPrefix (c : Char) : Bool := Text.isWord c || c = '.' || c = '-'

/-- Whether a character may stand in the local name of a prefixed form. -/
def isLocal (c : Char) : Bool := c ≠ ':' && c ≠ '{' && c ≠ '}'

/-- Whether the characters are a local name of a prefixed form: not empty, no blank in front. -/
def isLocalName : List Char → Bool
  | [] => false
  | c :: cs => !Text.isBlank c && (c :: cs).all isLocal

/-- The prefix and the local name of a prefixed form. -/
def splitChars? : List Char → Option (List Char × List Char)
  | [] => none
  | c :: cs =>
    if startsPrefix c then
      match cs.dropWhile continuesPrefix with
      | ':' :: localChars =>
        if isLocalName localChars then some (c :: cs.takeWhile continuesPrefix, localChars)
        else none
      | _ => none
    else none

/-- Reads the prefixed form, with blanks around it. -/
def parse (value : Option String) : Except QNameError PrefixedName :=
  match value with
  | none => .error ⟨.blank, none⟩
  | some s =>
    if Text.isBlankText s then .error ⟨.blank, some s⟩
    else
      match splitChars? (Text.trimChars s.toList) with
      | some (nsPrefix, localChars) => .ok ⟨String.ofList nsPrefix, String.ofList localChars⟩
      | none => .error ⟨.malformed, some s⟩

end PrefixedName

/-- Local names taken from node names have at most so many characters. -/
def maxLocalNameLength : Nat := 100

/-- The local name for a node of this name: its first characters as they are. -/
def localNameFor (name : Option String) : Except QNameError String :=
  match name with
  | none => .error ⟨.emptyLocalName, none⟩
  | some s =>
    if s = "" then .error ⟨.emptyLocalName, some s⟩
    else .ok (String.ofList (s.toList.take maxLocalNameLength))

end Multifiling
