import Multifiling.Text.Blank

/-!
Texts cut at a separator character: into all pieces, or in two at the first place; and words that
occur in a text.
-/

namespace Multifiling.Text

/-- The pieces between the separators; a text without one is a single piece. -/
def pieces (sep : Char) : List Char → List (List Char)
  | [] => [[]]
  | c :: cs =>
    if c = sep then [] :: pieces sep cs
    else
      match pieces sep cs with
      | [] => [[c]]
      | piece :: rest => (c :: piece) :: rest

/-- The parts before and after the first separator, if there is one. -/
def cutAt? (sep : Char) : List Char → Option (List Char × List Char)
  | [] => none
  | c :: cs =>
    if c = sep then some ([], cs)
    else (cutAt? sep cs).map fun (before, after) => (c :: before, after)

/-- Whether a word occurs in a text. -/
def occurs (word : List Char) : List Char → Bool
  | [] => word.isEmpty
  | c :: cs => word.isPrefixOf (c :: cs) || occurs word cs

/-- The trimmed pieces of a comma-separated text, without the blank ones. -/
def commaList (s : String) : List String :=
  ((pieces ',' s.toList).map trimChars).filterMap fun piece =>
    if piece.isEmpty then none else some (String.ofList piece)

end Multifiling.Text
