/-!
Texts as they are sent. A JSON text can escape half of a surrogate pair alone: it is read as a code
point, but the text that holds it is no string, and nothing can be written that shows it.
-/

namespace Multifiling

/-- A form of texts. Every string has a text of this form, and another text comes from no string. -/
class TextForm (τ : Type) where
  ofString : String → τ
  string? : τ → Option String
  string?_ofString (s : String) : string? (ofString s) = some s
  ofString_of_string? {t : τ} {s : String} (h : string? t = some s) : ofString s = t

theorem TextForm.ofString_inj {τ : Type} [TextForm τ] {a b : String} :
    (ofString a : τ) = ofString b ↔ a = b := by
  refine ⟨fun h => Option.some.inj ?_, congrArg _⟩
  rw [← @string?_ofString τ _ a, h, string?_ofString]

instance : TextForm String where
  ofString s := s
  string? s := some s
  string?_ofString _ := rfl
  ofString_of_string? h := (Option.some.inj h).symm

@[simp] theorem TextForm.ofString_eq (s : String) : (ofString s : String) = s := rfl

@[simp] theorem TextForm.string?_eq (s : String) : string? s = some s := rfl

/-- A code point: a character, or half of a pair alone, which is `0xD800 + offset`. -/
inductive Point where
  | char (c : Char)
  | half (offset : Fin 0x800)
  deriving DecidableEq, Repr

/-- A text as it is sent. -/
abbrev SentText := List Point

namespace SentText

/-- The characters of a text without halves. -/
def chars? : SentText → Option (List Char)
  | [] => some []
  | .char c :: rest => (chars? rest).map (c :: ·)
  | .half _ :: _ => none

/-- The string that a text is, if it is one. -/
def string? (text : SentText) : Option String := (chars? text).map String.ofList

theorem chars?_map_char (cs : List Char) : chars? (cs.map .char) = some cs := by
  induction cs with
  | nil => rfl
  | cons c cs ih => rw [List.map_cons, chars?, ih, Option.map_some]

theorem map_char_of_chars? {text : SentText} {cs : List Char} (h : chars? text = some cs) :
    cs.map .char = text := by
  induction text generalizing cs with
  | nil =>
    cases h
    rfl
  | cons point rest ih =>
    cases point with
    | half => cases h
    | char c =>
      obtain ⟨later, hrest, rfl⟩ := Option.map_eq_some_iff.mp h
      rw [List.map_cons, ih hrest]

instance : TextForm SentText where
  ofString s := s.toList.map .char
  string? := string?
  string?_ofString s := by rw [string?, chars?_map_char, Option.map_some, String.ofList_toList]
  ofString_of_string? h := by
    obtain ⟨cs, hcs, rfl⟩ := Option.map_eq_some_iff.mp h
    rw [String.toList_ofList, map_char_of_chars? hcs]

end SentText

end Multifiling
