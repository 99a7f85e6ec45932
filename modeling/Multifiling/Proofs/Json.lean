import Multifiling.Json

/-!
Equality of JSON values is decidable (`same_iff`), so what a text is read as can be computed. What
is written of a value is read as that value again (`sent_of_written?`).
-/

namespace Multifiling.Json

variable {τ : Type}

section
variable [DecidableEq τ]

mutual

/-- Whether two values are the same. -/
def same : Json τ → Json τ → Bool
  | .null, .null | .notFinite, .notFinite => true
  | .bool a, .bool b => a = b
  | .int a, .int b => a = b
  | .decimal mantissa exponent, .decimal mantissa' exponent' =>
    mantissa = mantissa' && exponent = exponent'
  | .string a, .string b => a = b
  | .array xs, .array ys => sameAll xs ys
  | .object xs, .object ys => sameFields xs ys
  | _, _ => false

def sameAll : List (Json τ) → List (Json τ) → Bool
  | [], [] => true
  | x :: xs, y :: ys => same x y && sameAll xs ys
  | _, _ => false

def sameFields : List (τ × Json τ) → List (τ × Json τ) → Bool
  | [], [] => true
  | (name, x) :: xs, (name', y) :: ys => name = name' && same x y && sameFields xs ys
  | _, _ => false

end

mutual

theorem same_iff (a b : Json τ) : same a b = true ↔ a = b := by
  cases a with
  | array xs => cases b <;> simp [same, sameAll_iff xs]
  | object xs => cases b <;> simp [same, sameFields_iff xs]
  | _ => cases b <;> simp [same]

theorem sameAll_iff (xs ys : List (Json τ)) : sameAll xs ys = true ↔ xs = ys := by
  cases xs with
  | nil => cases ys <;> simp [sameAll]
  | cons x xs => cases ys <;> simp [sameAll, same_iff x, sameAll_iff xs]

theorem sameFields_iff (xs ys : List (τ × Json τ)) : sameFields xs ys = true ↔ xs = ys := by
  cases xs with
  | nil => cases ys <;> simp [sameFields]
  | cons field xs =>
    obtain ⟨name, x⟩ := field
    cases ys <;> simp [sameFields, Prod.ext_iff, same_iff x, sameFields_iff xs]

end

instance : DecidableEq (Json τ) := fun a b => decidable_of_iff _ (same_iff a b)

end

section
variable [TextForm τ]
open TextForm

mutual

theorem sent_of_written? {value : Json τ} {json : Json} (h : value.written? = some json) :
    json.sent = value := by
  cases value with
  | null | bool | int | decimal =>
    cases h
    rfl
  | notFinite => cases h
  | string text =>
    obtain ⟨s, hs, rfl⟩ := Option.map_eq_some_iff.mp h
    rw [sent, ofString_of_string? hs]
  | array values =>
    obtain ⟨jsons, hjsons, rfl⟩ := Option.map_eq_some_iff.mp h
    rw [sent, sentAll_of_writtenAll? hjsons]
  | object fields =>
    obtain ⟨jsons, hjsons, rfl⟩ := Option.map_eq_some_iff.mp h
    rw [sent, sentFields_of_writtenFields? hjsons]

theorem sentAll_of_writtenAll? {values : List (Json τ)} {jsons : List Json}
    (h : writtenAll? values = some jsons) : sentAll jsons = values := by
  cases values with
  | nil =>
    cases h
    rfl
  | cons value rest =>
    simp only [writtenAll?, bind, pure, Option.bind_eq_some_iff, Option.some.injEq] at h
    obtain ⟨json, hjson, jsons, hjsons, rfl⟩ := h
    rw [sentAll, sent_of_written? hjson, sentAll_of_writtenAll? hjsons]

theorem sentFields_of_writtenFields? {fields : List (τ × Json τ)} {jsons : List (String × Json)}
    (h : writtenFields? fields = some jsons) : sentFields jsons = fields := by
  cases fields with
  | nil =>
    cases h
    rfl
  | cons field rest =>
    obtain ⟨text, value⟩ := field
    simp only [writtenFields?, bind, pure, Option.bind_eq_some_iff, Option.some.injEq] at h
    obtain ⟨name, hname, json, hjson, jsons, hjsons, rfl⟩ := h
    rw [sentFields, ofString_of_string? hname, sent_of_written? hjson,
      sentFields_of_writtenFields? hjsons]

end

end

end Multifiling.Json
