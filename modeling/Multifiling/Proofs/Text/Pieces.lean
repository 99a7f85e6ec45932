import Multifiling.Proofs.Text
import Multifiling.Text.Pieces

/-!
Texts that were put together from pieces come apart into these (`pieces_intercalate`), unless a
separator stands in a piece. A text is cut in two at its first separator (`cutAt?_eq_some_iff`).
-/

namespace Multifiling.Text

variable {sep : Char} {cs before after : List Char}

theorem pieces_eq_splitOn (sep : Char) (cs : List Char) : pieces sep cs = cs.splitOn sep := by
  induction cs with
  | nil => rfl
  | cons c cs ih =>
    rw [List.splitOn, List.splitOnP_cons_eq_if_modifyHead, ← List.splitOn, pieces, ih]
    by_cases hc : c = sep
    · rw [if_pos hc, if_pos (beq_iff_eq.mpr hc)]
    · rw [if_neg hc, if_neg (by simpa using hc)]
      cases h : cs.splitOn sep with
      | nil => exact absurd h (List.splitOn_ne_nil sep cs)
      | cons piece rest => rfl

theorem pieces_intercalate {entries : List (List Char)} (hne : entries ≠ [])
    (h : ∀ entry ∈ entries, sep ∉ entry) : pieces sep ([sep].intercalate entries) = entries := by
  rw [pieces_eq_splitOn, List.splitOn_intercalate sep h hne]

/-- The words of a comma-separated text are its trimmed pieces, but the blank ones. -/
theorem mem_commaList {s word : String} : word ∈ commaList s ↔
    word ≠ "" ∧ ∃ piece ∈ s.toList.splitOn ',', trimChars piece = word.toList := by
  simp only [commaList, pieces_eq_splitOn, List.mem_filterMap, List.mem_map]
  constructor
  · rintro ⟨-, ⟨piece, hpiece, rfl⟩, hword⟩
    split at hword
    · cases hword
    · next hne =>
      cases hword
      exact ⟨by simpa using hne, piece, hpiece, String.toList_ofList.symm⟩
  · rintro ⟨hne, piece, hpiece, htrim⟩
    have hempty : word.toList.isEmpty = false := by simpa using hne
    refine ⟨trimChars piece, ⟨piece, hpiece, rfl⟩, ?_⟩
    rw [htrim, hempty, if_neg Bool.false_ne_true, String.ofList_toList]

theorem cutAt?_eq_some_iff :
    cutAt? sep cs = some (before, after) ↔ cs = before ++ sep :: after ∧ sep ∉ before := by
  induction cs generalizing before with
  | nil => simp [cutAt?]
  | cons c cs ih =>
    rw [cutAt?]
    split
    · next hc =>
      subst hc
      constructor
      · intro h
        cases h
        exact ⟨rfl, List.not_mem_nil⟩
      · rintro ⟨heq, hmem⟩
        cases before with
        | nil => cases heq; rfl
        | cons b before =>
          cases heq
          exact absurd List.mem_cons_self hmem
    · next hc =>
      constructor
      · intro h
        obtain ⟨⟨front, back⟩, hcut, heq⟩ := Option.map_eq_some_iff.mp h
        cases heq
        obtain ⟨rfl, hmem⟩ := ih.mp hcut
        exact ⟨rfl, fun h => hmem ((List.mem_cons.mp h).resolve_left (Ne.symm hc))⟩
      · rintro ⟨heq, hmem⟩
        cases before with
        | nil =>
          cases heq
          exact absurd rfl hc
        | cons b before =>
          cases heq
          rw [ih.mpr ⟨rfl, fun h => hmem (List.mem_cons_of_mem _ h)⟩]
          rfl

theorem cutAt?_eq_none (h : sep ∉ cs) : cutAt? sep cs = none := by
  refine Option.eq_none_iff_forall_ne_some.mpr fun (before, after) hcut => ?_
  obtain ⟨rfl, -⟩ := cutAt?_eq_some_iff.mp hcut
  exact h (List.mem_append_right _ List.mem_cons_self)

end Multifiling.Text
