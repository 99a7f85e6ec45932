import Multifiling.Proofs.Registry
import Multifiling.Settings

/-!
What settings that could be read are like, whatever the environment held: page sizes are at least
one, and namespace prefixes are trimmed and not empty.
-/

namespace Multifiling.Settings
open Text

theorem readPair?_tidy {entry : List Char} {pair : String × String}
    (h : readPair? entry = some pair) : Trimmed pair.1 := by
  rw [readPair?] at h
  split at h
  · cases h
  · next nsPrefix uri _ =>
    simp only at h
    split at h
    · cases h
    · next hne =>
      cases h
      rw [Bool.not_eq_true, Bool.or_eq_false_iff, List.isEmpty_eq_false_iff] at hne
      refine ⟨fun h => hne.1 (by simpa using h), ?_⟩
      rw [String.toList_ofList]
      exact strip_stripped isBlank nsPrefix

theorem readNamespaces_tidy (given : String) :
    ∀ entry ∈ readNamespaces given, Trimmed entry.1 := by
  intro entry hentry
  rcases Entries.mem_putAll hentry with h | h
  · cases h
  · obtain ⟨text, -, htext⟩ := List.mem_filterMap.mp h
    exact readPair?_tidy htext

theorem readInt_least {name given : String} {least : Nat} {n : Int}
    (h : readInt name (some least) given = .ok n) : least ≤ n := by
  rw [readInt] at h
  split at h
  · cases h
  · simp only at h
    split at h
    · cases h
    · cases h
      omega

/-- A setting with a lower bound is not below it, unless its default is. -/
theorem optional_least {name : String} {least : Nat} {default n : Int} {given : Option String}
    (hdefault : least ≤ default)
    (h : optional default (readInt name (some least)) given = .ok n) : least ≤ n := by
  cases given with
  | none => cases h; exact hdefault
  | some text => exact readInt_least h

/-- Settings that could be read. -/
structure Usable (settings : Settings) : Prop where
  defaultPageSize : 1 ≤ settings.defaultPageSize
  maxPageSize : 1 ≤ settings.maxPageSize
  namespaces : ∀ entry ∈ settings.namespaces, Trimmed entry.1

theorem ofEnvironment_usable {env : List (String × String)} {settings : Settings}
    (h : ofEnvironment env = .ok settings) : settings.Usable := by
  unfold ofEnvironment at h
  simp only at h
  split at h
  · next hdefault hmax =>
    cases h
    exact ⟨optional_least (by decide) hdefault, optional_least (by decide) hmax,
      readNamespaces_tidy _⟩
  · cases h

end Multifiling.Settings
