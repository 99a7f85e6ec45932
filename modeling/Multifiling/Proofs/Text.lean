import Mathlib.Data.List.DropRight
import Multifiling.Text.Blank

/-!
Trimming and cutting of texts. Trimming leaves no such character at either end, changes nothing
where there is none (`strip_eq_self_iff`), and does not notice any more of them (`strip_padded`); of
blanks, it leaves the one thing that has none at its ends and only blanks around it (`trims_iff`). A
word ends in front of the first character that does not belong to it (`takeWhile_append_cons`,
`dropWhile_append_cons`). A text is cut in one way at the last place of a character
(`append_cons_inj_of_notMem_back`).
-/

namespace Multifiling.Text

variable {p : Char → Bool} {c : Char} {cs word rest : List Char}

/-- Neither the first nor the last character satisfies `p`. -/
structure Stripped (p : Char → Bool) (cs : List Char) : Prop where
  first : ∀ c ∈ cs.head?, p c = false
  last : ∀ c ∈ cs.getLast?, p c = false

theorem stripped_iff :
    Stripped p cs ↔ cs.head?.all (!p ·) = true ∧ cs.getLast?.all (!p ·) = true := by
  simp only [Option.all_eq_true, Bool.not_eq_true']
  exact ⟨fun h => ⟨h.first, h.last⟩, fun h => ⟨h.1, h.2⟩⟩

instance : Decidable (Stripped p cs) := decidable_of_iff' _ stripped_iff

namespace Stripped

theorem of_forall (h : ∀ c ∈ cs, p c = false) : Stripped p cs :=
  ⟨fun c hc => h c (List.mem_of_mem_head? hc), fun c hc => h c (List.mem_of_mem_getLast? hc)⟩

/-- A text of two parts begins as the first and ends as the second. -/
theorem append {ds : List Char} (hcs : cs ≠ []) (hds : ds ≠ [])
    (first : ∀ c ∈ cs.head?, p c = false) (last : ∀ c ∈ ds.getLast?, p c = false) :
    Stripped p (cs ++ ds) where
  first := by rwa [List.head?_append_of_ne_nil cs hcs]
  last := by rwa [List.getLast?_append_of_ne_nil cs hds]

theorem strip_eq (h : Stripped p cs) : strip p cs = cs := by
  cases cs with
  | nil => rfl
  | cons c rest =>
    have hfirst : p c = false := h.first c rfl
    rw [strip, List.dropWhile_cons_of_neg (by simp [hfirst])]
    refine List.rdropWhile_eq_self_iff.mpr fun hne => ?_
    rw [h.last _ (List.getLast_mem_getLast? hne)]
    exact Bool.false_ne_true

end Stripped

theorem strip_stripped (p : Char → Bool) (cs : List Char) : Stripped p (strip p cs) where
  first c hc := by
    have hfront : strip p cs <+: cs.dropWhile p := List.rdropWhile_prefix p _
    obtain ⟨tail, htail⟩ := hfront
    cases hstrip : strip p cs with
    | nil => rw [hstrip] at hc; cases hc
    | cons d ds =>
      rw [hstrip] at hc htail
      cases hc
      have hfirst := List.head?_dropWhile_not p cs
      rwa [← htail] at hfirst
  last c hc := by
    obtain ⟨hne, rfl⟩ := List.mem_getLast?_eq_getLast hc
    exact Bool.eq_false_iff.mpr (List.rdropWhile_last_not p (cs.dropWhile p) hne)

/-- Trimming changes nothing just where there is nothing to trim. -/
theorem strip_eq_self_iff : strip p cs = cs ↔ Stripped p cs :=
  ⟨fun h => h ▸ strip_stripped p cs, Stripped.strip_eq⟩

theorem strip_of_forall (h : ∀ c ∈ cs, p c = true) : strip p cs = [] := by
  rw [strip, List.dropWhile_eq_nil_iff.mpr h]
  rfl

/-- What is trimmed off may stand around a text. -/
theorem strip_padded {before after : List Char} (hbefore : ∀ c ∈ before, p c = true)
    (hafter : ∀ c ∈ after, p c = true) (cs : List Char) :
    strip p (before ++ cs ++ after) = strip p cs := by
  rw [strip, strip, List.append_assoc, List.dropWhile_append_of_pos hbefore, List.dropWhile_append]
  split
  · next hempty =>
    rw [List.isEmpty_iff.mp hempty, List.dropWhile_eq_nil_iff.mpr hafter]
  · have hback : ∀ c ∈ after.reverse, p c = true := fun c hc => hafter c (List.mem_reverse.mp hc)
    rw [dropEndWhile, List.reverse_append, List.dropWhile_append_of_pos hback, ← dropEndWhile]

theorem Stripped.notBlank {s : String} (h : Stripped isBlank s.toList) (hne : s.toList ≠ []) :
    isBlankText s = false := by
  rw [isBlankText, ← Bool.not_eq_true, List.all_eq_true]
  intro hall
  have htrim := strip_of_forall hall
  rw [h.strip_eq] at htrim
  exact hne htrim

/-- A row of blanks, or nothing. -/
structure Gap where
  chars : List Char
  blank : ∀ c ∈ chars, isBlank c = true

/-- Nothing between two parts. -/
def Gap.empty : Gap := ⟨[], List.forall_mem_nil _⟩

theorem trimChars_around (before after : Gap) (cs : List Char) :
    trimChars (before.chars ++ cs ++ after.chars) = trimChars cs :=
  strip_padded before.blank after.blank cs

theorem trimChars_gap (gap : Gap) : trimChars gap.chars = [] := strip_of_forall gap.blank

/-- What is left of a text without the blanks around it. -/
structure Trims (cs core : List Char) : Prop where
  around : ∃ before after : Gap, cs = before.chars ++ core ++ after.chars
  ends : Stripped isBlank core

theorem trims_trimChars (cs : List Char) : Trims cs (trimChars cs) where
  around := by
    refine ⟨⟨cs.takeWhile isBlank, fun _ hc => List.mem_takeWhile_imp hc⟩,
      ⟨(cs.dropWhile isBlank).rtakeWhile isBlank, fun _ hc => List.mem_rtakeWhile_imp hc⟩, ?_⟩
    have hback : trimChars cs ++ (cs.dropWhile isBlank).rtakeWhile isBlank = cs.dropWhile isBlank :=
      List.rdropWhile_append_rtakeWhile
    rw [List.append_assoc, hback, List.takeWhile_append_dropWhile]
  ends := strip_stripped isBlank cs

theorem trims_iff {core : List Char} : Trims cs core ↔ trimChars cs = core := by
  constructor
  · rintro ⟨⟨before, after, rfl⟩, hends⟩
    exact (trimChars_around before after core).trans hends.strip_eq
  · rintro rfl
    exact trims_trimChars cs

/-- A text that is neither empty nor has blanks at its ends. -/
structure Trimmed (s : String) : Prop where
  ne : s ≠ ""
  ends : Stripped isBlank s.toList

instance (s : String) : Decidable (Trimmed s) :=
  decidable_of_iff (s ≠ "" ∧ Stripped isBlank s.toList)
    ⟨fun h => ⟨h.1, h.2⟩, fun h => ⟨h.ne, h.ends⟩⟩

theorem takeWhile_append_cons (hword : ∀ d ∈ word, p d = true) (hc : p c = false) :
    (word ++ c :: rest).takeWhile p = word := by
  rw [List.takeWhile_append_of_pos hword, List.takeWhile_cons_of_neg (by simp [hc]),
    List.append_nil]

theorem dropWhile_append_cons (hword : ∀ d ∈ word, p d = true) (hc : p c = false) :
    (word ++ c :: rest).dropWhile p = c :: rest := by
  rw [List.dropWhile_append_of_pos hword, List.dropWhile_cons_of_neg (by simp [hc])]

/-- Two cuts of a text are the same if the character at neither comes again behind the other. -/
theorem append_cons_inj_of_notMem_back {front front' back back' : List Char} {d : Char}
    (hd : d ∉ back) (hc : c ∉ back') (h : front ++ c :: back = front' ++ d :: back') :
    front = front' ∧ c = d ∧ back = back' := by
  rcases List.append_eq_append_iff.mp h with ⟨between, hfront, hback⟩ | ⟨between, hfront, hback⟩
  · cases between with
    | nil =>
      cases hback
      exact ⟨by rw [hfront, List.append_nil], rfl, rfl⟩
    | cons b between =>
      obtain ⟨-, rfl⟩ := List.cons.inj hback
      exact absurd (List.mem_append_right between List.mem_cons_self) hd
  · cases between with
    | nil =>
      cases hback
      exact ⟨by rw [hfront, List.append_nil], rfl, rfl⟩
    | cons b between =>
      obtain ⟨-, rfl⟩ := List.cons.inj hback
      exact absurd (List.mem_append_right between List.mem_cons_self) hc

end Multifiling.Text
