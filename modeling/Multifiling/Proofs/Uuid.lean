import Mathlib.Algebra.Group.Nat.Defs
import Multifiling.Proofs.Text
import Multifiling.Text.UpperCase
import Multifiling.Uuid

/-!
Identifiers as they are written. A spelling of an identifier has its digits in either case, hyphens
anywhere between them, braces around them and the words of a URN in front, or not; each spelling is
read as that identifier (`parse?_spelling`), and so are the canonical text and the forms made of it
(`parse?_text`, `parse?_forms`). Whatever is read is an identifier of 128 bits (`parse?_lt`).
-/

namespace Multifiling

/-! ### Rows of digits -/

namespace Text

/-- The characters that are written for a digit, in lower and in upper case. -/
def digitChars (d : Nat) : List Char := [hexDigit d, (hexDigit d).toUpper]

theorem forall_digitChars {p : Char → Prop} {d : Nat} :
    (∀ c ∈ digitChars d, p c) ↔ p (hexDigit d) ∧ p (hexDigit d).toUpper := by
  simp [digitChars]

theorem digitChars_value :
    ∀ d < 16, ∀ c ∈ digitChars d, c ≠ '_' ∧ hexValue? c = some d := by
  simp only [forall_digitChars]
  decide +kernel

/-- What a written digit is not. -/
theorem digitChars_apart : ∀ d < 16, ∀ c ∈ digitChars d,
    c ∉ ['u', 'x', 'X', '+', '-', '{', '}'] ∧ isSpace c = false := by
  simp only [forall_digitChars]
  decide +kernel

theorem digitChars_upper : ∀ d < 16, ∀ c ∈ digitChars d,
    upperChar c = [c.toUpper] ∧ c.toUpper ∈ digitChars d := by
  simp only [forall_digitChars]
  decide +kernel

/-- A row of so many digits writes a number, most significant digit first. -/
inductive HexRow : Nat → Nat → List Char → Prop where
  | nil : HexRow 0 0 []
  | snoc {width n d : Nat} {cs : List Char} {c : Char} (h : HexRow width n cs) (hd : d < 16)
    (hc : c ∈ digitChars d) : HexRow (width + 1) (n * 16 + d) (cs ++ [c])

namespace HexRow

variable {width n : Nat} {cs : List Char}

theorem of_hexDigits (h : n < 16 ^ width) : HexRow width n (hexDigits width n) := by
  induction width generalizing n with
  | zero =>
    rw [Nat.pow_zero, Nat.lt_one_iff] at h
    subst h
    exact .nil
  | succ width ih =>
    have hquotient : n / 16 < 16 ^ width := by
      rw [Nat.pow_succ] at h
      omega
    have hrow := snoc (ih hquotient) (Nat.mod_lt n (by decide)) List.mem_cons_self
    rwa [Nat.div_add_mod'] at hrow

theorem length_eq (h : HexRow width n cs) : cs.length = width := by
  induction h with
  | nil => rfl
  | snoc _ _ _ ih => rw [List.length_append, ih, List.length_singleton]

theorem mem (h : HexRow width n cs) {c : Char} (hc : c ∈ cs) : ∃ d < 16, c ∈ digitChars d := by
  induction h with
  | nil => cases hc
  | @snoc _ _ d _ _ _ hd hdigit ih =>
    rcases List.mem_append.mp hc with hc | hc
    · exact ih hc
    · exact ⟨d, hd, List.mem_singleton.mp hc ▸ hdigit⟩

theorem apart (h : HexRow width n cs) {c : Char} (hc : c ∈ cs) :
    c ∉ ['u', 'x', 'X', '+', '-', '{', '}'] ∧ isSpace c = false := by
  obtain ⟨d, hd, hdigit⟩ := h.mem hc
  exact digitChars_apart d hd c hdigit

theorem map_toUpper (h : HexRow width n cs) : HexRow width n (cs.map Char.toUpper) := by
  induction h with
  | nil => exact .nil
  | @snoc _ _ d _ c _ hd hdigit ih =>
    rw [List.map_append]
    exact .snoc ih hd (digitChars_upper d hd c hdigit).2

/-- A row adds its number to what was read before it. -/
theorem groupedFrom?_append (h : HexRow width n cs) (acc : Nat) (need : Bool) (rest : List Char) :
    groupedFrom? 16 hexValue? acc need (cs ++ rest) =
      groupedFrom? 16 hexValue? (acc * 16 ^ width + n) (need && width == 0) rest := by
  induction h generalizing rest with
  | nil => simp
  | @snoc width n d cs c _ hd hdigit ih =>
    obtain ⟨hlow, hvalue⟩ := digitChars_value d hd c hdigit
    have hnumber : (acc * 16 ^ width + n) * 16 + d = acc * 16 ^ (width + 1) + (n * 16 + d) := by
      rw [Nat.pow_succ, Nat.add_mul, Nat.mul_assoc, Nat.add_assoc]
    rw [List.append_assoc, ih, List.singleton_append, groupedFrom?, if_neg hlow, hvalue]
    simp [hnumber]

theorem grouped?_eq (h : HexRow width n cs) (hwidth : width ≠ 0) :
    grouped? 16 hexValue? cs = some n := by
  have hread := h.groupedFrom?_append 0 true []
  rw [List.append_nil] at hread
  rw [grouped?, hread]
  simp [groupedFrom?, hwidth]

end HexRow

/-! ### Sizes of numerals -/

theorem hexValue?_lt {c : Char} {d : Nat} (h : hexValue? c = some d) : d < 16 := by
  rw [hexValue?] at h
  split at h
  · next hc =>
    have hlast : c.toNat ≤ 'f'.toNat := hc.2
    cases h
    simp at hlast ⊢
    omega
  · split at h
    · next hc =>
      have hlast : c.toNat ≤ 'F'.toNat := hc.2
      cases h
      simp at hlast ⊢
      omega
    · obtain ⟨z, hz, rfl⟩ := Option.map_eq_some_iff.mp h
      have hrow := List.find?_some hz
      simp only [Bool.and_eq_true, decide_eq_true_eq] at hrow
      omega

theorem groupedFrom?_lt {acc n : Nat} {need : Bool} {cs : List Char}
    (h : groupedFrom? 16 hexValue? acc need cs = some n) : n < (acc + 1) * 16 ^ cs.length := by
  induction cs generalizing acc need with
  | nil =>
    rw [groupedFrom?] at h
    split at h
    · cases h
    · cases h
      simp
  | cons c cs ih =>
    rw [List.length_cons, Nat.pow_succ', ← Nat.mul_assoc]
    rw [groupedFrom?] at h
    split at h
    · split at h
      · cases h
      · exact (ih h).trans_le (Nat.mul_le_mul_right _ (by omega))
    · split at h
      · cases h
      · next d hd =>
        have := hexValue?_lt hd
        exact (ih h).trans_le (Nat.mul_le_mul_right _ (by omega))

theorem length_strip_le (p : Char → Bool) (cs : List Char) : (strip p cs).length ≤ cs.length :=
  (List.rdropWhile_prefix p _).length_le.trans (List.dropWhile_suffix p).length_le

end Text

namespace Uuid
open Text

variable {u : Uuid} {cs : List Char}

/-! ### Words that are removed -/

theorem removeFrom_eq_self {c : Char} {word : List Char} (h : c ∉ cs) :
    removeFrom (c :: word) 0 cs = cs := by
  induction cs with
  | nil => rfl
  | cons d ds ih =>
    rw [List.mem_cons, not_or] at h
    rw [removeFrom, if_neg, ih h.2]
    simp [h.1]

/-- Without a `u` there is no word to remove. -/
theorem remove_words (h : 'u' ∉ cs) : remove "uuid:" (remove "urn:" cs) = cs := by
  rw [remove, remove, show "urn:".toList = 'u' :: "rn:".toList from rfl, removeFrom_eq_self h,
    show "uuid:".toList = 'u' :: "uid:".toList from rfl, removeFrom_eq_self h]

theorem remove_urn (h : 'u' ∉ cs) :
    remove "uuid:" (remove "urn:" ("urn:uuid:".toList ++ cs)) = cs := by
  have hurn : remove "urn:" ("urn:uuid:".toList ++ cs) = "uuid:".toList ++ remove "urn:" cs := by
    simp [remove, removeFrom]
  have huuid (ds : List Char) : remove "uuid:" ("uuid:".toList ++ ds) = remove "uuid:" ds := by
    simp [remove, removeFrom]
  rw [hurn, huuid, remove_words h]

/-! ### Spellings -/

/-- A way to write an identifier. -/
structure Spelling (u : Uuid) where
  /-- Whether the words of a URN stand in front. -/
  urn : Bool := false
  /-- How many braces stand on either side. -/
  opening : Nat := 0
  closing : Nat := 0
  /-- The digits, with hyphens anywhere. -/
  body : List Char
  row : HexRow 32 u.value (body.filter (· ≠ '-'))

namespace Spelling

/-- The characters without the words of a URN. -/
def chars (l : Spelling u) : List Char :=
  List.replicate l.opening '{' ++ l.body ++ List.replicate l.closing '}'

def text (l : Spelling u) : String :=
  (if l.urn then "urn:uuid:" else "") ++ String.ofList l.chars

theorem body_apart (l : Spelling u) {c : Char} (hc : c ∈ l.body) : c ≠ 'u' ∧ isBrace c = false := by
  by_cases hyphen : c = '-'
  · subst hyphen
    decide
  · have h := (l.row.apart (List.mem_filter.mpr ⟨hc, decide_eq_true hyphen⟩)).1
    simp only [List.mem_cons, List.not_mem_nil, or_false, not_or] at h
    simp [isBrace, h]

theorem notMem_chars (l : Spelling u) : 'u' ∉ l.chars := by
  intro h
  simp only [chars, List.mem_append, List.mem_replicate] at h
  rcases h with (h | h) | h
  · exact absurd h.2 (by decide)
  · exact (l.body_apart h).1 rfl
  · exact absurd h.2 (by decide)

theorem bareChars_text (l : Spelling u) : bareChars l.text = l.body.filter (· ≠ '-') := by
  have hwords : remove "uuid:" (remove "urn:" l.text.toList) = l.chars := by
    rw [text, String.toList_append, String.toList_ofList]
    cases l.urn with
    | true => exact remove_urn l.notMem_chars
    | false => exact remove_words l.notMem_chars
  have hbody : Stripped isBrace l.body := .of_forall fun c hc => (l.body_apart hc).2
  have hopening : ∀ c ∈ List.replicate l.opening '{', isBrace c = true := by
    intro c hc
    rw [List.eq_of_mem_replicate hc]
    decide
  have hclosing : ∀ c ∈ List.replicate l.closing '}', isBrace c = true := by
    intro c hc
    rw [List.eq_of_mem_replicate hc]
    decide
  rw [bareChars, hwords, chars, strip_padded hopening hclosing, hbody.strip_eq]

end Spelling

/-! ### Reading -/

theorem hexNumeral?_row {width n : Nat} (h : HexRow width n cs) (hwidth : width ≠ 0) :
    hexNumeral? cs = some n := by
  have hspaces : Stripped isSpace cs := .of_forall fun c hc => (h.apart hc).2
  have hmark : dropBaseMark cs = cs := by
    unfold dropBaseMark
    split
    · next z x rest =>
      have hx := (h.apart (c := x) (by simp)).1
      simp only [List.mem_cons, List.not_mem_nil, or_false, not_or] at hx
      rw [if_neg (fun h => h.2.elim hx.2.1 hx.2.2.1)]
    · rfl
  rw [hexNumeral?, hspaces.strip_eq]
  split
  · next rest => exact absurd (h.apart (c := '+') (by simp)).1 (by decide)
  · rw [hmark, h.grouped?_eq hwidth]

/-- Each spelling of an identifier is read as that identifier. -/
theorem parse?_spelling (l : Spelling u) : parse? l.text = some u := by
  have hlength : (l.body.filter (· ≠ '-')).length = 32 := l.row.length_eq
  simp only [parse?, l.bareChars_text, hlength, hexNumeral?_row l.row (by decide)]
  rfl

/-! ### The canonical text -/

def digits (u : Uuid) : List Char := hexDigits 32 u.value

theorem digits_row (h : u.value < 2 ^ 128) : HexRow 32 u.value u.digits :=
  .of_hexDigits (by simpa using h)

/-- Without its hyphens the canonical text is the row of digits. -/
theorem filter_chars (h : u.value < 2 ^ 128) : u.chars.filter (· ≠ '-') = u.digits := by
  have hkeep {part : List Char} (hpart : part ⊆ u.digits) : part.filter (· ≠ '-') = part := by
    refine List.filter_eq_self.mpr fun c hc => decide_eq_true ?_
    rintro rfl
    exact ((digits_row h).apart (hpart hc)).1 (by decide)
  have htake (i j : Nat) : (u.digits.drop i).take j ⊆ u.digits :=
    fun _ h => List.mem_of_mem_drop (List.mem_of_mem_take h)
  have hcut : u.digits.take 8 ++ (u.digits.drop 8).take 4 ++ (u.digits.drop 12).take 4 ++
      (u.digits.drop 16).take 4 ++ u.digits.drop 20 = u.digits := by
    rw [← List.take_add, ← List.take_add, ← List.take_add, List.take_append_drop]
  have hhyphen (part : List Char) :
      ('-' :: part).filter (· ≠ '-') = part.filter (· ≠ '-') := by simp
  rw [chars, ← digits]
  simp only [List.filter_append, hhyphen, hkeep (htake _ _), hkeep (List.take_subset _ _),
    hkeep (List.drop_subset _ _)]
  exact hcut

/-- The canonical text is a spelling. -/
def canonical (h : u.value < 2 ^ 128) : Spelling u where
  body := u.chars
  row := filter_chars h ▸ digits_row h

/-- An identifier of 128 bits is read back from its canonical text. -/
theorem parse?_text (h : u.value < 2 ^ 128) : parse? u.text = some u := by
  have htext : (canonical h).text = u.text := by
    simp [Spelling.text, Spelling.chars, canonical, text]
  rw [← htext, parse?_spelling]

/-! ### Other forms -/

/-- The forms in which an identifier is met: its canonical text, in upper case, without hyphens, in
braces, or as a URN. -/
def forms (u : Uuid) : List String :=
  [u.text, upper u.text, String.ofList (u.text.toList.filter (· ≠ '-')),
    "\x7b" ++ u.text ++ "\x7d", "urn:uuid:" ++ u.text]

theorem mem_chars (h : u.value < 2 ^ 128) {c : Char} (hc : c ∈ u.chars) :
    c = '-' ∨ ∃ d < 16, c ∈ digitChars d := by
  by_cases hyphen : c = '-'
  · exact .inl hyphen
  · refine .inr ((digits_row h).mem ?_)
    rw [← filter_chars h]
    exact List.mem_filter.mpr ⟨hc, decide_eq_true hyphen⟩

theorem upper_text (h : u.value < 2 ^ 128) :
    upper u.text = String.ofList (u.chars.map Char.toUpper) := by
  have hupper : ∀ c ∈ u.chars, upperChar c = [c.toUpper] := by
    intro c hc
    rcases mem_chars h hc with rfl | ⟨d, hd, hdigit⟩
    · decide
    · exact (digitChars_upper d hd c hdigit).1
  rw [upper, text, String.toList_ofList, List.flatMap_congr hupper, ← List.map_eq_flatMap]

theorem filter_upper (h : u.value < 2 ^ 128) :
    (u.chars.map Char.toUpper).filter (· ≠ '-') = u.digits.map Char.toUpper := by
  have hhyphen : ∀ c ∈ u.chars, decide (c.toUpper ≠ '-') = decide (c ≠ '-') := by
    intro c hc
    rcases mem_chars h hc with rfl | ⟨d, hd, hdigit⟩
    · decide
    · have hne : ∀ c' ∈ digitChars d, c' ≠ '-' := by
        rintro c' hc' rfl
        exact (digitChars_apart d hd '-' hc').1 (by decide)
      rw [decide_eq_true (hne c hdigit), decide_eq_true (hne _ (digitChars_upper d hd c hdigit).2)]
  rw [List.filter_map, ← filter_chars h]
  exact congrArg _ (List.filter_congr hhyphen)

/-- In each of these forms an identifier of 128 bits is read back. -/
theorem parse?_forms (h : u.value < 2 ^ 128) : ∀ form ∈ u.forms, parse? form = some u := by
  have hspelled {form : String} (l : Spelling u) (ht : l.text = form) : parse? form = some u := by
    rw [← ht, parse?_spelling]
  have hupper : HexRow 32 u.value ((u.chars.map Char.toUpper).filter (· ≠ '-')) := by
    rw [filter_upper h]
    exact (digits_row h).map_toUpper
  have hbare : HexRow 32 u.value ((u.chars.filter (· ≠ '-')).filter (· ≠ '-')) := by
    rw [List.filter_filter]
    simpa [canonical] using (canonical h).row
  simp only [forms, List.forall_mem_cons]
  refine ⟨parse?_text h, hspelled ⟨false, 0, 0, _, hupper⟩ ?_, hspelled ⟨false, 0, 0, _, hbare⟩ ?_,
    hspelled { canonical h with opening := 1, closing := 1 } ?_,
    hspelled { canonical h with urn := true } ?_, List.forall_mem_nil _⟩
  · simp [Spelling.text, Spelling.chars, upper_text h]
  · simp [Spelling.text, Spelling.chars, text]
  · simp [Spelling.text, Spelling.chars, canonical, text, String.append_assoc]
  · simp [Spelling.text, Spelling.chars, canonical, text]

/-! ### Sizes -/

theorem length_dropBaseMark_le (cs : List Char) : (dropBaseMark cs).length ≤ cs.length := by
  unfold dropBaseMark
  split
  · split
    · split <;> simp only [List.length_cons] <;> omega
    · exact le_rfl
  · exact le_rfl

theorem hexNumeral?_lt {n : Nat} (h : hexNumeral? cs = some n) : n < 16 ^ cs.length := by
  have hread {ds : List Char} (hds : grouped? 16 hexValue? (dropBaseMark ds) = some n)
      (hlength : ds.length ≤ cs.length) : n < 16 ^ cs.length := by
    have hlt := groupedFrom?_lt hds
    rw [Nat.zero_add, Nat.one_mul] at hlt
    exact hlt.trans_le
      (Nat.pow_le_pow_right (by decide) ((length_dropBaseMark_le ds).trans hlength))
  have hstrip := length_strip_le isSpace cs
  rw [hexNumeral?] at h
  split at h
  · next rest hplus =>
    rw [hplus, List.length_cons] at hstrip
    exact hread h (by omega)
  · exact hread h hstrip

theorem parse?_lt {s : String} (h : parse? s = some u) : u.value < 2 ^ 128 := by
  simp only [parse?] at h
  split at h
  · next hlength =>
    obtain ⟨n, hn, rfl⟩ := Option.map_eq_some_iff.mp h
    have := hexNumeral?_lt hn
    rw [hlength] at this
    exact this
  · cases h

end Uuid

end Multifiling
