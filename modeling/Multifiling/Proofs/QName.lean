import Mathlib.Data.List.Basic
import Multifiling.Proofs.Text
import Multifiling.QName

/-!
The two forms of a qualified name. A full form is read back as what was written, unless a brace
stands in it (`ofFullForm_fullForm`); a prefixed form is read if its prefix is one that may be
written (`parse_prefixed`), and refused otherwise (`parse_badPrefix`).
-/

namespace Multifiling
open Text

/-! ### Full forms -/

namespace QName

theorem splitFullForm?_eq_some_iff {cs uri localChars : List Char} :
    splitFullForm? cs = some (uri, localChars) ↔
      cs = '{' :: (uri ++ '}' :: localChars) ∧ (∀ c ∈ uri, isPlain c = true) ∧
        localChars ≠ [] ∧ ∀ c ∈ localChars, isPlain c = true := by
  constructor
  · intro h
    unfold splitFullForm? at h
    split at h
    · next cs =>
      split at h
      · next chars hdrop =>
        split at h
        · next hchars =>
          cases h
          simp only [Bool.and_eq_true, Bool.not_eq_true', List.isEmpty_eq_false_iff,
            List.all_eq_true] at hchars
          refine ⟨?_, fun c hc => List.mem_takeWhile_imp hc, hchars⟩
          rw [← hdrop, List.takeWhile_append_dropWhile]
        · cases h
      · cases h
    · cases h
  · rintro ⟨rfl, huri, hne, hlocal⟩
    have hbrace : isPlain '}' = false := by decide
    have hchars : (!localChars.isEmpty && localChars.all isPlain) = true :=
      Bool.and_eq_true_iff.mpr ⟨by simpa using hne, List.all_eq_true.mpr hlocal⟩
    simp only [splitFullForm?, dropWhile_append_cons huri hbrace,
      takeWhile_append_cons huri hbrace, if_pos hchars]

theorem fullForm_toList (q : QName) :
    q.fullForm.toList = '{' :: (q.namespaceUri.toList ++ '}' :: q.localName.toList) := by
  simp [fullForm]

theorem make_eq (q : QName) : make q.namespaceUri q.localName = .ok q := by
  rw [make, dif_neg q.localName_ne]

/-- Whether no brace stands in a text. -/
def isPlainText (s : String) : Bool := s.toList.all isPlain

theorem isPlainText_iff {s : String} : isPlainText s = true ↔ ∀ c ∈ s.toList, isPlain c = true :=
  List.all_eq_true

theorem ne_brace_of_isPlain {cs : List Char} (h : ∀ c ∈ cs, isPlain c = true) : '}' ∉ cs :=
  fun hmem => Bool.false_ne_true (h '}' hmem)

/-- Names whose local names are free of braces are told apart by their full forms, whatever stands
in their URIs. -/
theorem fullForm_inj {p q : QName} (hp : isPlainText p.localName = true)
    (hq : isPlainText q.localName = true) (h : p.fullForm = q.fullForm) : p = q := by
  have hchars := congrArg String.toList h
  rw [fullForm_toList, fullForm_toList] at hchars
  -- read from the end, the local name reaches up to the first brace
  obtain ⟨huri, -, hlocal⟩ := append_cons_inj_of_notMem_back
    (ne_brace_of_isPlain (isPlainText_iff.mp hp)) (ne_brace_of_isPlain (isPlainText_iff.mp hq))
    (List.cons.inj hchars).2
  exact QName.ext (String.toList_inj.mp huri) (String.toList_inj.mp hlocal)

/-- A full form is read if no brace stands in its parts, and then as what was written. -/
theorem ofFullForm_fullForm (q : QName) :
    ofFullForm (some q.fullForm) =
      if isPlainText q.namespaceUri && isPlainText q.localName then .ok q
      else .error ⟨.malformed, some q.fullForm⟩ := by
  rw [ofFullForm, Option.getD_some, fullForm_toList]
  split
  · next uri localChars hsplit =>
    obtain ⟨heq, huri, -, hlocal⟩ := splitFullForm?_eq_some_iff.mp hsplit
    -- the parts that are found are free of braces, so the text can be cut in no other way
    obtain ⟨rfl, -, rfl⟩ := (List.append_cons_inj_of_notMem (ne_brace_of_isPlain huri)
      (ne_brace_of_isPlain hlocal)).mp (List.cons.inj heq).2.symm
    rw [isPlainText_iff.mpr huri, isPlainText_iff.mpr hlocal, String.ofList_toList,
      String.ofList_toList, make_eq]
    rfl
  · next hsplit =>
    rw [if_neg]
    intro h
    obtain ⟨huri, hlocal⟩ := Bool.and_eq_true_iff.mp h
    have hne : q.localName.toList ≠ [] := by simpa using q.localName_ne
    rw [splitFullForm?_eq_some_iff.mpr ⟨rfl, isPlainText_iff.mp huri, hne,
      isPlainText_iff.mp hlocal⟩] at hsplit
    cases hsplit

end QName

/-! ### Prefixed forms -/

namespace PrefixedName

/-- Whether the characters are a prefix that may be written. -/
def isPrefix : List Char → Bool
  | [] => false
  | c :: cs => startsPrefix c && cs.all continuesPrefix

theorem continuesPrefix_colon : continuesPrefix ':' = false := by decide +kernel

theorem isPrefix_colon {cs : List Char} (h : isPrefix cs = true) : ':' ∉ cs := by
  cases cs with
  | nil => exact List.not_mem_nil
  | cons c cs =>
    simp only [isPrefix, Bool.and_eq_true, List.all_eq_true] at h
    intro hmem
    rcases List.mem_cons.mp hmem with rfl | hmem
    · exact absurd h.1 (by decide)
    · exact absurd (h.2 ':' hmem) (by simp [continuesPrefix_colon])

theorem isLocalName_isLocal {cs : List Char} (h : isLocalName cs = true) :
    ∀ c ∈ cs, isLocal c = true := by
  cases cs with
  | nil => exact nofun
  | cons c cs => exact List.all_eq_true.mp (Bool.and_eq_true_iff.mp h).2

theorem isLocalName_colon {cs : List Char} (h : isLocalName cs = true) : ':' ∉ cs :=
  fun hmem => Bool.false_ne_true (isLocalName_isLocal h ':' hmem)

theorem splitChars?_eq_some_iff {cs nsPrefix localChars : List Char} :
    splitChars? cs = some (nsPrefix, localChars) ↔
      cs = nsPrefix ++ ':' :: localChars ∧ isPrefix nsPrefix = true ∧
        isLocalName localChars = true := by
  constructor
  · intro h
    unfold splitChars? at h
    split at h
    · cases h
    · next c cs =>
      split at h
      · next hstart =>
        split at h
        · next chars hdrop =>
          split at h
          · next hlocal =>
            cases h
            refine ⟨?_, ?_, hlocal⟩
            · rw [List.cons_append, ← hdrop, List.takeWhile_append_dropWhile]
            · rw [isPrefix, hstart, List.all_takeWhile]
              rfl
          · cases h
        · cases h
      · cases h
  · rintro ⟨rfl, hns, hlocal⟩
    cases nsPrefix with
    | nil => cases hns
    | cons c cs =>
      simp only [isPrefix, Bool.and_eq_true, List.all_eq_true] at hns
      simp only [List.cons_append, splitChars?, hns.1, if_true,
        dropWhile_append_cons hns.2 continuesPrefix_colon,
        takeWhile_append_cons hns.2 continuesPrefix_colon, if_pos hlocal]

/-- A local name as it is read from a prefixed form: no blank stands at its end either. -/
structure IsLocal (localName : String) : Prop where
  chars : isLocalName localName.toList = true
  last : ∀ c ∈ localName.toList.getLast?, isBlank c = false

namespace IsLocal

variable {localName : String}

theorem ne_nil (h : IsLocal localName) : localName.toList ≠ [] := by
  intro hnil
  have := h.chars
  rw [hnil] at this
  cases this

/-- No brace stands in such a local name. -/
theorem isPlainText (h : IsLocal localName) : QName.isPlainText localName = true := by
  refine QName.isPlainText_iff.mpr fun c hc => ?_
  have := isLocalName_isLocal h.chars c hc
  simp only [PrefixedName.isLocal, Bool.and_eq_true, decide_eq_true_eq] at this
  simp [QName.isPlain, this]

/-- No colon stands in such a local name. -/
theorem notMem_colon (h : IsLocal localName) : ':' ∉ localName.toList := isLocalName_colon h.chars

theorem of_stripped (hne : localName ≠ "")
    (hchars : ∀ c ∈ localName.toList, c ≠ ':' ∧ c ≠ '{' ∧ c ≠ '}')
    (hends : Stripped isBlank localName.toList) : IsLocal localName where
  chars := by
    have hall : localName.toList.all PrefixedName.isLocal = true := by
      simpa [PrefixedName.isLocal, and_assoc] using hchars
    cases hcs : localName.toList with
    | nil => exact absurd (String.toList_eq_nil_iff.mp hcs) hne
    | cons c cs =>
      have hfirst : isBlank c = false := hends.first c (by rw [hcs]; rfl)
      rw [isLocalName, hfirst, ← hcs, hall]
      rfl
  last := hends.last

end IsLocal

variable {nsPrefix localName s : String} {name : PrefixedName}

/-- A text is the prefixed form of a name, with blanks around it. -/
structure WrittenAs (name : PrefixedName) (s : String) : Prop where
  trimmed : trimChars s.toList = name.nsPrefix.toList ++ ':' :: name.localName.toList
  nsPrefix : isPrefix name.nsPrefix.toList = true
  localName : isLocalName name.localName.toList = true

theorem parse_ok_iff : parse (some s) = .ok name ↔ name.WrittenAs s := by
  have hwritten : name.WrittenAs s ↔
      splitChars? (trimChars s.toList) = some (name.nsPrefix.toList, name.localName.toList) := by
    rw [splitChars?_eq_some_iff]
    exact ⟨fun h => ⟨h.trimmed, h.nsPrefix, h.localName⟩, fun h => ⟨h.1, h.2.1, h.2.2⟩⟩
  rw [hwritten]
  simp only [parse]
  split
  · next hblank =>
    rw [trimChars, strip_of_forall (List.all_eq_true.mp hblank)]
    exact ⟨nofun, nofun⟩
  · split
    · next p l hsplit =>
      rw [hsplit]
      constructor
      · intro h
        cases h
        simp
      · intro h
        cases h
        simp
    · next hsplit =>
      rw [hsplit]
      exact ⟨nofun, nofun⟩

/-- A text is the prefixed form of one name only. -/
theorem WrittenAs.unique {other : PrefixedName} (h : name.WrittenAs s) (hother : other.WrittenAs s) :
    name = other :=
  Except.ok.inj ((parse_ok_iff.mpr h).symm.trans (parse_ok_iff.mpr hother))

/-- What is read are a prefix and a local name that may be written. -/
theorem parse_ok {value : Option String} (h : parse value = .ok name) :
    isPrefix name.nsPrefix.toList = true ∧ IsLocal name.localName := by
  cases value with
  | none => cases h
  | some s =>
    obtain ⟨htrim, hns, hlocal⟩ := parse_ok_iff.mp h
    refine ⟨hns, hlocal, fun c hc => (strip_stripped isBlank s.toList).last c ?_⟩
    have hne : name.localName.toList ≠ [] := fun hnil => by rw [hnil] at hlocal; cases hlocal
    rw [← trimChars, htrim, List.getLast?_append_of_ne_nil _ (List.cons_ne_nil _ _),
      List.getLast?_cons_of_ne_nil hne]
    exact hc

theorem isBlank_of_startsPrefix {c : Char} (h : startsPrefix c = true) : isBlank c = false := by
  have hrange : 65 ≤ c.toNat ∧ c.toNat ≤ 122 := by
    rcases Bool.or_eq_true_iff.mp h with h | h
    · rcases Bool.or_eq_true_iff.mp h with h | h
      · have hupper : 65 ≤ c.toNat ∧ c.toNat ≤ 90 := of_decide_eq_true h
        omega
      · obtain ⟨hfirst, hlast⟩ := Bool.and_eq_true_iff.mp h
        have hlower : 97 ≤ c.toNat ∧ c.toNat ≤ 122 :=
          ⟨of_decide_eq_true hfirst, of_decide_eq_true hlast⟩
        omega
    · rw [of_decide_eq_true h]
      decide
  simp [isBlank, isSpace]
  omega

/-- A text without blanks at its ends that has no prefixed form. -/
theorem parse_malformed (hne : s.toList ≠ []) (hs : Stripped isBlank s.toList)
    (h : splitChars? s.toList = none) :
    parse (some s) = .error ⟨.malformed, some s⟩ := by
  simp only [parse, hs.notBlank hne, trimChars, hs.strip_eq, h]
  rfl

/-- A prefix, a colon and a local name. -/
theorem prefixed_toList (nsPrefix localName : String) :
    (nsPrefix ++ ":" ++ localName).toList = nsPrefix.toList ++ ':' :: localName.toList := by
  simp

theorem stripped_prefixed (hne : nsPrefix ≠ "")
    (hfirst : ∀ c ∈ nsPrefix.toList.head?, isBlank c = false) (hlocal : IsLocal localName) :
    Stripped isBlank (nsPrefix ++ ":" ++ localName).toList := by
  rw [prefixed_toList]
  refine .append (by simpa using hne) (List.cons_ne_nil _ _) hfirst ?_
  rw [List.getLast?_cons_of_ne_nil hlocal.ne_nil]
  exact hlocal.last

/-- A prefix and a local name that may be written are read as they are. -/
theorem parse_prefixed (hns : isPrefix nsPrefix.toList = true) (hlocal : IsLocal localName) :
    parse (some (nsPrefix ++ ":" ++ localName)) = .ok ⟨nsPrefix, localName⟩ := by
  have hne : nsPrefix ≠ "" := by rintro rfl; cases hns
  have hfirst : ∀ c ∈ nsPrefix.toList.head?, isBlank c = false := by
    intro c hc
    obtain ⟨cs, hcs⟩ := List.head?_eq_some_iff.mp hc
    rw [hcs, isPrefix, Bool.and_eq_true] at hns
    exact isBlank_of_startsPrefix hns.1
  refine parse_ok_iff.mpr ⟨?_, hns, hlocal.chars⟩
  rw [trimChars, (stripped_prefixed hne hfirst hlocal).strip_eq, prefixed_toList]

/-- Behind any other prefix a local name is not read. -/
theorem parse_badPrefix (htrimmed : Trimmed nsPrefix)
    (hns : isPrefix nsPrefix.toList = false) (hlocal : IsLocal localName) :
    parse (some (nsPrefix ++ ":" ++ localName)) =
      .error ⟨.malformed, some (nsPrefix ++ ":" ++ localName)⟩ := by
  refine parse_malformed ?_ (stripped_prefixed htrimmed.ne htrimmed.ends.first hlocal) ?_
  · rw [prefixed_toList]
    exact List.append_ne_nil_of_right_ne_nil _ (List.cons_ne_nil _ _)
  · rw [prefixed_toList]
    by_contra h
    obtain ⟨⟨p, l⟩, hsplit⟩ := Option.ne_none_iff_exists'.mp h
    obtain ⟨heq, hp, hl⟩ := splitChars?_eq_some_iff.mp hsplit
    -- neither side of the colon that is found holds a colon, so it is the one that was written
    obtain ⟨rfl, -⟩ := (List.append_cons_inj_of_notMem (isPrefix_colon hp)
      (isLocalName_colon hl)).mp heq.symm
    rw [hp] at hns
    cases hns

/-- A full form is no prefixed form. -/
theorem parse_fullForm {q : QName} (hlocal : IsLocal q.localName) :
    parse (some q.fullForm) = .error ⟨.malformed, some q.fullForm⟩ := by
  refine parse_malformed (by rw [QName.fullForm_toList]; exact List.cons_ne_nil _ _) ?_
    (by rw [QName.fullForm_toList]; rfl)
  rw [QName.fullForm_toList, ← List.cons_append, List.append_cons]
  refine .append (List.cons_ne_nil _ _) hlocal.ne_nil ?_ hlocal.last
  rintro c hc
  cases hc
  decide

end PrefixedName

end Multifiling
