import Multifiling.Proofs.QName
import Multifiling.Proofs.Text.Pattern

/-!
The two forms of a qualified name as grammars. Just the texts that the grammar allows are read, and
in the one way in which they can be cut: full forms stand for the names without braces one to one
(`ofFullForm_exact`), and a prefixed form is the same name however many blanks are put around it
(`parse_exact`). Both grammars are patterns too, in which no run is ever given back and the line
feed at the end of a text is not passed over (`match?_fullFormPieces`, `match?_prefixedPieces`).
-/

namespace Multifiling
open Text

/-! ### Full forms -/

namespace QName

variable {cs uri localChars : List Char} {s : String} {q : QName}

/-- No brace stands among the characters. -/
def BraceFree (cs : List Char) : Prop := '{' ∉ cs ∧ '}' ∉ cs

theorem braceFree_iff : BraceFree cs ↔ ∀ c ∈ cs, isPlain c = true := by
  simp only [BraceFree, isPlain, Bool.and_eq_true, decide_eq_true_eq]
  constructor
  · rintro ⟨hopen, hclose⟩ c hc
    exact ⟨fun h => hopen (h ▸ hc), fun h => hclose (h ▸ hc)⟩
  · intro h
    exact ⟨fun hc => (h _ hc).1 rfl, fun hc => (h _ hc).2 rfl⟩

/-- A text is a URI in braces before a local name that is not empty, both free of braces. -/
structure FullFormOf (s : String) (uri localChars : List Char) : Prop where
  written : s.toList = '{' :: (uri ++ '}' :: localChars)
  uri : BraceFree uri
  localName : BraceFree localChars
  localName_ne : localChars ≠ []

theorem fullFormOf_iff :
    FullFormOf s uri localChars ↔ splitFullForm? s.toList = some (uri, localChars) := by
  rw [splitFullForm?_eq_some_iff, ← braceFree_iff, ← braceFree_iff]
  exact ⟨fun h => ⟨h.written, h.uri, h.localName_ne, h.localName⟩,
    fun h => ⟨h.1, h.2.1, h.2.2.2, h.2.2.1⟩⟩

theorem make_ok_iff {namespaceUri localName : String} :
    make namespaceUri localName = .ok q ↔
      namespaceUri = q.namespaceUri ∧ localName = q.localName := by
  rw [make]
  split
  · next hempty =>
    constructor
    · intro h
      cases h
    · intro h
      exact absurd (h.2.symm.trans hempty) q.localName_ne
  · rw [Except.ok.injEq, QName.ext_iff]

theorem ofFullForm_ok_iff :
    ofFullForm (some s) = .ok q ↔ FullFormOf s q.namespaceUri.toList q.localName.toList := by
  rw [fullFormOf_iff, ofFullForm, Option.getD_some]
  cases splitFullForm? s.toList with
  | none => simp
  | some parts =>
    obtain ⟨uri, localChars⟩ := parts
    simp only [make_ok_iff, String.ext_iff, String.toList_ofList, Option.some.injEq, Prod.mk.injEq]

theorem FullFormOf.exists_ok (h : FullFormOf s uri localChars) :
    ∃ q, ofFullForm (some s) = .ok q := by
  have hne : String.ofList localChars ≠ "" := by simpa using h.localName_ne
  refine ⟨⟨String.ofList uri, String.ofList localChars, hne⟩, ofFullForm_ok_iff.mpr ?_⟩
  simpa using h

theorem FullFormOf.fullForm_eq (h : FullFormOf s q.namespaceUri.toList q.localName.toList) :
    q.fullForm = s :=
  String.toList_inj.mp ((fullForm_toList q).trans h.written.symm)

theorem ofFullForm_error {value : Option String} {e : QNameError}
    (h : ofFullForm value = .error e) : e = ⟨.malformed, value⟩ := by
  rw [ofFullForm] at h
  split at h
  · next uri localChars hsplit =>
    -- the local name that is found is not empty
    have hne : String.ofList localChars ≠ "" := by
      simpa using (splitFullForm?_eq_some_iff.mp hsplit).2.2.1
    rw [make, dif_neg hne] at h
    cases h
  · cases h
    rfl

theorem ofFullForm_error_iff {value : Option String} {e : QNameError} :
    ofFullForm value = .error e ↔
      (∀ s ∈ value, ∀ uri localChars, ¬FullFormOf s uri localChars) ∧ e = ⟨.malformed, value⟩ := by
  constructor
  · intro h
    refine ⟨fun s hs uri localChars hform => ?_, ofFullForm_error h⟩
    obtain ⟨q, hq⟩ := hform.exists_ok
    rw [hs, hq] at h
    cases h
  · rintro ⟨hnone, rfl⟩
    cases h : ofFullForm value with
    | error e => rw [ofFullForm_error h]
    | ok q =>
      cases value with
      | none => cases h
      | some s => exact absurd (ofFullForm_ok_iff.mp h) (hnone s rfl _ _)

/-- The full form as a pattern. -/
def fullFormPieces : List Piece :=
  [.one (· = '{'), .run isPlain, .one (· = '}'), .one isPlain, .run isPlain]

/-- What the pattern takes of a full form. -/
def fullFormParts (uri localChars : List Char) : List (List Char) :=
  ['{'] :: uri :: ['}'] :: firstAndRest localChars

theorem match?_fullFormPieces (cs : List Char) :
    match? fullFormPieces cs = (splitFullForm? cs).map fun (uri, localChars) =>
      fullFormParts uri localChars := by
  have hsep : ∀ c, isPlain c = true → decide (c = '}') = false := by
    intro c hc
    simpa using (Bool.and_eq_true_iff.mp hc).2
  rw [fullFormPieces]
  cases cs with
  | nil => rfl
  | cons c cs =>
    rw [match?_one_cons]
    by_cases hc : c = '{'
    case neg => simp [hc, splitFullForm?]
    subst hc
    simp only [splitFullForm?, match?_run_one hsep, decide_true, if_true]
    cases cs.dropWhile isPlain with
    | nil => rfl
    | cons d ds =>
      rw [match?_one_cons, match?_one_run (by decide)]
      by_cases hd : d = '}'
      case neg => simp [hd]
      subst hd
      have hlocal : (ds.head?.any isPlain && ds.tail.all isPlain) =
          (!ds.isEmpty && ds.all isPlain) := by
        cases ds <;> rfl
      simp only [hlocal, decide_true, if_true]
      split <;> rfl

theorem match?_fullFormPieces_eq_some_iff :
    match? fullFormPieces cs = some (fullFormParts uri localChars) ↔
      splitFullForm? cs = some (uri, localChars) := by
  rw [match?_fullFormPieces, Option.map_eq_some_iff]
  constructor
  · rintro ⟨⟨uri', localChars'⟩, hsplit, hparts⟩
    simp only [fullFormParts, List.cons.injEq, true_and] at hparts
    obtain ⟨rfl, hlocal⟩ := hparts
    rw [hsplit, firstAndRest_inj.mp hlocal]
  · intro h
    exact ⟨_, h, rfl⟩

/-- Full forms are read exactly: a text is read just if it is one, and as a name of which it is the
full form. Names without braces are read back from their full forms, and a name with a brace is
refused rather than taken for another one. Whatever is not read is malformed. What the parts of a
name are can also be told by the pattern, though it may end in front of a last line feed. -/
theorem ofFullForm_exact :
    (∀ s, (∃ q, ofFullForm (some s) = .ok q) ↔ ∃ uri localChars, FullFormOf s uri localChars) ∧
    (∀ s q, ofFullForm (some s) = .ok q → q.fullForm = s) ∧
    (∀ q : QName, BraceFree q.namespaceUri.toList → BraceFree q.localName.toList →
      ofFullForm (some q.fullForm) = .ok q) ∧
    (∀ q : QName, ¬(BraceFree q.namespaceUri.toList ∧ BraceFree q.localName.toList) →
      ofFullForm (some q.fullForm) = .error ⟨.malformed, some q.fullForm⟩) ∧
    (∀ value e, ofFullForm value = .error e ↔
      (∀ s ∈ value, ∀ uri localChars, ¬FullFormOf s uri localChars) ∧ e = ⟨.malformed, value⟩) ∧
    ∀ s q, ofFullForm (some s) = .ok q ↔ match? fullFormPieces s.toList =
      some (fullFormParts q.namespaceUri.toList q.localName.toList) := by
  refine ⟨fun s => ⟨?_, ?_⟩, fun s q h => (ofFullForm_ok_iff.mp h).fullForm_eq,
    fun q huri hlocal => ?_, fun q hbrace => ?_, fun value e => ofFullForm_error_iff,
    fun s q => ?_⟩
  · rintro ⟨q, h⟩
    exact ⟨_, _, ofFullForm_ok_iff.mp h⟩
  · rintro ⟨uri, localChars, h⟩
    exact h.exists_ok
  · rw [ofFullForm_fullForm, isPlainText_iff.mpr (braceFree_iff.mp huri),
      isPlainText_iff.mpr (braceFree_iff.mp hlocal)]
    rfl
  · rw [ofFullForm_fullForm, if_neg]
    rw [Bool.and_eq_true, isPlainText_iff, isPlainText_iff, ← braceFree_iff, ← braceFree_iff]
    exact hbrace
  · rw [ofFullForm_ok_iff, fullFormOf_iff, match?_fullFormPieces_eq_some_iff]

/-- A last line feed belongs to the local name; a last brace is refused. -/
theorem ofFullForm_exact_lineFeed :
    ofFullForm (some "\x7b\x7da\n") = .ok ⟨"", "a\n", by decide⟩ ∧
    ofFullForm (some "\x7bu\x7da\x7d") = .error ⟨.malformed, some "\x7bu\x7da\x7d"⟩ := by
  obtain ⟨-, -, hread, hrefused, -⟩ := ofFullForm_exact
  exact ⟨hread ⟨"", "a\n", by decide⟩ ⟨by decide, by decide⟩ ⟨by decide, by decide⟩,
    hrefused ⟨"u", "a\x7d", by decide⟩ fun h => h.2.2 (by decide)⟩

end QName

/-! ### Prefixed forms -/

namespace PrefixedName

variable {cs nsPrefix localChars core : List Char} {s : String} {name : PrefixedName}
  {value : Option String}

/-- The characters are the prefixed form of a name: a prefix that begins with an ASCII letter or the
low line and goes on with word characters, full stops and hyphens; a colon; and a local name without
colons and braces that is not empty and does not begin with a blank. -/
structure FormOf (name : PrefixedName) (cs : List Char) : Prop where
  written : cs = name.nsPrefix.toList ++ ':' :: name.localName.toList
  nsPrefix : ∃ c rest, name.nsPrefix.toList = c :: rest ∧ (c.isAlpha = true ∨ c = '_') ∧
    ∀ d ∈ rest, isWord d = true ∨ d = '.' ∨ d = '-'
  localName_ne : name.localName ≠ ""
  localName : ∀ c ∈ name.localName.toList, c ≠ ':' ∧ c ≠ '{' ∧ c ≠ '}'
  localName_first : ∀ c ∈ name.localName.toList.head?, isBlank c = false

theorem isPrefix_iff : isPrefix cs = true ↔ ∃ c rest, cs = c :: rest ∧
    (c.isAlpha = true ∨ c = '_') ∧ ∀ d ∈ rest, isWord d = true ∨ d = '.' ∨ d = '-' := by
  cases cs with
  | nil => simp [isPrefix]
  | cons c rest => simp [isPrefix, startsPrefix, continuesPrefix, or_assoc]

theorem isLocalName_iff : isLocalName cs = true ↔ cs ≠ [] ∧
    (∀ c ∈ cs, c ≠ ':' ∧ c ≠ '{' ∧ c ≠ '}') ∧ ∀ c ∈ cs.head?, isBlank c = false := by
  cases cs with
  | nil => simp [isLocalName]
  | cons c rest => simp [isLocalName, isLocal, and_assoc, and_comm]

theorem formOf_iff : name.FormOf cs ↔
    splitChars? cs = some (name.nsPrefix.toList, name.localName.toList) := by
  rw [splitChars?_eq_some_iff, isPrefix_iff, isLocalName_iff, Ne, String.toList_eq_nil_iff]
  exact ⟨fun h => ⟨h.written, h.nsPrefix, h.localName_ne, h.localName, h.localName_first⟩,
    fun h => ⟨h.1, h.2.1, h.2.2.1, h.2.2.2.1, h.2.2.2.2⟩⟩

theorem parse_ok_iff_formOf :
    parse (some s) = .ok name ↔ ∃ core, Trims s.toList core ∧ name.FormOf core := by
  simp only [trims_iff, exists_eq_left', formOf_iff, splitChars?_eq_some_iff, parse_ok_iff]
  exact ⟨fun h => ⟨h.trimmed, h.nsPrefix, h.localName⟩, fun h => ⟨h.1, h.2.1, h.2.2⟩⟩

theorem parse_error {e : QNameError} (h : parse value = .error e) :
    e = ⟨if value.all isBlankText then .blank else .malformed, value⟩ := by
  cases value with
  | none =>
    cases h
    rfl
  | some s =>
    rw [Option.all_some]
    simp only [parse] at h
    split at h
    · next hblank =>
      cases h
      rw [if_pos hblank]
    · next hblank =>
      split at h
      · cases h
      · cases h
        rw [if_neg hblank]

theorem parse_error_iff {e : QNameError} : parse value = .error e ↔
    (∀ s ∈ value, ∀ name core, Trims s.toList core → ¬FormOf name core) ∧
      e = ⟨if value.all isBlankText then .blank else .malformed, value⟩ := by
  constructor
  · intro h
    refine ⟨fun s hs name core hcore hform => ?_, parse_error h⟩
    rw [hs, parse_ok_iff_formOf.mpr ⟨core, hcore, hform⟩] at h
    cases h
  · rintro ⟨hnone, rfl⟩
    cases h : parse value with
    | error e => rw [parse_error h]
    | ok name =>
      cases value with
      | none => cases h
      | some s =>
        obtain ⟨core, hcore, hform⟩ := parse_ok_iff_formOf.mp h
        exact absurd hform (hnone s rfl name core hcore)

/-- Blanks around a text show in the text that an error carries and nowhere else. -/
theorem parse_around (before after : Gap) (s : String) :
    (parse (some (String.ofList (before.chars ++ s.toList ++ after.chars)))).mapError (·.fault) =
      (parse (some s)).mapError (·.fault) := by
  have hblank : isBlankText (String.ofList (before.chars ++ s.toList ++ after.chars)) =
      isBlankText s := by
    rw [isBlankText, String.toList_ofList, List.all_append, List.all_append,
      List.all_eq_true.mpr before.blank, List.all_eq_true.mpr after.blank, Bool.true_and,
      Bool.and_true, isBlankText]
  simp only [parse, hblank, String.toList_ofList, trimChars_around]
  split
  · rfl
  · split <;> rfl

/-- The prefixed form as a pattern. -/
def prefixedPieces : List Piece :=
  [.one startsPrefix, .run continuesPrefix, .one (· = ':'), .one fun c => !isBlank c && isLocal c,
    .run isLocal]

/-- What the pattern takes of a prefixed form. -/
def prefixedParts (nsPrefix localChars : List Char) : List (List Char) :=
  firstAndRest nsPrefix ++ [':'] :: firstAndRest localChars

theorem match?_prefixedPieces (cs : List Char) :
    match? prefixedPieces cs = (splitChars? cs).map fun (nsPrefix, localChars) =>
      prefixedParts nsPrefix localChars := by
  have hsep : ∀ c, continuesPrefix c = true → decide (c = ':') = false := by
    intro c hc
    rw [decide_eq_false_iff_not]
    rintro rfl
    rw [continuesPrefix_colon] at hc
    cases hc
  rw [prefixedPieces]
  cases cs with
  | nil => rfl
  | cons c cs =>
    rw [match?_one_cons, splitChars?, match?_run_one hsep]
    cases startsPrefix c with
    | false => rfl
    | true =>
      simp only [if_true]
      cases cs.dropWhile continuesPrefix with
      | nil => rfl
      | cons d ds =>
        rw [match?_one_cons, match?_one_run (by decide)]
        by_cases hd : d = ':'
        case neg => simp [hd]
        subst hd
        have hlocal : (ds.head?.any (fun c => !isBlank c && isLocal c) && ds.tail.all isLocal) =
            isLocalName ds := by
          cases ds with
          | nil => rfl
          | cons e es => exact Bool.and_assoc ..
        simp only [hlocal, decide_true, if_true]
        split <;> rfl

theorem match?_prefixedPieces_eq_some_iff :
    match? prefixedPieces cs = some (prefixedParts nsPrefix localChars) ↔
      splitChars? cs = some (nsPrefix, localChars) := by
  rw [match?_prefixedPieces, Option.map_eq_some_iff]
  constructor
  · rintro ⟨⟨nsPrefix', localChars'⟩, hsplit, hparts⟩
    obtain ⟨hns, hlocal⟩ := List.append_inj hparts rfl
    rw [hsplit, firstAndRest_inj.mp hns, firstAndRest_inj.mp (List.cons.inj hlocal).2]
  · intro h
    exact ⟨_, h, rfl⟩

/-- Prefixed forms are read exactly: as the parts of a name just if the text, without the blanks
around it, is the prefixed form of that name. Whatever is no prefixed form is an error. The local
name does not end in a blank, blanks around the text make no difference, and what was read is read
again from its two parts. The parts of a name can also be told by the pattern. -/
theorem parse_exact :
    (∀ s name, parse (some s) = .ok name ↔ ∃ core, Trims s.toList core ∧ name.FormOf core) ∧
    (∀ value e, parse value = .error e ↔
      (∀ s ∈ value, ∀ name core, Trims s.toList core → ¬FormOf name core) ∧
        e = ⟨if value.all isBlankText then .blank else .malformed, value⟩) ∧
    (∀ value name, parse value = .ok name →
      ∀ c ∈ name.localName.toList.getLast?, isBlank c = false) ∧
    (∀ (before after : Gap) (s : String),
      (parse (some (String.ofList (before.chars ++ s.toList ++ after.chars)))).mapError (·.fault) =
        (parse (some s)).mapError (·.fault)) ∧
    (∀ value name, parse value = .ok name →
      parse (some (name.nsPrefix ++ ":" ++ name.localName)) = .ok name) ∧
    ∀ s name, parse (some s) = .ok name ↔ match? prefixedPieces (trimChars s.toList) =
      some (prefixedParts name.nsPrefix.toList name.localName.toList) := by
  refine ⟨fun s name => parse_ok_iff_formOf, fun value e => parse_error_iff,
    fun value name h => (parse_ok h).2.last, parse_around, fun value name h => ?_,
    fun s name => ?_⟩
  · obtain ⟨hns, hlocal⟩ := parse_ok h
    exact parse_prefixed hns hlocal
  · simp only [match?_prefixedPieces_eq_some_iff, parse_ok_iff_formOf, trims_iff, exists_eq_left',
      formOf_iff]

/-- A tab and a line feed around the form of the built-in type are passed over. -/
theorem parse_exact_contains :
    (parse (some "\tcm:contains\n")).mapError (·.fault) = .ok ⟨"cm", "contains"⟩ ∧
    parse (some "cm:contains") = .ok ⟨"cm", "contains"⟩ := by
  obtain ⟨hread, -, -, haround, hagain, -⟩ := parse_exact
  have hcore : Trims "\tcm:contains".toList "cm:contains".toList :=
    trims_iff.mpr (by decide +kernel)
  have hform : FormOf ⟨"cm", "contains"⟩ "cm:contains".toList := formOf_iff.mpr (by decide +kernel)
  have hok := hagain _ _ ((hread "\tcm:contains" ⟨"cm", "contains"⟩).mpr ⟨_, hcore, hform⟩)
  have haround := haround ⟨['\t'], List.forall_mem_singleton.mpr (by decide)⟩
    ⟨['\n'], List.forall_mem_singleton.mpr (by decide)⟩ "cm:contains"
  exact ⟨haround.trans (congrArg (Except.mapError (·.fault)) hok), hok⟩

end PrefixedName

end Multifiling
