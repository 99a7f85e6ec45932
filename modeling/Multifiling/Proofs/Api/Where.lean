import Multifiling.Api.Query
import Multifiling.Proofs.Text

/-!
The clause that names an association type. A text is read as a clause just if it is laid out as one
around a text without quotes (`clauseValue?_eq_some_iff`). So the parameter is absent or blank, or a
clause around one text, or refused (`readWhere_exact`). The clause as a client writes it is read as
the text between its quotes, unless a quote stands in that text (`readWhere_clauseFor`).
-/

namespace Multifiling.Api
open Text

/-- How a clause is laid out: its quotes, which are of one kind, and the gaps between its parts. -/
structure Layout where
  quote : Char
  quote_isQuote : isQuote quote = true
  opening : Gap
  afterName : Gap
  afterSign : Gap
  closing : Gap

/-- The clause of this layout around a text. -/
def Layout.clause (l : Layout) (value : List Char) : List Char :=
  '(' :: (l.opening.chars ++ ("assocType".toList ++ (l.afterName.chars ++ '=' ::
    (l.afterSign.chars ++ l.quote :: (value ++ l.quote :: (l.closing.chars ++ [')']))))))

/-- Neither quote character stands in a text. -/
def QuoteFree (value : List Char) : Prop := ∀ c ∈ value, isQuote c = false

/-- A text, without the blanks around it, is a clause around another one. -/
structure ClauseOf (value text : String) : Prop where
  quoteFree : QuoteFree value.toList
  written : ∃ l : Layout, trimChars text.toList = l.clause value.toList

/-! ### Words and gaps -/

variable {cs value value' word rest : List Char} {c : Char}

theorem dropWord?_append (word rest : List Char) : dropWord? word (word ++ rest) = some rest := by
  induction word with
  | nil => rfl
  | cons w word ih => rw [List.cons_append, dropWord?, if_pos rfl, ih]

theorem dropWord?_eq_some_iff : dropWord? word cs = some rest ↔ cs = word ++ rest := by
  constructor
  · intro h
    induction word generalizing cs with
    | nil => exact Option.some.inj h
    | cons w word ih =>
      cases cs with
      | nil => cases h
      | cons c cs =>
        rw [dropWord?] at h
        split at h
        · next hw => rw [ih h, hw, List.cons_append]
        · cases h
  · rintro rfl
    exact dropWord?_append word rest

theorem exists_gap (cs : List Char) : ∃ gap : Gap, cs = gap.chars ++ skipBlanks cs :=
  ⟨⟨cs.takeWhile isBlank, fun _ hc => List.mem_takeWhile_imp hc⟩,
    List.takeWhile_append_dropWhile.symm⟩

theorem skipBlanks_gap (gap : Gap) (hc : isBlank c = false) (rest : List Char) :
    skipBlanks (gap.chars ++ c :: rest) = c :: rest :=
  dropWhile_append_cons gap.blank hc

theorem isBlank_of_isQuote (h : isQuote c = true) : isBlank c = false := by
  rcases Bool.or_eq_true_iff.mp h with h | h <;>
  · cases of_decide_eq_true h
    decide

theorem QuoteFree.countP (h : QuoteFree value) : value.countP isQuote = 0 :=
  List.countP_eq_zero.mpr fun c hc => Bool.eq_false_iff.mp (h c hc)

theorem QuoteFree.all (h : QuoteFree value) : ∀ c ∈ value, (!isQuote c) = true :=
  fun c hc => by rw [h c hc]; rfl

/-! ### Clauses -/

theorem exists_layout (h : clauseValue? cs = some value) :
    QuoteFree value ∧ ∃ l : Layout, cs = l.clause value := by
  unfold clauseValue? at h
  simp only [Option.bind_eq_bind, Option.bind_eq_some_iff, dropWord?_eq_some_iff] at h
  obtain ⟨named, rfl, signed, hnamed, quoted, hsigned, h⟩ := h
  obtain ⟨opening, hopening⟩ := exists_gap named
  obtain ⟨afterName, hafterName⟩ := exists_gap signed
  obtain ⟨afterSign, hafterSign⟩ := exists_gap quoted
  split at h
  · next quote behind hquoted =>
    split at h
    · next hquote =>
      obtain ⟨closed, hclosed, h⟩ := Option.bind_eq_some_iff.mp h
      obtain ⟨closing, hclosing⟩ := exists_gap closed
      split at h
      · next hend =>
        have hvalue : behind.takeWhile (!isQuote ·) = value := Option.some.inj h
        have hbehind : behind = value ++ quote :: closed := by
          rw [← hvalue, ← List.singleton_append, ← dropWord?_eq_some_iff.mp hclosed,
            List.takeWhile_append_dropWhile]
        refine ⟨fun c hc => ?_, ⟨quote, hquote, opening, afterName, afterSign, closing⟩, ?_⟩
        · rw [← hvalue] at hc
          simpa using List.mem_takeWhile_imp hc
        · rw [hopening, hnamed, hafterName, hsigned, hafterSign, hquoted, hbehind, hclosing, hend]
          rfl
      · cases h
    · cases h
  · cases h

theorem clauseValue?_clause (l : Layout) (h : QuoteFree value) :
    clauseValue? (l.clause value) = some value := by
  have hquote : (!isQuote l.quote) = false := by rw [l.quote_isQuote]; rfl
  have hname (rest : List Char) : skipBlanks (l.opening.chars ++ ("assocType".toList ++ rest)) =
      "assocType".toList ++ rest :=
    skipBlanks_gap (c := 'a') l.opening (by decide) _
  have hsign (rest : List Char) : skipBlanks (l.afterName.chars ++ '=' :: rest) = ['='] ++ rest :=
    skipBlanks_gap l.afterName (by decide) rest
  unfold clauseValue?
  simp only [Option.bind_eq_bind, Option.bind_eq_some_iff, dropWord?_eq_some_iff]
  refine ⟨_, rfl, _, hname _, _, hsign _, ?_⟩
  rw [skipBlanks_gap l.afterSign (isBlank_of_isQuote l.quote_isQuote)]
  simp only [if_pos l.quote_isQuote, dropWhile_append_cons h.all hquote,
    takeWhile_append_cons h.all hquote, Option.bind_eq_some_iff, dropWord?_eq_some_iff]
  exact ⟨_, rfl, if_pos (skipBlanks_gap l.closing (by decide) [])⟩

/-- A text is read as a clause just if it is laid out as one around a text without quotes. -/
theorem clauseValue?_eq_some_iff :
    clauseValue? cs = some value ↔ QuoteFree value ∧ ∃ l : Layout, cs = l.clause value := by
  constructor
  · exact exists_layout
  · rintro ⟨hvalue, l, rfl⟩
    exact clauseValue?_clause l hvalue

theorem Gap.countP_isQuote (gap : Gap) : gap.chars.countP isQuote = 0 := by
  refine List.countP_eq_zero.mpr fun c hc hquote => ?_
  have hblank := gap.blank c hc
  rw [isBlank_of_isQuote hquote] at hblank
  cases hblank

/-- A clause holds two quotes more than the text that it is around. -/
theorem Layout.countP_clause (l : Layout) (value : List Char) :
    (l.clause value).countP isQuote = value.countP isQuote + 2 := by
  have hname : "assocType".toList.countP isQuote = 0 := by decide
  have hopen : isQuote '(' = false := by decide
  have hsign : isQuote '=' = false := by decide
  have hclose : isQuote ')' = false := by decide
  rw [Layout.clause]
  simp only [List.countP_cons, List.countP_append, List.countP_nil, Gap.countP_isQuote, hname,
    hopen, hsign, hclose, l.quote_isQuote, if_true, Bool.false_eq_true, if_false]
  omega

theorem Layout.stripped_clause (l : Layout) (value : List Char) :
    Stripped isBlank (l.clause value) := by
  obtain ⟨middle, hmiddle⟩ : ∃ middle, l.clause value = ['('] ++ (middle ++ [')']) :=
    ⟨l.opening.chars ++ ("assocType".toList ++ (l.afterName.chars ++ '=' ::
      (l.afterSign.chars ++ l.quote :: (value ++ l.quote :: l.closing.chars)))),
      by simp [Layout.clause]⟩
  rw [hmiddle]
  refine .append (List.cons_ne_nil _ _) (by simp) ?_ ?_
  · rintro c hc
    cases hc
    decide
  · intro c hc
    rw [List.getLast?_concat] at hc
    cases hc
    decide

/-! ### Parameters -/

/-- What comes of the parameter that names an association type. -/
inductive WhereOutcome : Option String → Except QueryError (Option String) → Prop where
  | absent : WhereOutcome none (.ok none)
  | blank {text : String} (hblank : ∀ c ∈ text.toList, isBlank c = true) :
    WhereOutcome (some text) (.ok none)
  | clause {text value : String} (h : ClauseOf value text) :
    WhereOutcome (some text) (.ok (some value))
  | refused {text : String} (hblank : ¬∀ c ∈ text.toList, isBlank c = true)
    (hnone : ∀ value, ¬ClauseOf value text) : WhereOutcome (some text) (.error (.badWhere text))

theorem WhereOutcome.exists_of (given : Option String) : ∃ outcome, WhereOutcome given outcome := by
  cases given with
  | none => exact ⟨_, .absent⟩
  | some text =>
    by_cases hblank : ∀ c ∈ text.toList, isBlank c = true
    · exact ⟨_, .blank hblank⟩
    · by_cases hclause : ∃ value, ClauseOf value text
      · obtain ⟨value, h⟩ := hclause
        exact ⟨_, .clause h⟩
      · exact ⟨_, .refused hblank (not_exists.mp hclause)⟩

section
variable {text value value' : String} {given : Option String}
  {outcome : Except QueryError (Option String)}

theorem clauseOf_iff :
    ClauseOf value text ↔ clauseValue? (trimChars text.toList) = some value.toList := by
  rw [clauseValue?_eq_some_iff]
  exact ⟨fun h => ⟨h.quoteFree, h.written⟩, fun h => ⟨h.1, h.2⟩⟩

theorem ClauseOf.unique (h : ClauseOf value text) (h' : ClauseOf value' text) : value = value' := by
  have hread := clauseOf_iff.mp h
  rw [clauseOf_iff.mp h', Option.some.injEq] at hread
  exact String.toList_inj.mp hread.symm

theorem Layout.notBlank {l : Layout} {value : List Char}
    (h : trimChars text.toList = l.clause value) : ¬∀ c ∈ text.toList, isBlank c = true := by
  intro hblank
  rw [trimChars, strip_of_forall hblank] at h
  cases h

theorem ClauseOf.notBlank (h : ClauseOf value text) : ¬∀ c ∈ text.toList, isBlank c = true := by
  obtain ⟨-, l, hl⟩ := h
  exact l.notBlank hl

theorem readWhere_of (h : WhereOutcome given outcome) : readWhere given = outcome := by
  have hnot {text : String} (hb : ¬∀ c ∈ text.toList, isBlank c = true) :
      isBlankText text = false := Bool.eq_false_iff.mpr fun hall => hb (List.all_eq_true.mp hall)
  cases h with
  | absent => rfl
  | @blank text hblank =>
    have hall : isBlankText text = true := List.all_eq_true.mpr hblank
    simp only [readWhere, hall, if_true]
  | clause h =>
    simp only [readWhere, hnot h.notBlank, clauseOf_iff.mp h, String.ofList_toList]
    rfl
  | @refused text hblank hnone =>
    have hread : clauseValue? (trimChars text.toList) = none := by
      refine Option.eq_none_iff_forall_ne_some.mpr fun value hvalue => ?_
      exact hnone (String.ofList value) (clauseOf_iff.mpr (by rwa [String.toList_ofList]))
    simp only [readWhere, hnot hblank, hread]
    rfl

theorem readWhere_eq_iff : readWhere given = outcome ↔ WhereOutcome given outcome := by
  refine ⟨fun h => ?_, readWhere_of⟩
  obtain ⟨outcome', houtcome⟩ := WhereOutcome.exists_of given
  rwa [← h, readWhere_of houtcome]

/-- Blanks may stand around a clause. -/
theorem Layout.clauseOf (l : Layout) (before after : Gap) (h : QuoteFree value.toList) :
    ClauseOf value (String.ofList (before.chars ++ l.clause value.toList ++ after.chars)) where
  quoteFree := h
  written := by
    rw [String.toList_ofList, trimChars_around, trimChars, (l.stripped_clause _).strip_eq]
    exact ⟨l, rfl⟩

end

/-- The parameter that names an association type is read as nothing just if it is absent or blank,
and as a text just if it is a clause around that text, which is then the only one. Any other is
refused. -/
theorem readWhere_exact (given : Option String) :
    (readWhere given = .ok none ↔ ∀ text ∈ given, ∀ c ∈ text.toList, isBlank c = true) ∧
    (∀ value, readWhere given = .ok (some value) ↔ ∃ text ∈ given, ClauseOf value text) ∧
    (∀ text value value', ClauseOf value text → ClauseOf value' text → value = value') ∧
    (∀ e, readWhere given = .error e ↔ ∃ text ∈ given,
      (¬∀ c ∈ text.toList, isBlank c = true) ∧ (∀ value, ¬ClauseOf value text) ∧
        e = .badWhere text) ∧
    (∀ e, readWhere given = .error e → e.status = 400) ∧
    ∀ (before after : Gap) (l : Layout) (value : String), QuoteFree value.toList →
      readWhere (some (String.ofList (before.chars ++ l.clause value.toList ++ after.chars))) =
        .ok (some value) := by
  refine ⟨?_, fun value => ?_, fun text value value' h h' => h.unique h', fun e => ?_,
    fun e _ => rfl, fun before after l value h => readWhere_of (.clause (l.clauseOf before after h))⟩
  · rw [readWhere_eq_iff]
    constructor
    · intro h
      cases h with
      | absent => exact nofun
      | blank hblank =>
        intro text htext
        cases htext
        exact hblank
    · intro h
      cases given with
      | none => exact .absent
      | some text => exact .blank (h text rfl)
  · rw [readWhere_eq_iff]
    constructor
    · rintro (_ | _ | h)
      exact ⟨_, rfl, h⟩
    · rintro ⟨text, rfl, h⟩
      exact .clause h
  · rw [readWhere_eq_iff]
    constructor
    · rintro (_ | _ | _ | ⟨hblank, hnone⟩)
      exact ⟨_, rfl, hblank, hnone, rfl⟩
    · rintro ⟨text, rfl, hblank, hnone, rfl⟩
      exact .refused hblank hnone

/-- A text that looks like a clause may stand in one. -/
example : readWhere (some "\n( assocType = \"(assocType=) \" )\t") = .ok (some "(assocType=) ") := by
  decide +kernel

/-! ### Clauses as clients write them -/

/-- The clause for the association type that a text names. -/
def clauseFor (type : String) : String := "(assocType='" ++ type ++ "')"

/-- No gaps, and single quotes. -/
def Layout.plain : Layout :=
  ⟨'\'', rfl, .empty, .empty, .empty, .empty⟩

theorem trimChars_clauseFor (type : String) :
    trimChars (clauseFor type).toList = Layout.plain.clause type.toList := by
  have hchars : (clauseFor type).toList = Layout.plain.clause type.toList := by
    simp [clauseFor, Layout.clause, Layout.plain, Gap.empty]
  rw [hchars, trimChars, (Layout.stripped_clause _ _).strip_eq]

theorem readWhere_clauseFor (type : String) :
    readWhere (some (clauseFor type)) =
      if type.toList.any isQuote then .error (.badWhere (clauseFor type)) else .ok (some type) := by
  have hwritten := trimChars_clauseFor type
  cases hquotes : type.toList.any isQuote with
  | true =>
    rw [if_pos rfl]
    refine readWhere_of (.refused (Layout.notBlank hwritten) fun value hvalue => ?_)
    -- a clause around a text without quotes holds two of them, and here there are more
    obtain ⟨hfree, l, hl⟩ := hvalue
    have hcount := congrArg (List.countP isQuote) (hwritten.symm.trans hl)
    rw [Layout.countP_clause, Layout.countP_clause, hfree.countP, Nat.add_right_cancel_iff,
      List.countP_eq_zero] at hcount
    obtain ⟨c, hc, hquote⟩ := List.any_eq_true.mp hquotes
    exact hcount c hc hquote
  | false =>
    rw [if_neg Bool.false_ne_true]
    exact readWhere_of (.clause ⟨by simpa [QuoteFree] using hquotes, .plain, hwritten⟩)

end Multifiling.Api
