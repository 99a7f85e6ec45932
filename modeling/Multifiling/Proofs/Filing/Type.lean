import Multifiling.Filing
import Multifiling.Proofs.Registry

/-!
Association types as callers write them. Whatever is read is a known type (`requiredType_ok_iff`,
`optionalType_ok_iff`), a failure is the caller's, and it undoes no work. What is shown of a known
type is read again as that type, or refused as malformed (`optionalType_display`).
-/

namespace Multifiling.Filing

variable {τ : Type} [TextForm τ] {registry : Registry} {q : QName} {e : Failure}

/-- What is read is a known type. -/
theorem readType_ok_iff {text : String} :
    readType registry text = .ok q ↔ registry.resolve (some text) = .ok q ∧ q ∈ registry.types := by
  rw [readType]
  cases registry.resolve (some text) with
  | error e => exact ⟨nofun, nofun⟩
  | ok type =>
    simp only [Registry.isAssociationType, List.contains_iff_mem]
    split
    · next h =>
      constructor
      · intro heq
        cases heq
        exact ⟨rfl, h⟩
      · rintro ⟨heq, -⟩
        cases heq
        rfl
    · next h =>
      refine ⟨nofun, ?_⟩
      rintro ⟨heq, hq⟩
      cases heq
      exact absurd hq h

/-- A text names a known association type. -/
structure NamesType (registry : Registry) (given : Option τ) (q : QName) : Prop where
  resolved : ∃ text ∈ given.bind TextForm.string?, registry.resolve (some text) = .ok q
  known : q ∈ registry.types

theorem resolve_blank {text : String} (h : Text.isBlankText text = true) :
    registry.resolve (some text) = .error ⟨.blank, some text⟩ := by
  simp only [Registry.resolve, Registry.resolveIn, PrefixedName.parse, if_pos h, bind, Except.bind]

theorem notBlank_of_resolve {text : String} (h : registry.resolve (some text) = .ok q) :
    Text.isBlankText text = false := by
  cases hblank : Text.isBlankText text with
  | false => rfl
  | true => rw [resolve_blank hblank] at h; cases h

theorem givenType_some {text : String} :
    givenType (some text) = if Text.isBlankText text then none else some text := by
  cases h : Text.isBlankText text <;> simp [givenType, h]

theorem bind_string? (given : Option String) : given.bind TextForm.string? = given := by
  cases given <;> rfl

theorem requiredType_eq (registry : Registry) (given : Option String) :
    requiredType registry given = match givenType given with
      | none => .error (.badArgument .missingType)
      | some text => readType registry text := by
  cases given <;> rfl

theorem requiredType_of_text {text : String} (h : Text.isBlankText text = false) :
    requiredType registry (some text) = readType registry text := by
  rw [requiredType_eq, givenType_some, if_neg (by simp [h])]

/-- A text in any form is read as the string that it is, if it is one. -/
theorem requiredType_cases (registry : Registry) (given : Option τ) :
    (requiredType registry given = .error (.badArgument .brokenType) ∧
      given.bind TextForm.string? = none) ∨
    requiredType registry given = requiredType registry (given.bind TextForm.string?) := by
  cases given with
  | none => exact .inr rfl
  | some text =>
    cases h : TextForm.string? text with
    | none => exact .inl (by simp [requiredType, h])
    | some s => exact .inr (by simp [requiredType, h])

theorem namesType_bind_iff {given : Option τ} :
    NamesType registry (given.bind TextForm.string?) q ↔ NamesType registry given q :=
  ⟨fun h => ⟨bind_string? (given.bind _) ▸ h.resolved, h.known⟩,
    fun h => ⟨(bind_string? (given.bind _)).symm ▸ h.resolved, h.known⟩⟩

theorem namesType_some_iff {text : String} : NamesType registry (some text) q ↔
    registry.resolve (some text) = .ok q ∧ q ∈ registry.types := by
  constructor
  · rintro ⟨⟨text', htext, hresolved⟩, hknown⟩
    cases htext
    exact ⟨hresolved, hknown⟩
  · exact fun h => ⟨⟨text, rfl, h.1⟩, h.2⟩

theorem requiredType_string_ok_iff {given : Option String} :
    requiredType registry given = .ok q ↔ NamesType registry given q := by
  cases given with
  | none =>
    refine ⟨nofun, fun h => ?_⟩
    obtain ⟨text, htext, -⟩ := h.resolved
    cases htext
  | some text =>
    rw [namesType_some_iff]
    cases hblank : Text.isBlankText text with
    | true =>
      -- a blank text is not read, and does not resolve either
      rw [requiredType_eq, givenType_some, if_pos hblank, resolve_blank hblank]
      simp
    | false => rw [requiredType_of_text hblank, readType_ok_iff]

theorem requiredType_ok_iff {given : Option τ} :
    requiredType registry given = .ok q ↔ NamesType registry given q := by
  rw [← namesType_bind_iff, ← requiredType_string_ok_iff]
  rcases requiredType_cases registry given with ⟨hbroken, hnone⟩ | hread
  · rw [hbroken, hnone]
    exact ⟨nofun, nofun⟩
  · rw [hread]

theorem requiredType_mem {given : Option τ} (h : requiredType registry given = .ok q) :
    q ∈ registry.types :=
  (requiredType_ok_iff.mp h).known

/-- A text that names a type is a string. -/
theorem NamesType.isSome_string? {given : Option τ} (h : NamesType registry given q) :
    ∀ text ∈ given, (TextForm.string? text).isSome = true := by
  rintro text rfl
  obtain ⟨s, hs, -⟩ := h.resolved
  exact Option.isSome_iff_exists.mpr ⟨s, hs⟩

/-- No brace stands in the local name of a type that a text names. -/
theorem NamesType.isPlainText {given : Option τ} (h : NamesType registry given q) :
    QName.isPlainText q.localName = true := by
  obtain ⟨text, -, hresolved⟩ := h.resolved
  obtain ⟨name, hparse, -, hlocal⟩ := Registry.resolve_ok_iff.mp hresolved
  exact hlocal ▸ (PrefixedName.parse_ok hparse).2.isPlainText

theorem optionalType_iff {given : Option String} {type : QName} :
    optionalType registry given = .ok (some type) ↔ requiredType registry given = .ok type := by
  rw [optionalType, requiredType_eq]
  cases givenType given with
  | none => exact ⟨nofun, nofun⟩
  | some text =>
    simp only
    cases readType registry text with
    | error e => exact ⟨nofun, nofun⟩
    | ok t => simp [Except.map]

/-- What a text selects: the type that it names, or none in particular if it is absent or blank. -/
inductive Selects (registry : Registry) : Option String → Option QName → Prop where
  | absent : Selects registry none none
  | blank {text : String} (h : Text.isBlankText text = true) : Selects registry (some text) none
  | typed {given : Option String} {q : QName} (h : NamesType registry given q) :
    Selects registry given (some q)

/-- What is wrong with a text that selects nothing: it has not the form of a type, or names none
that is known. -/
inductive Misnames (registry : Registry) : Option String → BadArgument → Prop where
  | malformed {text : String} (hb : Text.isBlankText text = false)
    (h : ∀ q, registry.resolve (some text) ≠ .ok q) :
    Misnames registry (some text) (.malformedType text)
  | unknown {text : String} {q : QName} (h : registry.resolve (some text) = .ok q)
    (hq : q ∉ registry.types) : Misnames registry (some text) (.unknownType text)

theorem optionalType_of_text {text : String} (h : Text.isBlankText text = false) :
    optionalType registry (some text) = (readType registry text).map some := by
  rw [optionalType, givenType, Option.filter_some_pos (by simp [h])]

theorem optionalType_ok_iff {given : Option String} {type : Option QName} :
    optionalType registry given = .ok type ↔ Selects registry given type := by
  constructor
  · intro h
    cases type with
    | some q => exact .typed (requiredType_ok_iff.mp (optionalType_iff.mp h))
    | none =>
      cases given with
      | none => exact .absent
      | some text =>
        cases hb : Text.isBlankText text with
        | true => exact .blank hb
        | false =>
          rw [optionalType_of_text hb] at h
          cases hr : readType registry text with
          | ok q => rw [hr] at h; cases h
          | error e => rw [hr] at h; cases h
  · intro h
    cases h with
    | absent => rfl
    | blank h => rw [optionalType, givenType_some, if_pos h]
    | typed h => exact optionalType_iff.mpr (requiredType_ok_iff.mpr h)

theorem optionalType_of_misnames {given : Option String} {argument : BadArgument}
    (h : Misnames registry given argument) :
    optionalType registry given = .error (.badArgument argument) := by
  cases h with
  | @malformed text hb h =>
    rw [optionalType_of_text hb, readType]
    cases hr : registry.resolve (some text) with
    | ok q => exact absurd hr (h q)
    | error e => rfl
  | @unknown text q h hq =>
    have hunknown : ¬registry.isAssociationType q := by
      rwa [Registry.isAssociationType, List.contains_iff_mem]
    rw [optionalType_of_text (notBlank_of_resolve h), readType, h]
    simp only [if_neg hunknown]
    rfl

/-- A text selects something or misnames it. -/
theorem selects_or_misnames (registry : Registry) (given : Option String) :
    (∃ type, Selects registry given type) ∨ ∃ argument, Misnames registry given argument := by
  cases given with
  | none => exact .inl ⟨none, .absent⟩
  | some text =>
    cases hb : Text.isBlankText text with
    | true => exact .inl ⟨none, .blank hb⟩
    | false =>
      cases hr : registry.resolve (some text) with
      | error e => exact .inr ⟨_, .malformed hb (by rw [hr]; exact nofun)⟩
      | ok q =>
        by_cases hq : q ∈ registry.types
        · exact .inl ⟨some q, .typed ⟨⟨text, rfl, hr⟩, hq⟩⟩
        · exact .inr ⟨_, .unknown hr hq⟩

/-! ### Failures -/

theorem readType_badArgument {given : String} (h : readType registry given = .error e) :
    ∃ argument, e = .badArgument argument := by
  rw [readType] at h
  split at h
  · cases h; exact ⟨_, rfl⟩
  · split at h
    · cases h
    · cases h; exact ⟨_, rfl⟩

theorem requiredType_badArgument {given : Option τ}
    (h : requiredType registry given = .error e) : ∃ argument, e = .badArgument argument := by
  rw [requiredType] at h
  split at h
  · cases h; exact ⟨_, rfl⟩
  · split at h
    · cases h; exact ⟨_, rfl⟩
    · exact readType_badArgument h

/-- What is refused of a text that is a string can be written. -/
theorem requiredType_broken_iff {given : Option τ} :
    requiredType registry given = .error (.badArgument .brokenType) ↔
      ∃ text ∈ given, TextForm.string? text = none := by
  simp only [← Option.isNone_iff_eq_none, Option.mem_def, ← Option.any_eq_true]
  rw [requiredType]
  split
  · next h => exact iff_of_true rfl h
  · next h =>
    refine iff_of_false (fun hbroken => ?_) h
    split at hbroken
    · cases hbroken
    · rw [readType] at hbroken
      split at hbroken
      · cases hbroken
      · split at hbroken <;> cases hbroken

theorem optionalType_badArgument {given : Option String}
    (h : optionalType registry given = .error e) :
    ∃ argument ≠ .brokenType, e = .badArgument argument := by
  obtain ⟨type, ht⟩ | ⟨argument, ht⟩ := selects_or_misnames registry given
  · rw [optionalType_ok_iff.mpr ht] at h
    cases h
  · rw [optionalType_of_misnames ht] at h
    cases h
    refine ⟨argument, ?_, rfl⟩
    cases ht <;> exact BadArgument.noConfusion

theorem requiredType_error {given : Option τ} (h : requiredType registry given = .error e) :
    e.undoesWork = false := by
  obtain ⟨argument, rfl⟩ := requiredType_badArgument h
  rfl

theorem optionalType_error {given : Option String} (h : optionalType registry given = .error e) :
    e.undoesWork = false := by
  obtain ⟨argument, -, rfl⟩ := optionalType_badArgument h
  rfl

/-! ### Displayed types -/

/-- What is shown of a known type is read as that type, or as no type at all. -/
theorem optionalType_display (hr : registry.Built) (ht : registry.Tidy) (hq : q ∈ registry.types) :
    optionalType registry (some (registry.display q.fullForm)) =
      if registry.writes q then .ok (some q)
      else .error (.badArgument (.malformedType (registry.display q.fullForm))) := by
  rw [optionalType_of_text (Registry.display_notBlank hr hq)]
  cases h : registry.writes q with
  | true => rw [readType_ok_iff.mpr ⟨Registry.resolve_display hr hq h, hq⟩]; rfl
  | false => rw [readType, Registry.resolve_display_error hr ht hq h]; rfl

end Multifiling.Filing
