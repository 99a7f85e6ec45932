import Multifiling.Proofs.Filing.Type
import Multifiling.Proofs.Registry.Registered

/-!
Association types as callers write them, told from what the registry was built from. A text is
accepted just if it denotes, by the last URI of its prefix, what one of the built-in or configured
type texts denotes; every other text is refused in one of three ways, and which one is decided by
the text alone (`types_exact`).
-/

namespace Multifiling.Filing
open Registry Entries

variable {registry : Registry} {pairs : List (String × String)} {known : List String}

/-- What the text of a type comes to where one is required, with these registered prefixes and these
texts of known types. -/
inductive TypeOutcome (pairs : List (String × String)) (known : List String) :
    Option String → Except Failure QName → Prop where
  | absent : TypeOutcome pairs known none (.error (.badArgument .missingType))
  | blank {text : String} (hblank : Text.isBlankText text = true) :
    TypeOutcome pairs known (some text) (.error (.badArgument .missingType))
  | malformed {text : String} (hblank : Text.isBlankText text = false)
    (hnone : ∀ q, ¬Denotes pairs text q) :
    TypeOutcome pairs known (some text) (.error (.badArgument (.malformedType text)))
  | unknown {text : String} {q : QName} (hdenotes : Denotes pairs text q)
    (hknown : ¬∃ k ∈ known, Denotes pairs k q) :
    TypeOutcome pairs known (some text) (.error (.badArgument (.unknownType text)))
  | accepted {text : String} {q : QName} (hdenotes : Denotes pairs text q)
    (hknown : ∃ k ∈ known, Denotes pairs k q) : TypeOutcome pairs known (some text) (.ok q)

theorem TypeOutcome.exists_of (pairs : List (String × String)) (known : List String)
    (given : Option String) : ∃ outcome, TypeOutcome pairs known given outcome := by
  cases given with
  | none => exact ⟨_, .absent⟩
  | some text =>
    cases hblank : Text.isBlankText text with
    | true => exact ⟨_, .blank hblank⟩
    | false =>
      by_cases hnone : ∃ q, Denotes pairs text q
      · obtain ⟨q, hdenotes⟩ := hnone
        by_cases hknown : ∃ k ∈ known, Denotes pairs k q
        · exact ⟨_, .accepted hdenotes hknown⟩
        · exact ⟨_, .unknown hdenotes hknown⟩
      · exact ⟨_, .malformed hblank (not_exists.mp hnone)⟩

/-- The prefixes and the known types of a registry are those that were registered. -/
structure Reflects (registry : Registry) (pairs : List (String × String)) (known : List String) :
    Prop where
  resolve_iff : ∀ text q, registry.resolve (some text) = .ok q ↔ Denotes pairs text q
  mem_types_iff : ∀ q, q ∈ registry.types ↔ ∃ k ∈ known, Denotes pairs k q

namespace Reflects

variable (hr : Reflects registry pairs known)
include hr

theorem requiredType_of_denotes {text : String} {q : QName} (h : Denotes pairs text q) :
    requiredType registry (some text) =
      if registry.isAssociationType q then .ok q
      else .error (.badArgument (.unknownType text)) := by
  have hresolve := (hr.resolve_iff text q).mpr h
  rw [requiredType_of_text (notBlank_of_resolve hresolve), readType, hresolve]

theorem requiredType_of {given : Option String} {outcome : Except Failure QName}
    (h : TypeOutcome pairs known given outcome) : requiredType registry given = outcome := by
  have hmember (q : QName) :
      registry.isAssociationType q = true ↔ ∃ k ∈ known, Denotes pairs k q := by
    rw [isAssociationType, List.contains_iff_mem, hr.mem_types_iff]
  cases h with
  | absent => rfl
  | blank hblank => rw [requiredType_eq, givenType_some, if_pos hblank]
  | @malformed text hblank hnone =>
    rw [requiredType_of_text hblank, readType]
    cases hresolve : registry.resolve (some text) with
    | error e => rfl
    | ok q => exact absurd ((hr.resolve_iff text q).mp hresolve) (hnone q)
  | unknown hdenotes hknown =>
    rw [hr.requiredType_of_denotes hdenotes, if_neg (mt (hmember _).mp hknown)]
  | accepted hdenotes hknown =>
    rw [hr.requiredType_of_denotes hdenotes, if_pos ((hmember _).mpr hknown)]

/-- Of the ways in which a text can be read, just one is there for each text. -/
theorem requiredType_eq_iff {given : Option String} {outcome : Except Failure QName} :
    requiredType registry given = outcome ↔ TypeOutcome pairs known given outcome := by
  refine ⟨fun h => ?_, hr.requiredType_of⟩
  obtain ⟨outcome', houtcome⟩ := TypeOutcome.exists_of pairs known given
  rwa [← h, hr.requiredType_of houtcome]

theorem accepts_iff {given : Option String} {q : QName} :
    requiredType registry given = .ok q ↔
      (∃ text ∈ given, Denotes pairs text q) ∧ ∃ k ∈ known, Denotes pairs k q := by
  rw [hr.requiredType_eq_iff]
  constructor
  · intro h
    cases h with
    | accepted hdenotes hknown => exact ⟨⟨_, rfl, hdenotes⟩, hknown⟩
  · rintro ⟨⟨text, htext, hdenotes⟩, hknown⟩
    cases htext
    exact .accepted hdenotes hknown

end Reflects

/-- Prefixes of one URI denote the same names. -/
theorem denotes_alias {text text' : String} {name name' : PrefixedName}
    (hwritten : name.WrittenAs text) (hwritten' : name'.WrittenAs text')
    (hlocal : name'.localName = name.localName)
    (huri : lastValue? pairs name'.nsPrefix = lastValue? pairs name.nsPrefix) {q : QName}
    (h : Denotes pairs text q) : Denotes pairs text' q := by
  obtain ⟨nsPrefix, hform, hstands⟩ := h
  obtain ⟨nsPrefix', localName'⟩ := name'
  cases hwritten.unique hform
  cases hlocal
  exact ⟨nsPrefix', hwritten', huri.trans hstands⟩

/-- A registry is built just if every configured type is a prefixed form with a registered prefix.
It then accepts, where a type is required, just what denotes a known one, under every prefix of its
URI; what else becomes of a text is decided by the text alone. Where none is required, an absent or
blank text is none, and any other is read in the same way. -/
theorem types_exact (namespaces : List (String × String)) (associationTypes : List String) :
    ((∃ registry, build namespaces associationTypes = .ok registry) ↔
      ∀ text ∈ associationTypes, ∃ name : PrefixedName,
        name.WrittenAs text ∧ name.nsPrefix ∈ (registered namespaces).map Prod.fst) ∧
    ∀ registry, build namespaces associationTypes = .ok registry →
      (∀ given q, requiredType registry given = .ok q ↔
        (∃ text ∈ given, Denotes (registered namespaces) text q) ∧
          ∃ known ∈ ContentModel.associationTypes ++ associationTypes,
            Denotes (registered namespaces) known q) ∧
      (∀ given outcome, requiredType registry given = outcome ↔
        TypeOutcome (registered namespaces) (ContentModel.associationTypes ++ associationTypes)
          given outcome) ∧
      (∀ given, optionalType registry given =
        if given.all Text.isBlankText then .ok none
        else (requiredType registry given).map some) ∧
      ∀ text text' (name name' : PrefixedName), name.WrittenAs text → name'.WrittenAs text' →
        name'.localName = name.localName →
        lastValue? (registered namespaces) name'.nsPrefix =
          lastValue? (registered namespaces) name.nsPrefix →
        ∀ q, requiredType registry (some text) = .ok q ↔
          requiredType registry (some text') = .ok q := by
  refine ⟨exists_build_iff, fun registry h => ?_⟩
  have hr : Reflects registry (registered namespaces)
      (ContentModel.associationTypes ++ associationTypes) :=
    ⟨fun _ _ => resolve_ok_iff_denotes h, fun _ => Registry.mem_types_iff h⟩
  refine ⟨fun given q => hr.accepts_iff, fun given outcome => hr.requiredType_eq_iff,
    fun given => ?_, fun text text' name name' hwritten hwritten' hlocal huri q => ?_⟩
  · cases given with
    | none => rfl
    | some text =>
      cases hblank : Text.isBlankText text with
      | true => simp [optionalType, givenType_some, hblank]
      | false => simp [optionalType_of_text hblank, requiredType_of_text hblank, hblank]
  · simp only [hr.accepts_iff, Option.mem_some, exists_eq_left']
    exact and_congr_left fun _ => ⟨denotes_alias hwritten hwritten' hlocal huri,
      denotes_alias hwritten' hwritten hlocal.symm huri.symm⟩

/-- A configured type is accepted under the built-in prefix that was moved to its URI, but not in
full form. -/
theorem types_exact_contentMoved :
    ∃ registry, build contentMoved ["a:x.1"] = .ok registry ∧
      requiredType registry (some " cm:x.1") = .ok movedName ∧
      requiredType registry (some movedName.fullForm) =
        .error (.badArgument (.malformedType movedName.fullForm)) ∧
      optionalType registry (some " ") = .ok none := by
  have hconfigured : PrefixedName.WrittenAs ⟨"a", "x.1"⟩ "a:x.1" :=
    PrefixedName.parse_ok_iff.mp (by decide +kernel)
  have hgiven : PrefixedName.WrittenAs ⟨"cm", "x.1"⟩ " cm:x.1" :=
    PrefixedName.parse_ok_iff.mp (by decide +kernel)
  obtain ⟨hbuilds, hreads⟩ := types_exact contentMoved ["a:x.1"]
  obtain ⟨registry, h⟩ :=
    hbuilds.mpr (List.forall_mem_singleton.mpr ⟨_, hconfigured, by decide⟩)
  obtain ⟨haccepts, houtcome, hoptional, -⟩ := hreads registry h
  refine ⟨registry, h, (haccepts _ _).mpr ⟨⟨_, rfl, "cm", hgiven, by decide⟩, "a:x.1", by decide,
    "a", hconfigured, by decide⟩, (houtcome _ _).mpr (.malformed (by decide) ?_),
    hoptional (some " ")⟩
  rintro q ⟨nsPrefix, hwritten, -⟩
  have hparse := PrefixedName.parse_ok_iff.mpr hwritten
  have hlocal : PrefixedName.IsLocal movedName.localName :=
    .of_stripped movedName.localName_ne movedName_chars movedName_ends
  rw [PrefixedName.parse_fullForm hlocal] at hparse
  cases hparse

end Multifiling.Filing
