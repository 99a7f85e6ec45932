import Multifiling.Proofs.Registry

/-!
Registries told from what was registered. A text is read by the last URI of its prefix
(`resolve_ok_iff_denotes`), and a name is written with the first registered of the prefixes that
have its URI last (`prefixByUri_eq_some_iff`). Reading undoes writing wherever the written form has
the grammar of a prefixed form (`prefixedForm_readsBack`).
-/

namespace Multifiling.Registry
open Text Entries

/-- Prefixes with URIs in the order in which they are registered: the built-in ones come first. -/
def registered (namespaces : List (String × String)) : List (String × String) :=
  ContentModel.namespaces ++ namespaces

/-- The text is a prefixed form of the name: of its local name, with a prefix whose last URI among
the registered ones is that of the name. -/
def Denotes (pairs : List (String × String)) (text : String) (q : QName) : Prop :=
  ∃ nsPrefix, PrefixedName.WrittenAs ⟨nsPrefix, q.localName⟩ text ∧
    lastValue? pairs nsPrefix = some q.namespaceUri

/-! ### Reading -/

section
variable {pairs : List (String × String)} {text : String} {q : QName}

theorem resolveIn_ok_iff_denotes {table : Entries String String} (h : LeftBy pairs table) :
    resolveIn table (some text) = .ok q ↔ Denotes pairs text q := by
  rw [resolveIn_ok_iff]
  constructor
  · rintro ⟨name, hparse, huri, hlocal⟩
    exact ⟨name.nsPrefix, hlocal ▸ PrefixedName.parse_ok_iff.mp hparse, h.value _ ▸ huri⟩
  · rintro ⟨nsPrefix, hwritten, huri⟩
    exact ⟨_, PrefixedName.parse_ok_iff.mpr hwritten, (h.value _).trans huri, rfl⟩

/-- A prefixed form denotes its local name, with the last URI of its prefix. -/
theorem denotes_of_writtenAs {name : PrefixedName} {uri : String} (hname : name.WrittenAs text)
    (huri : lastValue? pairs name.nsPrefix = some uri) :
    ∃ q, Denotes pairs text q ∧ q.namespaceUri = uri ∧ q.localName = name.localName := by
  have hlocal := (PrefixedName.parse_ok (PrefixedName.parse_ok_iff.mpr hname)).2
  have hne : name.localName ≠ "" := fun h => hlocal.ne_nil (String.toList_eq_nil_iff.mpr h)
  exact ⟨⟨uri, name.localName, hne⟩, ⟨name.nsPrefix, hname, huri⟩, rfl, rfl⟩

/-- A text denotes a name just if it is a prefixed form whose prefix is registered. -/
theorem exists_denotes_iff : (∃ q, Denotes pairs text q) ↔
    ∃ name : PrefixedName, name.WrittenAs text ∧ name.nsPrefix ∈ pairs.map Prod.fst := by
  constructor
  · rintro ⟨q, nsPrefix, hwritten, huri⟩
    refine ⟨_, hwritten, lastValue?_isSome_iff.mp ?_⟩
    rw [huri]
    rfl
  · rintro ⟨name, hwritten, hmem⟩
    obtain ⟨uri, huri⟩ := Option.isSome_iff_exists.mp (lastValue?_isSome_iff.mpr hmem)
    obtain ⟨q, hq, -⟩ := denotes_of_writtenAs hwritten huri
    exact ⟨q, hq⟩

end

section
variable {r : Registry} {namespaces : List (String × String)} {associationTypes : List String}

theorem leftBy_registered (namespaces : List (String × String)) : LeftBy (registered namespaces)
    (putAll (putAll [] ContentModel.namespaces) namespaces) :=
  (LeftBy.nil.putAll ContentModel.namespaces).putAll namespaces

/-- The built-in types have prefixed forms with built-in prefixes. -/
theorem builtIn_written : ∀ text ∈ ContentModel.associationTypes, ∃ name : PrefixedName,
    name.WrittenAs text ∧ name.nsPrefix ∈ ContentModel.namespaces.map Prod.fst := by
  have hparse : ∀ text ∈ ContentModel.associationTypes, ∃ name,
      PrefixedName.parse (some text) = .ok name ∧
        name.nsPrefix ∈ ContentModel.namespaces.map Prod.fst := by
    simp only [ContentModel.associationTypes, List.forall_mem_cons]
    exact ⟨⟨⟨"cm", "contains"⟩, by decide +kernel⟩, ⟨⟨"sys", "children"⟩, by decide +kernel⟩,
      ⟨⟨"cm", "subcategories"⟩, by decide +kernel⟩, ⟨⟨"rn", "rendition"⟩, by decide +kernel⟩, nofun⟩
  intro text htext
  obtain ⟨name, hname, hmem⟩ := hparse text htext
  exact ⟨name, PrefixedName.parse_ok_iff.mp hname, hmem⟩

/-- A registry is built just if the configured types are prefixed forms with registered prefixes. -/
theorem exists_build_iff : (∃ r, build namespaces associationTypes = .ok r) ↔
    ∀ text ∈ associationTypes, ∃ name : PrefixedName,
      name.WrittenAs text ∧ name.nsPrefix ∈ (registered namespaces).map Prod.fst := by
  have hread : (∃ r, build namespaces associationTypes = .ok r) ↔
      ∀ text ∈ ContentModel.associationTypes ++ associationTypes, ∃ q,
        Denotes (registered namespaces) text q := by
    simp only [← resolveIn_ok_iff_denotes (leftBy_registered namespaces), ← exists_mapM_ok_iff,
      build, bind_eq_ok]
    constructor
    · rintro ⟨-, types, htypes, -⟩
      exact ⟨types, htypes⟩
    · rintro ⟨types, htypes⟩
      exact ⟨_, types, htypes, rfl⟩
  simp only [hread, exists_denotes_iff]
  constructor
  · exact fun hall text htext => hall text (List.mem_append_right _ htext)
  · intro hall text htext
    rcases List.mem_append.mp htext with htext | htext
    · obtain ⟨name, hwritten, hmem⟩ := builtIn_written text htext
      exact ⟨name, hwritten, by rw [registered, List.map_append]; exact List.mem_append_left _ hmem⟩
    · exact hall text htext

variable (h : build namespaces associationTypes = .ok r)
include h

theorem leftBy_of_build : LeftBy (registered namespaces) r.uriByPrefix :=
  (build_ok h).1 ▸ leftBy_registered namespaces

theorem resolve_ok_iff_denotes {text : String} {q : QName} :
    r.resolve (some text) = .ok q ↔ Denotes (registered namespaces) text q :=
  resolveIn_ok_iff_denotes (leftBy_of_build h)

/-- The known types are what the built-in and the configured texts denote. -/
theorem mem_types_iff {q : QName} : q ∈ r.types ↔
    ∃ text ∈ ContentModel.associationTypes ++ associationTypes,
      Denotes (registered namespaces) text q := by
  obtain ⟨-, -, htypes⟩ := build_ok_iff.mp h
  constructor
  · intro hq
    obtain ⟨text, htext, hresolve⟩ := forall₂_of_mem_right htypes hq
    exact ⟨text, htext, (resolve_ok_iff_denotes h).mp hresolve⟩
  · rintro ⟨text, htext, hdenotes⟩
    obtain ⟨q', hq', hresolve⟩ := forall₂_of_mem_right htypes.flip htext
    have hread := (resolve_ok_iff_denotes h).mpr hdenotes
    exact Except.ok.inj (hresolve.symm.trans hread) ▸ hq'

/-! ### Writing -/

/-- A URI is shown with the first registered of the prefixes that have it in the end. -/
theorem prefixByUri_eq_some_iff {uri nsPrefix : String} :
    r.prefixByUri.get? uri = some nsPrefix ↔ FirstWith (registered namespaces) uri nsPrefix := by
  rw [(build_ok h).2.prefixes, get?_firstPrefixes, (leftBy_of_build h).find?_eq_some_iff]

theorem prefixedForm_ok_iff {q : QName} {text : String} :
    r.prefixedForm q = .ok text ↔ ∃ nsPrefix,
      FirstWith (registered namespaces) q.namespaceUri nsPrefix ∧
        text = nsPrefix ++ ":" ++ q.localName := by
  simp only [← prefixByUri_eq_some_iff h, prefixedForm]
  cases r.prefixByUri.get? q.namespaceUri with
  | none => simp
  | some nsPrefix => simp [eq_comm]

/-- A name is written just if a prefix has its URI in the end, with the first registered of these.
So it is with every name that was read; and what is written is read as the same name, if the prefix
and the local name are such as a prefixed form may have. -/
theorem prefixedForm_readsBack :
    (∀ q, (∃ text, r.prefixedForm q = .ok text) ↔
      ∃ nsPrefix, lastValue? (registered namespaces) nsPrefix = some q.namespaceUri) ∧
    (∀ q text, r.prefixedForm q = .ok text ↔ ∃ nsPrefix,
      FirstWith (registered namespaces) q.namespaceUri nsPrefix ∧
        text = nsPrefix ++ ":" ++ q.localName) ∧
    (∀ value q, r.resolve value = .ok q → ∃ text, r.prefixedForm q = .ok text) ∧
    ∀ q nsPrefix, FirstWith (registered namespaces) q.namespaceUri nsPrefix →
      PrefixedName.isPrefix nsPrefix.toList = true →
      (∀ c ∈ q.localName.toList, c ≠ ':' ∧ c ≠ '{' ∧ c ≠ '}') →
      Stripped isBlank q.localName.toList →
      ∃ text, r.prefixedForm q = .ok text ∧ r.resolve (some text) = .ok q := by
  have hbuilt := (build_ok h).2
  have hwrites (q : QName) (nsPrefix : String)
      (huri : r.prefixByUri.get? q.namespaceUri = some nsPrefix) :
      r.prefixedForm q = .ok (nsPrefix ++ ":" ++ q.localName) :=
    (prefixedForm_ok_iff h).mpr ⟨nsPrefix, (prefixByUri_eq_some_iff h).mp huri, rfl⟩
  refine ⟨fun q => ⟨?_, ?_⟩, fun q text => prefixedForm_ok_iff h, fun value q hresolve => ?_,
    fun q nsPrefix hfirst hwith hchars hends => ?_⟩
  · rintro ⟨text, htext⟩
    obtain ⟨nsPrefix, hfirst, -⟩ := (prefixedForm_ok_iff h).mp htext
    exact ⟨nsPrefix, hfirst.stands⟩
  · rintro ⟨nsPrefix, huri⟩
    obtain ⟨first, hfirst⟩ :=
      hbuilt.exists_prefix (((leftBy_of_build h).value nsPrefix).trans huri)
    exact ⟨_, hwrites q first hfirst⟩
  · obtain ⟨-, first, hfirst⟩ := hbuilt.of_resolve hresolve
    exact ⟨_, hwrites q first hfirst⟩
  · have hlocal : PrefixedName.IsLocal q.localName := .of_stripped q.localName_ne hchars hends
    have hshown := (prefixByUri_eq_some_iff h).mpr hfirst
    exact ⟨_, hwrites q nsPrefix hshown, resolve_ok_iff.mpr
      ⟨_, PrefixedName.parse_prefixed hwith hlocal, hbuilt.uri_of_prefix hshown, rfl⟩⟩

end

/-- Two prefixes of one URI; the second one is built in, so it was registered first. -/
def contentMoved : List (String × String) := [("a", "urn:a"), ("cm", "urn:a")]

def movedName : QName := ⟨"urn:a", "x.1", by decide⟩

theorem movedName_toList : movedName.localName.toList = ['x', '.', '1'] := by decide +kernel

theorem movedName_chars :
    ∀ c ∈ movedName.localName.toList, c ≠ ':' ∧ c ≠ '{' ∧ c ≠ '}' := by
  simp [movedName_toList]

theorem movedName_ends : Stripped isBlank movedName.localName.toList := by
  refine .of_forall ?_
  simp only [movedName_toList, List.forall_mem_cons]
  exact ⟨by decide, by decide, by decide, nofun⟩

theorem prefixedForm_readsBack_contentMoved :
    ∃ r, build contentMoved ["a:x.1"] = .ok r ∧
      FirstWith (registered contentMoved) "urn:a" "cm" ∧
      r.prefixedForm movedName = .ok "cm:x.1" ∧ r.resolve (some "cm:x.1") = .ok movedName ∧
      ∀ text, r.prefixedForm ContentModel.contains ≠ .ok text := by
  have hwritten : PrefixedName.WrittenAs ⟨"a", "x.1"⟩ "a:x.1" :=
    PrefixedName.parse_ok_iff.mp (by decide +kernel)
  obtain ⟨r, h⟩ : ∃ r, build contentMoved ["a:x.1"] = .ok r :=
    exists_build_iff.mpr (List.forall_mem_singleton.mpr ⟨_, hwritten, by decide⟩)
  obtain ⟨hwrites, hform, -, hreads⟩ := prefixedForm_readsBack h
  have hfirst : FirstWith (registered contentMoved) "urn:a" "cm" :=
    ⟨by decide, fun other _ => Nat.zero_le _⟩
  obtain ⟨text, htext, hresolve⟩ := hreads movedName "cm" hfirst (by decide +kernel)
    movedName_chars movedName_ends
  have hcm : r.prefixedForm movedName = .ok "cm:x.1" := (hform _ _).mpr ⟨"cm", hfirst, by decide⟩
  cases htext.symm.trans hcm
  refine ⟨r, h, hfirst, hcm, hresolve, fun text htext => ?_⟩
  -- the content URI was registered for one prefix, which has another one in the end
  obtain ⟨nsPrefix, huri⟩ := (hwrites ContentModel.contains).mp ⟨text, htext⟩
  have hmem : (nsPrefix, ContentModel.contentUri) ∈ registered contentMoved :=
    List.mem_reverse.mp (mem_of_get? huri)
  have hcontent : ∀ pair ∈ registered contentMoved,
      pair.2 = ContentModel.contentUri → pair.1 = "cm" := by decide
  obtain rfl : nsPrefix = "cm" := hcontent _ hmem rfl
  exact absurd huri (by decide)

end Multifiling.Registry
