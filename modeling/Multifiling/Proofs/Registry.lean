import Multifiling.Proofs.Entries
import Multifiling.Proofs.QName
import Multifiling.Proofs.Traverse
import Multifiling.Registry

/-!
Registries as they are built. A URI is shown with the first prefix that has it
(`get?_firstPrefixes`), and that prefix stands for the same URI (`Built.uri_of_prefix`). So what is
shown of a known type can be read again, unless a brace stands in its URI or the prefix is none that
may be written (`resolve_display`, `resolve_display_error`).
-/

namespace Multifiling.Registry
open Text

variable {r : Registry} {q : QName} {uri nsPrefix : String}

/-! ### Prefixes -/

theorem get?_firstPrefixes (table : Entries String String) (uri : String) :
    (firstPrefixes table).get? uri = (table.find? fun entry => entry.2 = uri).map (·.1) := by
  suffices ∀ acc : Entries String String,
      (table.foldl (fun acc (entry : String × String) => acc.putNew entry.2 entry.1) acc).get? uri =
        (acc.get? uri).or ((table.find? fun entry => entry.2 = uri).map (·.1)) from this []
  induction table with
  | nil => simp
  | cons entry rest ih =>
    intro acc
    rw [List.foldl_cons, ih, Entries.get?_putNew, Option.or_assoc]
    congr 1
    by_cases h : uri = entry.2
    · rw [if_pos h, List.find?_cons_of_pos (by simp [h])]
      rfl
    · rw [if_neg h, List.find?_cons_of_neg (by simpa using fun heq => h heq.symm), Option.none_or]

/-- A name in prefixed form, its prefix replaced by the URI that it stands for. -/
theorem resolveIn_ok_iff {table : Entries String String} {value : Option String} :
    resolveIn table value = .ok q ↔ ∃ name, PrefixedName.parse value = .ok name ∧
      table.get? name.nsPrefix = some q.namespaceUri ∧ name.localName = q.localName := by
  rw [resolveIn]
  cases hparse : PrefixedName.parse value with
  | error e => exact ⟨nofun, nofun⟩
  | ok name =>
    simp only [bind, Except.bind, Except.ok.injEq, exists_eq_left']
    cases huri : table.get? name.nsPrefix with
    | none => exact ⟨nofun, nofun⟩
    | some uri =>
      have hne : name.localName ≠ "" :=
        fun h => (PrefixedName.parse_ok hparse).2.ne_nil (String.toList_eq_nil_iff.mpr h)
      simp [QName.make, hne, QName.ext_iff]

theorem resolve_ok_iff {value : Option String} :
    r.resolve value = .ok q ↔ ∃ name, PrefixedName.parse value = .ok name ∧
      r.uriByPrefix.get? name.nsPrefix = some q.namespaceUri ∧ name.localName = q.localName :=
  resolveIn_ok_iff

/-- What a registry has been built from no longer matters: its prefixes are distinct, each URI is
shown with the first prefix that has it, and the known types could be read. -/
structure Built (r : Registry) : Prop where
  keys : (r.uriByPrefix.map Prod.fst).Nodup
  prefixes : r.prefixByUri = firstPrefixes r.uriByPrefix
  types : ∀ q ∈ r.types, ∃ text, r.resolve (some text) = .ok q

section
variable {namespaces : List (String × String)} {associationTypes : List String}

/-- A registry is built once the known types can be read with the final prefixes. -/
theorem build_ok_iff : build namespaces associationTypes = .ok r ↔
    r.uriByPrefix = Entries.putAll (Entries.putAll [] ContentModel.namespaces) namespaces ∧
      r.prefixByUri = firstPrefixes r.uriByPrefix ∧
      List.Forall₂ (fun text q => r.resolve (some text) = .ok q)
        (ContentModel.associationTypes ++ associationTypes) r.types := by
  rw [build, bind_eq_ok]
  constructor
  · rintro ⟨types, htypes, h⟩
    cases h
    exact ⟨rfl, rfl, mapM_ok_iff.mp htypes⟩
  · obtain ⟨uriByPrefix, prefixByUri, types⟩ := r
    rintro ⟨huri, hwith, htypes⟩
    simp only at huri hwith
    subst huri hwith
    exact ⟨types, mapM_ok_iff.mpr htypes, rfl⟩

theorem build_ok (h : build namespaces associationTypes = .ok r) :
    r.uriByPrefix = Entries.putAll (Entries.putAll [] ContentModel.namespaces) namespaces ∧
      r.Built := by
  obtain ⟨huri, hwith, htypes⟩ := build_ok_iff.mp h
  have hleft := (Entries.LeftBy.nil.putAll ContentModel.namespaces).putAll namespaces
  refine ⟨huri, huri ▸ hleft.nodup, hwith, fun q hq => ?_⟩
  obtain ⟨text, -, htext⟩ := forall₂_of_mem_right htypes hq
  exact ⟨text, htext⟩

end

namespace Built

variable (hr : r.Built)
include hr

/-- A prefix that shows a URI stands for it. -/
theorem uri_of_prefix (h : r.prefixByUri.get? uri = some nsPrefix) :
    r.uriByPrefix.get? nsPrefix = some uri := by
  rw [hr.prefixes, get?_firstPrefixes, Option.map_eq_some_iff] at h
  obtain ⟨entry, hfind, rfl⟩ := h
  have huri : entry.2 = uri := by simpa using List.find?_some hfind
  rw [Entries.get?_eq_some_iff hr.keys, ← huri]
  exact List.mem_of_find?_eq_some hfind

/-- A URI that a prefix stands for is shown with some prefix. -/
theorem exists_prefix (h : r.uriByPrefix.get? nsPrefix = some uri) :
    ∃ first, r.prefixByUri.get? uri = some first := by
  rw [hr.prefixes, get?_firstPrefixes, ← Option.isSome_iff_exists, Option.isSome_map,
    List.find?_isSome]
  exact ⟨_, Entries.mem_of_get? h, decide_eq_true rfl⟩

/-- What is read has a local name that may be written, and a prefix. -/
theorem of_resolve {value : Option String} (h : r.resolve value = .ok q) :
    PrefixedName.IsLocal q.localName ∧ ∃ first, r.prefixByUri.get? q.namespaceUri = some first := by
  obtain ⟨name, hparse, huri, hlocal⟩ := resolve_ok_iff.mp h
  exact ⟨hlocal ▸ (PrefixedName.parse_ok hparse).2, hr.exists_prefix huri⟩

/-- So it is with a known type. -/
theorem of_mem_types (hq : q ∈ r.types) :
    PrefixedName.IsLocal q.localName ∧ ∃ first, r.prefixByUri.get? q.namespaceUri = some first := by
  obtain ⟨text, htext⟩ := hr.types q hq
  exact hr.of_resolve htext

end Built

/-! ### Displayed types -/

/-- Whether a type is shown in a form that can be read again: no brace stands in its URI, and the
prefix that shows it is one that may be written. -/
def writes (r : Registry) (q : QName) : Bool :=
  QName.isPlainText q.namespaceUri &&
    (r.prefixByUri.get? q.namespaceUri).any fun nsPrefix => PrefixedName.isPrefix nsPrefix.toList

/-- Prefixes are neither empty nor have blanks at their ends. -/
def Tidy (r : Registry) : Prop := ∀ entry ∈ r.uriByPrefix, Trimmed entry.1

/-- What is shown of a type whose local name may be written. -/
theorem display_fullForm (hlocal : PrefixedName.IsLocal q.localName)
    (hns : r.prefixByUri.get? q.namespaceUri = some nsPrefix) :
    r.display q.fullForm = if QName.isPlainText q.namespaceUri
      then nsPrefix ++ ":" ++ q.localName else q.fullForm := by
  rw [display, QName.ofFullForm_fullForm, hlocal.isPlainText, Bool.and_true]
  cases QName.isPlainText q.namespaceUri with
  | false => rfl
  | true => simp [prefixedForm, hns]

/-- What is shown of a known type is no blank text. -/
theorem display_notBlank (hr : r.Built) (hq : q ∈ r.types) :
    isBlankText (r.display q.fullForm) = false := by
  obtain ⟨hlocal, nsPrefix, hns⟩ := hr.of_mem_types hq
  have hend : ∃ front, (r.display q.fullForm).toList = front ++ q.localName.toList := by
    rw [display_fullForm hlocal hns]
    split
    · exact ⟨nsPrefix.toList ++ [':'], by simp⟩
    · exact ⟨'{' :: (q.namespaceUri.toList ++ ['}']), by simp [QName.fullForm_toList]⟩
  obtain ⟨front, hfront⟩ := hend
  have hlast := List.getLast_mem hlocal.ne_nil
  rw [isBlankText, hfront, List.all_append, Bool.and_eq_false_iff]
  refine .inr (List.all_eq_false.mpr ⟨_, hlast, ?_⟩)
  rw [hlocal.last _ (List.getLast_mem_getLast? hlocal.ne_nil)]
  exact Bool.false_ne_true

/-- What is shown of a known type is read as that type, if it can be read at all. -/
theorem resolve_display (hr : r.Built) (hq : q ∈ r.types) (h : r.writes q = true) :
    r.resolve (some (r.display q.fullForm)) = .ok q := by
  obtain ⟨hlocal, nsPrefix, hns⟩ := hr.of_mem_types hq
  rw [writes, hns, Option.any_some, Bool.and_eq_true] at h
  rw [display_fullForm hlocal hns, if_pos h.1]
  exact resolve_ok_iff.mpr ⟨_, PrefixedName.parse_prefixed h.2 hlocal, hr.uri_of_prefix hns,
    rfl⟩

/-- What is shown of any other known type cannot be read. -/
theorem resolve_display_error (hr : r.Built) (ht : r.Tidy) (hq : q ∈ r.types)
    (h : r.writes q = false) :
    r.resolve (some (r.display q.fullForm)) =
      .error ⟨.malformed, some (r.display q.fullForm)⟩ := by
  obtain ⟨hlocal, nsPrefix, hns⟩ := hr.of_mem_types hq
  have hparse : PrefixedName.parse (some (r.display q.fullForm)) =
      .error ⟨.malformed, some (r.display q.fullForm)⟩ := by
    rw [writes, hns, Option.any_some, Bool.and_eq_false_iff] at h
    rw [display_fullForm hlocal hns]
    split
    · next hplain =>
      have htrimmed := ht _ (Entries.mem_of_get? (hr.uri_of_prefix hns))
      have hodd := h.resolve_left (ne_false_of_eq_true hplain)
      exact PrefixedName.parse_badPrefix htrimmed hodd hlocal
    · exact PrefixedName.parse_fullForm hlocal
  rw [resolve, resolveIn, hparse]
  rfl

end Multifiling.Registry
