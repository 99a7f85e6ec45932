import Multifiling.Proofs.Registry.Registered

/-!
Types that are told apart. Whatever prefixes and URIs were registered, two names that can be read
have different full forms and are displayed differently (`display_apart`). Neither a colon nor a
brace stands in their local names, so the last of these in a displayed text tells in which of the
two forms it is, and where the local name begins.
-/

namespace Multifiling.Registry
open Text

variable {r : Registry} {p q : QName} {a b : Option String}

theorem notMem_brace {localName : String} (h : PrefixedName.IsLocal localName) :
    '}' ∉ localName.toList :=
  QName.ne_brace_of_isPlain (QName.isPlainText_iff.mp h.isPlainText)

/-- A local name behind a prefix, whatever the prefix is, is no full form. -/
theorem prefixed_ne_fullForm (nsPrefix : String) {localName : String}
    (hlocal : PrefixedName.IsLocal localName) (hq : PrefixedName.IsLocal q.localName) :
    nsPrefix ++ ":" ++ localName ≠ q.fullForm := by
  intro h
  have hchars := congrArg String.toList h
  rw [PrefixedName.prefixed_toList, QName.fullForm_toList, ← List.cons_append] at hchars
  obtain ⟨-, hcolon, -⟩ :=
    append_cons_inj_of_notMem_back (notMem_brace hlocal) hq.notMem_colon hchars
  exact absurd hcolon (by decide)

/-- The last colon parts a prefix from a local name. -/
theorem prefixed_inj {nsPrefix nsPrefix' localName localName' : String}
    (hlocal : PrefixedName.IsLocal localName) (hlocal' : PrefixedName.IsLocal localName')
    (h : nsPrefix ++ ":" ++ localName = nsPrefix' ++ ":" ++ localName') :
    nsPrefix = nsPrefix' ∧ localName = localName' := by
  have hchars := congrArg String.toList h
  rw [PrefixedName.prefixed_toList, PrefixedName.prefixed_toList] at hchars
  obtain ⟨hns, -, hname⟩ :=
    append_cons_inj_of_notMem_back hlocal.notMem_colon hlocal'.notMem_colon hchars
  exact ⟨String.toList_inj.mp hns, String.toList_inj.mp hname⟩

/-- Names that can be read are told apart by what is displayed of them. -/
theorem Built.display_inj (hr : r.Built) (hp : r.resolve a = .ok p) (hq : r.resolve b = .ok q)
    (h : r.display p.fullForm = r.display q.fullForm) : p = q := by
  obtain ⟨hlocal, nsPrefix, hns⟩ := hr.of_resolve hp
  obtain ⟨hlocal', nsPrefix', hns'⟩ := hr.of_resolve hq
  rw [display_fullForm hlocal hns, display_fullForm hlocal' hns'] at h
  cases hplain : QName.isPlainText p.namespaceUri with
  | true =>
    rw [hplain, if_pos rfl] at h
    split at h
    · -- both have a prefix, and one prefix stands for one URI
      obtain ⟨rfl, hname⟩ := prefixed_inj hlocal hlocal' h
      have huri := (hr.uri_of_prefix hns).symm.trans (hr.uri_of_prefix hns')
      exact QName.ext (Option.some.inj huri) hname
    · exact absurd h (prefixed_ne_fullForm nsPrefix hlocal hlocal')
  | false =>
    rw [hplain, if_neg Bool.false_ne_true] at h
    split at h
    · exact absurd h.symm (prefixed_ne_fullForm nsPrefix' hlocal' hlocal)
    · exact QName.fullForm_inj hlocal.isPlainText hlocal'.isPlainText h

/-- Different names that a registry reads are neither stored nor displayed alike, whether they are
shown with a prefix or in full form. -/
theorem display_apart {namespaces : List (String × String)} {associationTypes : List String}
    (h : build namespaces associationTypes = .ok r) (hp : r.resolve a = .ok p)
    (hq : r.resolve b = .ok q) (hne : p ≠ q) :
    p.fullForm ≠ q.fullForm ∧ r.display p.fullForm ≠ r.display q.fullForm := by
  have hbuilt := (build_ok h).2
  refine ⟨fun hstored => hne ?_, fun hshown => hne (hbuilt.display_inj hp hq hshown)⟩
  exact QName.fullForm_inj (hbuilt.of_resolve hp).1.isPlainText
    (hbuilt.of_resolve hq).1.isPlainText hstored

/-- A URI that is shown with a prefix which begins like a full form, and a URI with braces and a
colon, which is not shown with a prefix. -/
def lookalikes : List (String × String) :=
  [("\x7bx\x7dy", "urn:a"), ("a", "urn:a"), ("b", "x\x7dy:c\x7b")]

def behindPrefix : QName := ⟨"urn:a", "l", by decide⟩

def inFullForm : QName := ⟨"x\x7dy:c\x7b", "l", by decide⟩

theorem display_apart_lookalikes :
    ∃ r, build lookalikes [] = .ok r ∧
      r.resolve (some "a:l") = .ok behindPrefix ∧ r.resolve (some "b:l") = .ok inFullForm ∧
      behindPrefix ≠ inFullForm ∧ behindPrefix.fullForm ≠ inFullForm.fullForm ∧
      r.display behindPrefix.fullForm = "\x7bx\x7dy:l" ∧
      r.display inFullForm.fullForm = "\x7bx\x7dy:c\x7b\x7dl" ∧
      r.display behindPrefix.fullForm ≠ r.display inFullForm.fullForm := by
  obtain ⟨r, h⟩ : ∃ r, build lookalikes [] = .ok r := exists_build_iff.mpr nofun
  have hreads (nsPrefix : String) (q : QName) (text : String)
      (hparse : PrefixedName.parse (some text) = .ok ⟨nsPrefix, q.localName⟩)
      (huri : Entries.lastValue? (registered lookalikes) nsPrefix = some q.namespaceUri) :
      r.resolve (some text) = .ok q :=
    (resolve_ok_iff_denotes h).mpr ⟨nsPrefix, PrefixedName.parse_ok_iff.mp hparse, huri⟩
  have hp := hreads "a" behindPrefix "a:l" (by decide +kernel) (by decide)
  have hq := hreads "b" inFullForm "b:l" (by decide +kernel) (by decide)
  have hne : behindPrefix ≠ inFullForm := by decide
  obtain ⟨hstored, hshown⟩ := display_apart h hp hq hne
  refine ⟨r, h, hp, hq, hne, hstored, ?_, ?_, hshown⟩
  · obtain ⟨huri, hwith, -⟩ := build_ok_iff.mp h
    have hns : r.prefixByUri.get? behindPrefix.namespaceUri = some "\x7bx\x7dy" := by
      rw [hwith, huri]
      decide
    rw [display_fullForm ((build_ok h).2.of_resolve hp).1 hns]
    decide
  · obtain ⟨hlocal, nsPrefix, hns⟩ := (build_ok h).2.of_resolve hq
    rw [display_fullForm hlocal hns, if_neg (by decide)]
    decide

end Multifiling.Registry
