import Multifiling.Proofs.Registry.Registered
import Multifiling.Proofs.Settings
import Multifiling.Proofs.Text.Pieces

/-!
The setting for namespaces. Whoever writes pairs as entries between commas, with blanks and with
entries that are passed over, gets each prefix with its last URI, in the order in which the prefixes
first stand there; and a registry that is built from the setting reads names with these prefixes,
and with those built-in ones that were not written (`namespaces_decoded`).
-/

namespace Multifiling.Settings
open Text Entries

/-- A prefix and a URI that an entry can hold. -/
structure Writable (pair : String × String) : Prop where
  nsPrefix : Trimmed pair.1
  uri : Trimmed pair.2
  commaFree : ',' ∉ pair.1.toList ∧ ',' ∉ pair.2.toList
  signFree : '=' ∉ pair.1.toList

instance (pair : String × String) : Decidable (Writable pair) :=
  decidable_of_iff (Trimmed pair.1 ∧ Trimmed pair.2 ∧
      (',' ∉ pair.1.toList ∧ ',' ∉ pair.2.toList) ∧ '=' ∉ pair.1.toList)
    ⟨fun h => ⟨h.1, h.2.1, h.2.2.1, h.2.2.2⟩,
      fun h => ⟨h.nsPrefix, h.uri, h.commaFree, h.signFree⟩⟩

/-- The gaps around the two sides of an entry. -/
structure Margins where
  before : Gap
  beforeSign : Gap
  afterSign : Gap
  after : Gap

/-- The entry that holds a pair. -/
def Margins.entry (m : Margins) (pair : String × String) : List Char :=
  (m.before.chars ++ pair.1.toList ++ m.beforeSign.chars) ++ '=' ::
    (m.afterSign.chars ++ pair.2.toList ++ m.after.chars)

/-- An entry that holds no pair: a blank one, one without a sign, and one with a blank side. -/
inductive PassedOver : List Char → Prop where
  | blank (gap : Gap) : PassedOver gap.chars
  | unsigned {entry : List Char} (h : '=' ∉ entry) : PassedOver entry
  | noPrefix (gap : Gap) (uri : List Char) : PassedOver (gap.chars ++ '=' :: uri)
  | noUri {nsPrefix : List Char} (h : '=' ∉ nsPrefix) (gap : Gap) :
    PassedOver (nsPrefix ++ '=' :: gap.chars)

/-- Entries that hold pairs, in their order, and others that are passed over. -/
inductive Hold : List (List Char) → List (String × String) → Prop where
  | nil : Hold [] []
  | pair {entries : List (List Char)} {pairs : List (String × String)} {pair : String × String}
    (m : Margins) (h : Writable pair) (rest : Hold entries pairs) :
    Hold (m.entry pair :: entries) (pair :: pairs)
  | other {entries : List (List Char)} {pairs : List (String × String)} {entry : List Char}
    (hcomma : ',' ∉ entry) (h : PassedOver entry) (rest : Hold entries pairs) :
    Hold (entry :: entries) pairs

/-- A text that lists pairs, with commas between its entries. -/
def Lists (text : String) (pairs : List (String × String)) : Prop :=
  ∃ entries, Hold entries pairs ∧ text.toList = [','].intercalate entries

/-! ### Entries -/

variable {pair : String × String} {entry : List Char} {entries : List (List Char)}
  {pairs : List (String × String)} {text : String}

theorem notMem_gap {c : Char} (hc : isBlank c = false) (gap : Gap) : c ∉ gap.chars := by
  intro hmem
  rw [gap.blank c hmem] at hc
  cases hc

theorem readPair?_entry (m : Margins) (h : Writable pair) :
    readPair? (m.entry pair) = some pair := by
  have hgap := notMem_gap (c := '=') (by decide)
  have hcut : cutAt? '=' (m.entry pair) = some (m.before.chars ++ pair.1.toList ++
      m.beforeSign.chars, m.afterSign.chars ++ pair.2.toList ++ m.after.chars) :=
    cutAt?_eq_some_iff.mpr ⟨rfl, by simp [hgap, h.signFree]⟩
  have hprefix : pair.1.toList.isEmpty = false := by simpa using h.nsPrefix.ne
  have huri : pair.2.toList.isEmpty = false := by simpa using h.uri.ne
  simp only [readPair?, hcut, trimChars_around]
  rw [trimChars, trimChars, h.nsPrefix.ends.strip_eq, h.uri.ends.strip_eq, hprefix, huri]
  simp

theorem readPair?_passedOver (h : PassedOver entry) : readPair? entry = none := by
  have hgap := notMem_gap (c := '=') (by decide)
  cases h with
  | blank gap => rw [readPair?, cutAt?_eq_none (hgap gap)]
  | unsigned h => rw [readPair?, cutAt?_eq_none h]
  | noPrefix gap uri =>
    have hcut : cutAt? '=' (gap.chars ++ '=' :: uri) = some (gap.chars, uri) :=
      cutAt?_eq_some_iff.mpr ⟨rfl, hgap gap⟩
    simp [readPair?, hcut, trimChars_gap]
  | @noUri nsPrefix h gap =>
    have hcut : cutAt? '=' (nsPrefix ++ '=' :: gap.chars) = some (nsPrefix, gap.chars) :=
      cutAt?_eq_some_iff.mpr ⟨rfl, h⟩
    simp [readPair?, hcut, trimChars_gap]

theorem Hold.commaFree (h : Hold entries pairs) : ∀ entry ∈ entries, ',' ∉ entry := by
  induction h with
  | nil => exact nofun
  | pair m h _ ih =>
    have hgap := notMem_gap (c := ',') (by decide)
    exact List.forall_mem_cons.mpr ⟨by simp [Margins.entry, hgap, h.commaFree], ih⟩
  | other hcomma _ _ ih => exact List.forall_mem_cons.mpr ⟨hcomma, ih⟩

theorem Hold.filterMap_readPair? (h : Hold entries pairs) :
    entries.filterMap readPair? = pairs := by
  induction h with
  | nil => rfl
  | pair m h _ ih => rw [List.filterMap_cons_some (readPair?_entry m h), ih]
  | other _ h _ ih => rw [List.filterMap_cons_none (readPair?_passedOver h), ih]

theorem readNamespaces_of (h : Lists text pairs) : readNamespaces text = putAll [] pairs := by
  obtain ⟨entries, hhold, htext⟩ := h
  rw [readNamespaces, htext]
  cases entries with
  | nil =>
    cases hhold
    rfl
  | cons entry rest =>
    rw [pieces_intercalate (List.cons_ne_nil entry rest) hhold.commaFree,
      hhold.filterMap_readPair?]

/-! ### Settings -/

section
variable {env : List (String × String)} {settings : Settings} {namespaces : Entries String String}

theorem namespaces_of_ofEnvironment (h : ofEnvironment env = .ok settings) : settings.namespaces =
    readNamespaces ((firstValue? env ["NAMESPACES", "NAMESPACES_STR"]).getD "") := by
  simp only [ofEnvironment] at h
  split at h
  · cases h
    rfl
  · cases h

/-- Entries that a list of pairs left give a registry the same URIs as the pairs themselves. -/
theorem lastValue?_registered (h : LeftBy pairs namespaces) (nsPrefix : String) :
    lastValue? (Registry.registered namespaces) nsPrefix =
      (lastValue? pairs nsPrefix).or (ContentModel.namespaces.lookup nsPrefix) := by
  have hbuiltIn : lastValue? ContentModel.namespaces nsPrefix =
      ContentModel.namespaces.lookup nsPrefix := lastValue?_of_nodup (by decide) nsPrefix
  rw [Registry.registered, lastValue?_append, hbuiltIn, lastValue?_of_nodup h.nodup, h.value]

/-- A setting that lists pairs is the mapping from each prefix to its last URI, in the order in
which the prefixes first stand in it. A registry can be built from it, and reads a prefixed form
with the URI that its prefix has there, or else has built in. -/
theorem namespaces_decoded (h : ofEnvironment env = .ok settings)
    (htext : (firstValue? env ["NAMESPACES", "NAMESPACES_STR"]).getD "" = text)
    (hpairs : Lists text pairs) :
    (∀ nsPrefix, settings.namespaces.get? nsPrefix = lastValue? pairs nsPrefix) ∧
    settings.namespaces.map Prod.fst = (pairs.map Prod.fst).eraseDups ∧
    (∃ r, Registry.build settings.namespaces [] = .ok r) ∧
    ∀ associationTypes r, Registry.build settings.namespaces associationTypes = .ok r →
      ∀ (name : PrefixedName) (form : String), name.WrittenAs form →
        (∀ uri, lastValue? pairs name.nsPrefix = some uri → ∃ q, r.resolve (some form) = .ok q ∧
          q.namespaceUri = uri ∧ q.localName = name.localName) ∧
        (name.nsPrefix ∉ pairs.map Prod.fst →
          ∀ uri, (name.nsPrefix, uri) ∈ ContentModel.namespaces →
            ∃ q, r.resolve (some form) = .ok q ∧
              q.namespaceUri = uri ∧ q.localName = name.localName) := by
  have hread : settings.namespaces = putAll [] pairs := by
    rw [namespaces_of_ofEnvironment h, htext, readNamespaces_of hpairs]
  have hleft : LeftBy pairs settings.namespaces := hread ▸ LeftBy.nil.putAll pairs
  refine ⟨hleft.value, hread ▸ map_fst_putAll pairs, Registry.exists_build_iff.mpr nofun, ?_⟩
  intro associationTypes r hbuild name form hform
  have hresolve (uri : String) (huri : (lastValue? pairs name.nsPrefix).or
      (ContentModel.namespaces.lookup name.nsPrefix) = some uri) : ∃ q,
      r.resolve (some form) = .ok q ∧ q.namespaceUri = uri ∧ q.localName = name.localName := by
    rw [← lastValue?_registered hleft] at huri
    obtain ⟨q, hdenotes, hq⟩ := Registry.denotes_of_writtenAs hform huri
    exact ⟨q, (Registry.resolve_ok_iff_denotes hbuild).mpr hdenotes, hq⟩
  constructor
  · intro uri huri
    exact hresolve uri (by rw [huri, Option.some_or])
  · intro hother uri hmem
    have hnone : lastValue? pairs name.nsPrefix = none := by
      rw [← Option.not_isSome_iff_eq_none, lastValue?_isSome_iff]
      exact hother
    refine hresolve uri ?_
    rw [hnone, Option.none_or]
    exact (get?_eq_some_iff (by decide)).mpr hmem

end

/-- An environment in which the built-in `cm` is written twice, between entries that are passed
over. -/
def paddedPairs : List (String × String) :=
  [("DATABASE_URL", "sqlite://"), ("Namespaces", "cm = urn:a ,off, =x,y= , a=urn:b=c,cm=urn:d ,")]

/-- A gap of one blank. -/
def spaced : Gap := ⟨[' '], List.forall_mem_singleton.mpr (by decide)⟩

theorem paddedPairs_lists : Lists "cm = urn:a ,off, =x,y= , a=urn:b=c,cm=urn:d ,"
    [("cm", "urn:a"), ("a", "urn:b=c"), ("cm", "urn:d")] := by
  have hfirst : Writable ("cm", "urn:a") := by decide +kernel
  have hsecond : Writable ("a", "urn:b=c") := by decide +kernel
  have hthird : Writable ("cm", "urn:d") := by decide +kernel
  have hunsigned : '=' ∉ ['o', 'f', 'f'] := by decide
  have hnoUri : '=' ∉ ['y'] := by decide
  have hold := Hold.nil
    |>.other (by decide) (.blank .empty)
    |>.pair ⟨.empty, .empty, .empty, spaced⟩ hthird
    |>.pair ⟨spaced, .empty, .empty, .empty⟩ hsecond
    |>.other (by decide) (.noUri hnoUri spaced)
    |>.other (by decide) (.noPrefix spaced ['x'])
    |>.other (by decide) (.unsigned hunsigned)
    |>.pair ⟨.empty, spaced, spaced, spaced⟩ hfirst
  exact ⟨_, hold, by decide⟩

/-- The later URI of `cm` counts, in the place of the earlier one; `sys` is as built in. -/
theorem namespaces_decoded_paddedPairs : ∃ settings r, ofEnvironment paddedPairs = .ok settings ∧
    settings.namespaces.map Prod.fst = ["cm", "a"] ∧
    settings.namespaces.get? "cm" = some "urn:d" ∧ settings.namespaces.get? "a" = some "urn:b=c" ∧
    Registry.build settings.namespaces [] = .ok r ∧
    (∃ q, r.resolve (some "a:x") = .ok q ∧ q.namespaceUri = "urn:b=c" ∧ q.localName = "x") ∧
    ∃ q, r.resolve (some "sys:x") = .ok q ∧
      q.namespaceUri = ContentModel.systemUri ∧ q.localName = "x" := by
  obtain ⟨settings, hsettings⟩ : ∃ settings, ofEnvironment paddedPairs = .ok settings :=
    exists_ok_of_isOk (by decide +kernel)
  have hgiven : (firstValue? paddedPairs ["NAMESPACES", "NAMESPACES_STR"]).getD "" =
      "cm = urn:a ,off, =x,y= , a=urn:b=c,cm=urn:d ," := by decide
  obtain ⟨hvalue, horder, ⟨r, hr⟩, hresolve⟩ :=
    namespaces_decoded hsettings hgiven paddedPairs_lists
  have hreads (name : PrefixedName) (form : String)
      (hparse : PrefixedName.parse (some form) = .ok name) :=
    hresolve [] r hr name form (PrefixedName.parse_ok_iff.mp hparse)
  refine ⟨settings, r, hsettings, horder, hvalue "cm", hvalue "a", hr, ?_, ?_⟩
  · exact (hreads ⟨"a", "x"⟩ "a:x" (by decide +kernel)).1 _ (by decide)
  · exact (hreads ⟨"sys", "x"⟩ "sys:x" (by decide +kernel)).2 (by decide) _ (by decide)

end Multifiling.Settings
