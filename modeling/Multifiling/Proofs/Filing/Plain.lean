import Multifiling.Proofs.Filing.Listing
import Multifiling.Proofs.Session.Ordinary

/-!
Listings in plain form. A page is a stretch of the secondary associations of its parent, each shown
on its own with nothing remembered, and the total counts them all. The listing of one type is what
is left of the listing of all types (`list_closed`).
-/

namespace Multifiling

variable {s : Store} {registry : Registry} {includes : List Include}

/-- The secondary associations of a parent, all or those stored with a type, in the order in which
they were made. -/
def Store.filings (s : Store) (parent : Uuid) (type : Option QName) : List Association :=
  s.associations.filter fun a =>
    a.parent = parent && !a.isPrimary && type.all (a.type = ·.fullForm)

theorem Store.filings_of_type (s : Store) (parent : Uuid) (type : QName) :
    s.filings parent (some type) = (s.filings parent none).filter (·.type = type.fullForm) := by
  rw [filings, filings, List.filter_filter]
  refine List.filter_congr fun a _ => ?_
  simp only [Option.all_some, Option.all_none, Bool.and_true]
  exact Bool.and_comm _ _

namespace Filing
open Store

/-- An association is shown on its own: its child as it is built where no user is remembered, with
the association's type as the registry displays it. -/
def ShownAlone (s : Store) (registry : Registry) (includes : List Include) (a : Association)
    (view : NodeView) : Prop :=
  ∃ child plain users, s.node? a.child = some child ∧
    NodeView.build s registry includes [] child = .ok (plain, users) ∧
    view = { plain with association := some ⟨child.id.text, some (registry.display a.type), false⟩ }

/-- Of the views of associations, those of the associations that are stored with a type. -/
def viewsOf (type : QName) (found : List Association) (views : List NodeView) : List NodeView :=
  ((found.zip views).filter fun pair => pair.1.type = type.fullForm).map Prod.snd

theorem secondary_eq (s : Store) (parent : Uuid) (type : Option QName) :
    secondary s parent type = s.filings parent type := by
  rw [secondary, children, filings, List.filter_filter]
  refine List.filter_congr fun a _ => ?_
  rw [Option.all_map, ← Bool.and_assoc, Bool.and_comm (!a.isPrimary)]

theorem shownAlone_of_showOne {a : Association} {view : NodeView} (hp : a.isPrimary = false)
    (h : showOne s registry includes a = .ok view) : ShownAlone s registry includes a view := by
  rw [showOne] at h
  split at h
  · cases h
  · next child hchild =>
    obtain ⟨plain, hplain, rfl⟩ := map_eq_ok.mp h
    obtain ⟨users, hbuild, -⟩ := NodeView.build_eq registry includes (.nil s) child
    refine ⟨child, plain, users, hchild, ?_, by rw [hp]⟩
    rw [hbuild, hplain]
    rfl

/-- Listing in closed form, for a parent that is there. The page is the stretch that was asked for
of the secondary associations, each shown on its own; and the page of one type is that stretch of
the listing without a type, once only the views of that type are left in it. -/
theorem list_closed (hs : s.Constraints) {parentId : String} {parent : Node}
    (hp : s.lookup (some parentId) = .ok parent) (registry : Registry) (includes : List Include) :
    (∀ given type (offset : Nat) (limit : Int), Selects registry given type → 1 ≤ limit →
      ∃ views, list s registry parentId given includes offset limit =
          .ok (views, (s.filings parent.id type).length) ∧
        List.Forall₂ (ShownAlone s registry includes)
          (((s.filings parent.id type).drop offset).take limit.toNat) views) ∧
    ∃ whole, (∀ enough : Int, (s.filings parent.id none).length ≤ enough →
        list s registry parentId none includes 0 enough =
          .ok (whole, (s.filings parent.id none).length)) ∧
      ∀ given type (offset : Nat) (limit : Int), NamesType registry given type → 1 ≤ limit →
        list s registry parentId given includes offset limit =
          .ok (((viewsOf type (s.filings parent.id none) whole).drop offset).take limit.toNat,
            (viewsOf type (s.filings parent.id none) whole).length) := by
  have hviews {type : Option QName} {full : List NodeView} :
      listing s registry includes parent.id type = .ok full ↔
        List.Forall₂ (fun a view => showOne s registry includes a = .ok view)
          (s.filings parent.id type) full := by
    rw [listing_ok_iff, secondary_eq]
  constructor
  · intro given type offset limit htype hlimit
    obtain ⟨full, hfull⟩ := listing_ok hs registry includes parent.id type
    have hpage := List.forall₂_take limit.toNat (List.forall₂_drop offset (hviews.mp hfull))
    refine ⟨(full.drop offset).take limit.toNat, ?_, ?_⟩
    · rw [list_eq hp (optionalType_ok_iff.mpr htype) hfull offset (by omega),
        (hviews.mp hfull).length_eq]
    · refine (List.forall₂_iff_zip.mpr ⟨hpage.length_eq, fun {a view} hmem => ?_⟩)
      have ha : a ∈ s.filings parent.id type :=
        List.mem_of_mem_drop (List.mem_of_mem_take (List.of_mem_zip hmem).1)
      rw [← secondary_eq, mem_secondary] at ha
      exact shownAlone_of_showOne ha.2.2.2 ((List.forall₂_iff_zip.mp hpage).2 hmem)
  · obtain ⟨whole, hwhole⟩ := listing_ok hs registry includes parent.id none
    refine ⟨whole, fun enough henough => ?_, fun given type offset limit htype hlimit => ?_⟩
    · have hlength := (hviews.mp hwhole).length_eq
      have hpage := list_eq hp (optionalType_ok_iff.mpr .absent) hwhole 0 (show 0 ≤ enough by omega)
      rw [hlength]
      rwa [List.drop_zero, List.take_of_length_le (by omega)] at hpage
    · have hleft := forall₂_filter (·.type = type.fullForm) (hviews.mp hwhole)
      rw [← filings_of_type] at hleft
      exact list_eq hp (optionalType_ok_iff.mpr (.typed htype)) (hviews.mpr hleft) offset
        (by omega)

/-- A folder with two documents: its second page of one, by type, and its whole listing. -/
theorem list_closed_filedTwice :
    ∃ parent views whole,
      filedTwice.current.lookup (some (Uuid.ofNode 2).text) = .ok parent ∧
      list filedTwice.current plainRegistry (Uuid.ofNode 2).text (some "cm:contains") [.path]
        (1 : Nat) 1 = .ok (views, 2) ∧
      views.length = 1 ∧
      List.Forall₂ (ShownAlone filedTwice.current plainRegistry [.path])
        (((filedTwice.current.filings parent.id (some ContentModel.contains)).drop 1).take 1)
        views ∧
      list filedTwice.current plainRegistry (Uuid.ofNode 2).text none [.path] 0 2 =
        .ok (whole, 2) ∧
      views = ((viewsOf ContentModel.contains (filedTwice.current.filings parent.id none)
        whole).drop 1).take 1 := by
  have hs : filedTwice.current.Sound := filedTwice_ordinary.sound.current
  have hfound : (filedTwice.current.lookup (some (Uuid.ofNode 2).text)).map (·.id) =
      .ok (.ofNode 2) := by decide +kernel
  obtain ⟨parent, hp, hid⟩ := map_eq_ok.mp hfound
  have htyped : (filedTwice.current.filings parent.id (some ContentModel.contains)).length = 2 := by
    rw [hid]
    decide +kernel
  have hall : (filedTwice.current.filings parent.id none).length = 2 := by
    rw [hid]
    decide +kernel
  obtain ⟨hpages, whole, hwhole, hrestricted⟩ :=
    list_closed hs.constraints hp plainRegistry [.path]
  obtain ⟨views, hpage, hviews⟩ := hpages (some "cm:contains") _ 1 1 (.typed namesType_contains)
    (by decide)
  rw [htyped] at hpage
  rw [Int.toNat_one] at hviews
  refine ⟨parent, views, whole, hp, hpage, ?_, hviews, ?_, ?_⟩
  · rw [← hviews.length_eq, List.length_take, List.length_drop, htyped]
    rfl
  · rw [hall] at hwhole
    exact hwhole 2 (Int.le_refl 2)
  · have h := hrestricted (some "cm:contains") _ 1 1 namesType_contains (by decide)
    exact (Prod.mk.inj (Except.ok.inj (hpage.symm.trans h))).1

end Filing

end Multifiling
