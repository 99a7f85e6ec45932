import Multifiling.Proofs.Filing.Change
import Multifiling.Proofs.NodeView

/-!
Listings of secondary children. What is remembered while a page is built does not change what is
shown (`showAll_eq`), so a page is a part of the whole listing (`list_eq`). Creating links appends
to the listing and changes nothing in it (`listing_grows`), and neither does asking for more parts
of its views (`list_short`).
-/

namespace Multifiling.Filing
open Store

variable {s t : Store} {registry : Registry} {includes : List Include} {shown : Shown}

/-! ### Views without memory -/

/-- Types and users are remembered as the registry and the store show them. -/
structure Faithful (s : Store) (registry : Registry) (shown : Shown) : Prop where
  types : ∀ stored text, shown.types.get? stored = some text → registry.display stored = text
  users : NodeView.Faithful s shown.users

theorem Faithful.empty (s : Store) (registry : Registry) : Faithful s registry {} :=
  ⟨nofun, .nil s⟩

theorem showType_eq (h : Faithful s registry shown) (stored : String) :
    ∃ shown', showType registry shown stored = (registry.display stored, shown') ∧
      Faithful s registry shown' := by
  rw [showType]
  cases hget : shown.types.get? stored with
  | some text => exact ⟨shown, by rw [h.types stored text hget], h⟩
  | none =>
    refine ⟨_, rfl, fun k text hk => ?_, h.users⟩
    rw [Entries.get?_put] at hk
    split at hk
    · next heq => cases hk; rw [heq]
    · exact h.types k text hk

/-- The view of an association's child with the association itself, from the store alone. -/
def showOne (s : Store) (registry : Registry) (includes : List Include) (a : Association) :
    Except Failure NodeView :=
  match s.node? a.child with
  | none => .error (.nodeNotFound (some a.child.text))
  | some child =>
    (NodeView.plain s registry includes child).map fun view =>
      { view with
        association := some ⟨child.id.text, some (registry.display a.type), a.isPrimary⟩ }

theorem showAssociation_eq (includes : List Include) (h : Faithful s registry shown)
    (a : Association) :
    ∃ shown', showAssociation s registry includes shown a =
      (showOne s registry includes a).map (·, shown') ∧ Faithful s registry shown' := by
  rw [showAssociation, showOne]
  cases s.node? a.child with
  | none => exact ⟨shown, rfl, h⟩
  | some child =>
    obtain ⟨users, hbuild, husers⟩ := NodeView.build_eq registry includes h.users child
    have hremembered : Faithful s registry { shown with users } := ⟨h.types, husers⟩
    obtain ⟨shown', htype, h'⟩ := showType_eq hremembered a.type
    refine ⟨shown', ?_, h'⟩
    simp only [pure_bind, hbuild]
    cases NodeView.plain s registry includes child with
    | error e => rfl
    | ok view =>
      simp only [Except.map, bind, Except.bind, htype]
      rfl

/-- What is remembered does not change what is shown. -/
theorem showAll_eq (includes : List Include) (h : Faithful s registry shown)
    (found : List Association) :
    showAll s registry includes shown found = found.mapM (showOne s registry includes) := by
  induction found generalizing shown with
  | nil => rfl
  | cons a rest ih =>
    obtain ⟨shown', ha, h'⟩ := showAssociation_eq includes h a
    rw [showAll, ha]
    cases hview : showOne s registry includes a with
    | error e => rw [mapM_cons_of_error hview]; rfl
    | ok view =>
      rw [mapM_cons_of_ok hview, ← ih h']
      simp only [Except.map, bind, Except.bind]
      rfl

/-! ### Whole listings -/

/-- The views of all secondary children of a parent, or of all that are linked by one type. -/
def listing (s : Store) (registry : Registry) (includes : List Include) (parent : Uuid)
    (type : Option QName) : Except Failure (List NodeView) :=
  showAll s registry includes {} (secondary s parent type)

variable {parent : Uuid} {type : Option QName} {full : List NodeView}

theorem listing_eq (s : Store) (registry : Registry) (includes : List Include) (parent : Uuid)
    (type : Option QName) :
    listing s registry includes parent type =
      (secondary s parent type).mapM (showOne s registry includes) :=
  showAll_eq includes (.empty s registry) _

theorem listing_ok_iff :
    listing s registry includes parent type = .ok full ↔
      List.Forall₂ (fun a view => showOne s registry includes a = .ok view)
        (secondary s parent type) full := by
  rw [listing_eq, mapM_ok_iff]

theorem mem_secondary {a : Association} :
    a ∈ secondary s parent type ↔ a ∈ s.associations ∧ a.parent = parent ∧
      (∀ q ∈ type, a.type = q.fullForm) ∧ a.isPrimary = false := by
  simp only [secondary, children, List.mem_filter, Bool.and_eq_true, decide_eq_true_eq,
    Bool.not_eq_true', and_assoc]
  cases type <;> simp

/-- A child of a store with constraints can be shown. -/
theorem showOne_ok (hs : s.Constraints) (registry : Registry) (includes : List Include)
    {a : Association} (ha : a ∈ s.associations) :
    ∃ view, showOne s registry includes a = .ok view := by
  obtain ⟨child, hchild⟩ := Option.isSome_iff_exists.mp (node?_isSome.mpr (hs.ends a ha).2)
  obtain ⟨view, hview⟩ := NodeView.plain_ok hs registry includes child
  rw [showOne, hchild]
  simp only [hview]
  exact ⟨_, rfl⟩

theorem listing_ok (hs : s.Constraints) (registry : Registry) (includes : List Include)
    (parent : Uuid) (type : Option QName) :
    ∃ full, listing s registry includes parent type = .ok full := by
  cases h : listing s registry includes parent type with
  | ok full => exact ⟨full, rfl⟩
  | error e =>
    rw [listing_eq] at h
    obtain ⟨a, ha, he⟩ := mapM_error h
    obtain ⟨view, hview⟩ := showOne_ok hs registry includes (mem_secondary.mp ha).1
    rw [hview] at he
    cases he

theorem showOne_sameTree (h : SameTree s t) (registry : Registry) (includes : List Include)
    (a : Association) : showOne t registry includes a = showOne s registry includes a := by
  simp only [showOne, h.node?, NodeView.plain_sameTree h]

/-- Creating links only appends to the whole listing. -/
theorem listing_grows (hs : s.Constraints) (h : Changes Kind.adding s t)
    (hfull : listing s registry includes parent type = .ok full) :
    ∃ full', listing t registry includes parent type = .ok full' ∧ full <+: full' := by
  have hsame := h.sameTree (by decide)
  obtain ⟨full', hfull'⟩ := listing_ok (h.constraints (by decide) hs) registry includes parent type
  refine ⟨full', hfull', ?_⟩
  have happended : secondary s parent type <+: secondary t parent type :=
    (h.associations_prefix.filter _).filter _
  -- the views of what was there before are the first ones now
  have hviews : List.Forall₂ (fun a view => showOne s registry includes a = .ok view)
      (secondary s parent type) (full'.take (secondary s parent type).length) := by
    have h := List.forall₂_take (secondary s parent type).length (listing_ok_iff.mp hfull')
    rw [← List.prefix_iff_eq_take.mp happended] at h
    simpa only [showOne_sameTree hsame] using h
  have heq := (mapM_ok_iff.mpr (listing_ok_iff.mp hfull)).symm.trans (mapM_ok_iff.mpr hviews)
  cases heq
  exact List.take_prefix _ _

/-- A view shows the association that it comes from. -/
theorem showOne_association {a : Association} {view : NodeView}
    (h : showOne s registry includes a = .ok view) :
    view.association = some ⟨a.child.text, some (registry.display a.type), a.isPrimary⟩ := by
  rw [showOne] at h
  split at h
  · cases h
  · next child hchild =>
    obtain ⟨plain, -, rfl⟩ := map_eq_ok.mp h
    rw [← (node?_eq_some hchild).2]

/-! ### Pages -/

theorem mem_window {α : Type} {xs : List α} {first last : Int} {x : α}
    (h : x ∈ window xs first last) : x ∈ xs :=
  List.mem_of_mem_take (List.mem_of_mem_drop h)

/-- What is on a page comes from associations of the parent. -/
theorem list_ok {parentId : String} {assocType : Option String} {offset limit : Int} {p : Node}
    {views : List NodeView} {total : Nat} (hparent : s.lookup (some parentId) = .ok p)
    (h : list s registry parentId assocType includes offset limit = .ok (views, total)) :
    ∀ view ∈ views, ∃ a ∈ secondary s p.id none, showOne s registry includes a = .ok view := by
  simp only [list, hparent, bind, Except.bind] at h
  split at h
  · cases h
  · next type _ =>
    split at h
    · cases h
    · next shown hshown =>
      cases h
      rw [showAll_eq includes (.empty s registry), mapM_ok_iff] at hshown
      intro view hview
      obtain ⟨a, ha, hone⟩ := forall₂_of_mem_right hshown hview
      obtain ⟨hmem, hparent, -, hsecondary⟩ := mem_secondary.mp (mem_window ha)
      exact ⟨a, mem_secondary.mpr ⟨hmem, hparent, nofun, hsecondary⟩, hone⟩

theorem window_eq {α : Type} (xs : List α) (offset : Nat) {limit : Int} (h : 0 ≤ limit) :
    window xs offset (offset + limit) = (xs.drop offset).take limit.toNat := by
  have hfirst : position xs.length offset = offset := by
    rw [position, if_neg (by omega)]
    omega
  have hlast : position xs.length (offset + limit) = offset + limit.toNat := by
    rw [position, if_neg (by omega)]
    omega
  rw [window, hfirst, hlast, List.drop_take]
  congr 1
  omega

/-- A page is a part of the whole listing, and its total is the length of the whole. -/
theorem list_eq {parentId : String} {assocType : Option String} {p : Node}
    (hparent : s.lookup (some parentId) = .ok p)
    (htype : optionalType registry assocType = .ok type)
    (hfull : listing s registry includes p.id type = .ok full) (offset : Nat) {limit : Int}
    (h : 0 ≤ limit) :
    list s registry parentId assocType includes offset limit =
      .ok ((full.drop offset).take limit.toNat, full.length) := by
  have hviews := listing_ok_iff.mp hfull
  have hpage : showAll s registry includes {} (window (secondary s p.id type) offset
      (offset + limit)) = .ok ((full.drop offset).take limit.toNat) := by
    rw [window_eq _ _ h, showAll_eq includes (.empty s registry)]
    exact mapM_ok_iff.mpr (List.forall₂_take _ (List.forall₂_drop _ hviews))
  simp only [list, hparent, htype, bind, Except.bind, hpage]
  rw [hviews.length_eq]
  rfl

/-! ### Parts -/

theorem showOne_short (hs : s.Constraints) (registry : Registry) (includes : List Include)
    (a : Association) :
    (showOne s registry includes a).map NodeView.short = showOne s registry [] a := by
  rw [showOne, showOne]
  cases s.node? a.child with
  | none => rfl
  | some child =>
    simp only [← NodeView.plain_short hs registry includes child]
    cases NodeView.plain s registry includes child <;> rfl

theorem showOne_holds {a : Association} {view : NodeView}
    (h : showOne s registry includes a = .ok view) (part : Include) :
    view.holds part = includes.contains part := by
  rw [showOne] at h
  split at h
  · cases h
  · obtain ⟨plain, hplain, rfl⟩ := map_eq_ok.mp h
    rw [← NodeView.plain_holds hplain]
    cases part <;> rfl

variable {parentId : String} {assocType : Option String} {offset limit : Int}

/-- Asking for parts changes nothing else in a page. -/
theorem list_short (hs : s.Constraints) (registry : Registry) (parentId : String)
    (assocType : Option String) (includes : List Include) (offset limit : Int) :
    (list s registry parentId assocType includes offset limit).map
        (Prod.map (List.map NodeView.short) id) =
      list s registry parentId assocType [] offset limit := by
  have hviews (found : List Association) :
      (found.mapM (showOne s registry includes)).map (List.map NodeView.short) =
        found.mapM (showOne s registry []) := by
    rw [map_mapM, funext (showOne_short hs registry includes)]
  simp only [list, showAll_eq _ (.empty s registry), ← hviews]
  cases s.lookup (some parentId) with
  | error e => rfl
  | ok parent =>
    cases optionalType registry assocType with
    | error e => rfl
    | ok type =>
      simp only [bind, Except.bind]
      cases (window (secondary s parent.id type) offset (offset + limit)).mapM
        (showOne s registry includes) <;> rfl

/-- A page depends only on which parts are asked for. -/
theorem list_congr {others : List Include} (h : ∀ part, part ∈ includes ↔ part ∈ others) :
    list s registry parentId assocType includes offset limit =
      list s registry parentId assocType others offset limit := by
  have hcontains (part : Include) : includes.contains part = others.contains part := by
    rw [Bool.eq_iff_iff, List.contains_iff_mem, List.contains_iff_mem, h]
  have hshow : showOne s registry includes = showOne s registry others := by
    funext a
    simp only [showOne, NodeView.plain, hcontains]
  simp only [list, showAll_eq _ (.empty s registry), hshow]

/-- The views on a page hold the parts that were asked for. -/
theorem list_holds {views : List NodeView} {total : Nat}
    (h : list s registry parentId assocType includes offset limit = .ok (views, total)) :
    ∀ view ∈ views, ∀ part, view.holds part = includes.contains part := by
  cases hparent : s.lookup (some parentId) with
  | error e =>
    rw [list, hparent] at h
    cases h
  | ok parent =>
    intro view hview
    obtain ⟨a, -, ha⟩ := list_ok hparent h view hview
    exact showOne_holds ha

end Multifiling.Filing
