import Multifiling.Proofs.Filing.Delete

/-!
Creating and deleting undo each other. Links that were just created can be deleted one by one, in
any order, and then the associations are those from before (`run_deleteLinks`). A link that is
deleted can be created again with the same texts, and then stands last (`run_create_again`).
-/

namespace Multifiling.Filing
open Store Operation

variable {s t u : Store} {registry : Registry} {parentId : String} {parent : Node}

theorem Became.sameTree {item : ChildLink × QName} {a : Association} (h : Became s parent item a)
    (hsame : SameTree s t) : Became t parent item a :=
  ⟨h.parent_eq, h.type_eq, h.secondary, by simpa only [hsame.resolve] using h.child⟩

/-! ### Deleting what was created -/

/-- Removes links from under a parent one after the other, each by its texts. -/
def deleteLinks (registry : Registry) (parentId : String) : List ChildLink → Operation Unit
  | [] => return ()
  | link :: rest => do
    delete registry parentId link.childId link.assocType
    deleteLinks registry parentId rest

private theorem forall₂_append_cons {α β : Type} {R : α → β → Prop} {xs ys : List α} {x : α}
    {zs : List β} (h : List.Forall₂ R (xs ++ x :: ys) zs) :
    ∃ us z vs, zs = us ++ z :: vs ∧ List.Forall₂ R xs us ∧ R x z ∧ List.Forall₂ R ys vs := by
  induction xs generalizing zs with
  | nil =>
    obtain ⟨z, vs, hz, hvs, rfl⟩ := List.forall₂_cons_left_iff.mp h
    exact ⟨[], z, vs, rfl, .nil, hz, hvs⟩
  | cons w xs ih =>
    obtain ⟨u, us, hu, hus, rfl⟩ := List.forall₂_cons_left_iff.mp h
    obtain ⟨us', z, vs, rfl, hus', hz, hvs⟩ := ih hus
    exact ⟨u :: us', z, vs, rfl, .cons hu hus', hz, hvs⟩

/-- One link of those that were appended is deleted, and the others stay. -/
theorem run_delete_appended {link : ChildLink} {type : QName} {a : Association}
    {before after : List Association} (hu : u.Sound) (hsame : SameTree s u)
    (hp : s.resolve (some parentId) = .ok parent)
    (ht : requiredType registry link.assocType = .ok type)
    (ha : Became s parent (link, type) a) (hsplit : u.associations = before ++ a :: after) :
    (delete registry parentId link.childId link.assocType).run u =
      .ok () { u with associations := before ++ after } := by
  obtain ⟨child, hchild, hchildId, -⟩ := ha.child
  have haddressed : Addressed u registry parentId link.childId link.assocType a :=
    ⟨map_eq_ok.mpr ⟨parent, (hsame.resolve _).trans hp, ha.parent_eq.symm⟩,
      map_eq_ok.mpr ⟨child, (hsame.resolve _).trans hchild, hchildId.symm⟩,
      map_eq_ok.mpr ⟨type, ht, ha.type_eq.symm⟩⟩
  exact run_delete_link hu.keyed hu.constraints haddressed hsplit ha.secondary

/-- Links that were appended are deleted in any order, which leaves the associations before them. -/
theorem run_deleteLinks {kept new : List Association} {items : List (ChildLink × QName)}
    {order : List ChildLink} (hu : u.Sound) (hsame : SameTree s u)
    (hp : s.resolve (some parentId) = .ok parent) (happended : u.associations = kept ++ new)
    (hnew : List.Forall₂ (Became s parent) items new)
    (htypes : ∀ item ∈ items, requiredType registry item.1.assocType = .ok item.2)
    (horder : order.Perm (items.map Prod.fst)) :
    ∃ v, (deleteLinks registry parentId order).run u = .ok () v ∧ v.associations = kept ∧
      SameTree s v := by
  induction order generalizing u items new with
  | nil =>
    have hnil : items = [] := List.map_eq_nil_iff.mp (List.nil_perm.mp horder)
    subst hnil
    cases hnew
    exact ⟨u, rfl, by rw [happended, List.append_nil], hsame⟩
  | cons link rest ih =>
    obtain ⟨item, hitem, rfl⟩ := List.mem_map.mp (horder.subset List.mem_cons_self)
    obtain ⟨earlier, later, rfl⟩ := List.append_of_mem hitem
    obtain ⟨before, a, after, rfl, hbefore, ha, hafter⟩ := forall₂_append_cons hnew
    have hdelete := run_delete_appended hu hsame hp (htypes item hitem) ha
      (by rw [happended, List.append_assoc] : u.associations = (kept ++ before) ++ a :: after)
    have hchanges := delete_after registry parentId item.1.childId item.1.assocType u
    rw [after_of_ok hdelete] at hchanges
    rw [List.map_append, List.map_cons] at horder
    have hrest : rest.Perm ((earlier ++ later).map Prod.fst) := by
      rw [List.map_append]
      exact (horder.trans List.perm_middle).cons_inv
    have hothers : ∀ i ∈ earlier ++ later, i ∈ earlier ++ item :: later :=
      (List.Sublist.append_left (List.sublist_cons_self item later) earlier).subset
    obtain ⟨v, hv, hkept, hsame'⟩ := ih (hchanges.sound hu)
      (hsame.trans (hchanges.sameTree (by decide))) (List.append_assoc ..)
      (List.rel_append hbefore hafter) (fun i hi => htypes i (hothers i hi)) hrest
    refine ⟨v, ?_, hkept, hsame'⟩
    rw [deleteLinks, EStateM.run_bind, hdelete]
    exact hv

/-! ### Creating what was deleted -/

/-- An association bears the name of its child. -/
def Named (s : Store) (a : Association) : Prop :=
  ∃ n ∈ s.nodes, n.id = a.child ∧ ∃ name, linkName n = .ok name ∧ a.name = name.fullForm

theorem Became.named {item : ChildLink × QName} {a : Association} (h : Became s parent item a) :
    Named s a := by
  obtain ⟨child, hchild, hid, hname⟩ := h.child
  exact ⟨child, (resolve_ok hchild).1, hid.symm, hname⟩

/-- A secondary association that bears the name of its child is deleted and created again. -/
theorem run_create_again (hs : s.Sound) {link : ChildLink} {a : Association}
    {before after : List Association} (hsplit : s.associations = before ++ a :: after)
    (hsecondary : a.isPrimary = false) (hnamed : Named s a)
    (h : Addressed s registry parentId link.childId link.assocType a) :
    ∃ u v b, (delete registry parentId link.childId link.assocType).run s = .ok () u ∧
      (create registry parentId [link]).run u = .ok [link] v ∧
      v.associations = (before ++ after) ++ [b] ∧ b.edge = a.edge := by
  have ha : a ∈ s.associations := by simp [hsplit]
  have hdelete := run_delete_link hs.keyed hs.constraints h hsplit hsecondary
  obtain ⟨parent, hp, hpa⟩ := map_eq_ok.mp h.parent
  obtain ⟨child, hc, hca⟩ := map_eq_ok.mp h.child
  obtain ⟨type, ht, hta⟩ := map_eq_ok.mp h.type
  set u : Store := { s with associations := before ++ after } with hu
  have hchanges := delete_after registry parentId link.childId link.assocType s
  rw [after_of_ok hdelete] at hchanges
  have hsame : SameTree s u := hchanges.sameTree (by decide)
  -- the child is the node whose name the association bears
  obtain ⟨n, hn, hnid, name, hname, hna⟩ := hnamed
  have hchild : n = child := by
    have h := (hs.numbered.node?_eq hn).symm.trans
      ((hnid.trans hca.symm) ▸ hs.numbered.node?_eq (resolve_ok hc).1)
    exact Option.some.inj h
  subst hchild
  have hself : ¬parent.id = n.id := fun h => hs.constraints.apart a ha (by rw [← hpa, ← hca, h])
  -- what was in the way of another such link is gone
  have hothers := hs.constraints.others hsplit
  rw [← hpa, ← hca, ← hta, hna] at hothers
  have hlink : ¬u.hasAssociation parent.id n.id type.fullForm := by
    intro h
    obtain ⟨b, hb, hedge⟩ := hasAssociation_iff.mp h
    exact (hothers b hb).1 hedge
  have htaken : ¬u.hasChildName parent.id type.fullForm name.fullForm := by
    intro h
    obtain ⟨b, hb, hedge⟩ := hasChildName_iff.mp h
    exact (hothers b hb).2 hedge
  have hnew : newLink u parent link type =
      .ok (u.nextAssociation parent.id n.id type.fullForm name.fullForm false) := by
    rw [newLink, hsame.resolve, hc]
    simp only [hname, if_neg hself, if_neg hlink, if_neg htaken]
  have hpu : u.resolve (some parentId) = .ok parent := (hsame.resolve _).trans hp
  have hcreate := run_create_single hpu ht
  rw [hnew] at hcreate
  refine ⟨u, _, _, hdelete, hcreate, rfl, ?_⟩
  rw [Association.edge, Association.edge, ← hpa, ← hca, ← hta, hna, hsecondary]
  rfl

end Multifiling.Filing
