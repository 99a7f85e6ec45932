import Multifiling.Proofs.Filing.Delete
import Multifiling.Proofs.Filing.Listing
import Multifiling.Session

/-!
What filing reads and what it changes. Creating and deleting leave the associations of every other
parent as they are (`create_children`, `delete_children`); and what they do, like what a listing
shows, follows from the tree and the edges of the one parent (`create_alike`, `delete_alike`,
`list_alike`).
-/

namespace Multifiling
open Store

namespace Operation

/-- Outcomes that tell the same: successes that leave the same edges of a parent, or failures. -/
inductive Alike {α : Type} (parent : Uuid) :
    EStateM.Result Failure Store α → EStateM.Result Failure Store α → Prop where
  | ok {s t : Store} (a : α) (h : t.edges parent = s.edges parent) :
    Alike parent (.ok a s) (.ok a t)
  | error (e : Failure) (s t : Store) : Alike parent (.error e s) (.error e t)

end Operation

variable {s t : Store}

namespace Store

theorem SameTree.symm (h : SameTree s t) : SameTree t s :=
  ⟨h.users.symm, h.nodes.symm, h.hasTables.symm, h.primaries.symm⟩

theorem edges_addAssociation (s : Store) (a : Association) (parent : Uuid) :
    (s.addAssociation a).edges parent =
      s.edges parent ++ if a.parent = parent then [a.edge] else [] := by
  have happended : (s.addAssociation a).associations = s.associations ++ [a] := rfl
  rw [edges, children_append happended, List.map_append]
  by_cases h : a.parent = parent <;> simp [h, edges]

theorem children_unlink (s : Store) (goes : Association → Bool) (parent : Uuid) :
    (s.unlink goes).children parent none =
      (s.children parent none).filter fun a => !(goes a && !a.isPrimary) := by
  rw [children, children, unlink, List.filter_filter, List.filter_filter]
  exact List.filter_congr fun a _ => Bool.and_comm ..

end Store

namespace Operation

variable {α : Type}

/-- A unit of work leaves the associations of a parent as they are, if its operation does. -/
theorem transact_children {x : Operation α} {parent : Uuid}
    (h : (x.after s).children parent none = s.children parent none) :
    (x.transact s).2.children parent none = s.children parent none := by
  rw [after] at h
  rw [transact]
  cases hx : x.run s with
  | ok a t => rwa [hx] at h
  | error e t => rfl

theorem transact_alike {x : Operation α} {parent : Uuid} (he : t.edges parent = s.edges parent)
    (h : Alike parent (x.run s) (x.run t)) :
    (x.transact t).1 = (x.transact s).1 ∧
      (x.transact t).2.edges parent = (x.transact s).2.edges parent := by
  rw [transact, transact]
  cases hs : x.run s <;> cases ht : x.run t <;> rw [hs, ht] at h <;> cases h
  · next h => exact ⟨rfl, h⟩
  · exact ⟨rfl, he⟩

end Operation

namespace Filing
open Operation

variable {τ : Type} {registry : Registry} {parentId childId : String} {assocType : Option String}
  {links : List (ChildLink τ)} {parent : Node} {other : Uuid}

/-! ### Other parents -/

theorem Appended.children {items : List (ChildLink τ × QName)} (h : Appended s t parent items)
    (hne : parent.id ≠ other) : t.children other none = s.children other none := by
  obtain ⟨new, hnew, hall⟩ := h
  rw [children_append hnew, List.filter_eq_nil_iff.mpr, List.append_nil]
  intro a ha
  clear hnew
  induction hall with
  | nil => cases ha
  | cons hb _ ih =>
    rcases List.mem_cons.mp ha with rfl | ha
    · simpa [hb.parent_eq] using hne
    · exact ih ha

/-- Creating links changes nothing under other parents. -/
theorem create_children [TextForm τ]
    (hne : ∀ n, s.resolve (some parentId) = .ok n → n.id ≠ other) :
    ((create registry parentId links).after s).children other none = s.children other none := by
  rw [after, run_create]
  cases hp : s.resolve (some parentId) with
  | error e => rfl
  | ok parent =>
    simp only
    cases links.mapM fun link => requiredType registry link.assocType with
    | error e => rfl
    | ok types =>
      simp only
      rcases createEach_cases (links.zip types) (hasNode_of_mem (resolve_ok hp).1) with
        ⟨e, t, h, -, -, made, -, hadded⟩ | ⟨t, h, -, hadded⟩
      · rw [h]
        exact hadded.children (hne parent hp)
      · rw [h]
        exact hadded.children (hne parent hp)

/-- Deleting links changes nothing under other parents. -/
theorem delete_children (hs : s.Sound)
    (hne : ∀ n, s.resolve (some parentId) = .ok n → n.id ≠ other) :
    ((delete registry parentId childId assocType).after s).children other none =
      s.children other none := by
  rw [after, run_delete_eq hs.keyed hs.constraints]
  cases hp : s.resolve (some parentId) with
  | error e => rfl
  | ok parent =>
    cases s.resolve (some childId) with
    | error e => rfl
    | ok child =>
      cases optionalType registry assocType with
      | error e => rfl
      | ok type =>
        have hkept : (s.unlink (·.leads parent.id child.id type)).children other none =
            s.children other none := by
          rw [children_unlink, List.filter_eq_self]
          intro a ha
          have hparent : a.parent ≠ parent.id :=
            fun h => hne parent hp (h.symm.trans (mem_children.mp ha).2)
          simp [Association.leads, hparent]
        simp only
        generalize (type.isSome && _ : Bool) = refused
        generalize (s.associations.any _) = found
        cases refused <;> cases found <;> first | exact hkept | rfl

/-! ### The same parent -/

theorem newLink_alike (h : SameTree s t) (he : t.edges parent.id = s.edges parent.id)
    (link : ChildLink τ) (type : QName) :
    (newLink t parent link type).map (·.edge) = (newLink s parent link type).map (·.edge) := by
  simp only [newLink, h.resolve, hasAssociation_eq, hasChildName_eq, he]
  split
  · rfl
  · split
    · rfl
    · split
      · rfl
      · split
        · rfl
        · split <;> rfl

theorem createEach_alike (items : List (ChildLink τ × QName)) (h : SameTree s t)
    (hp : s.HasNode parent.id) (he : t.edges parent.id = s.edges parent.id) :
    Alike parent.id ((createEach parent items).run s) ((createEach parent items).run t) := by
  induction items generalizing s t with
  | nil => exact .ok [] he
  | cons item rest ih =>
    obtain ⟨link, type⟩ := item
    have hpt : t.HasNode parent.id := by
      obtain ⟨n, hn, hid⟩ := hp
      exact ⟨n, h.nodes ▸ hn, hid⟩
    have hnew := newLink_alike h he link type
    rw [run_createEach_cons, run_createEach_cons, run_createOne_eq link type hp,
      run_createOne_eq link type hpt]
    cases ha : newLink s parent link type with
    | error e =>
      cases hb : newLink t parent link type with
      | error e' =>
        rw [ha, hb] at hnew
        cases hnew
        exact .error ..
      | ok b => rw [ha, hb] at hnew; cases hnew
    | ok a =>
      cases hb : newLink t parent link type with
      | error e => rw [ha, hb] at hnew; cases hnew
      | ok b =>
        rw [ha, hb] at hnew
        have hedge : b.edge = a.edge := Except.ok.inj hnew
        obtain ⟨haccepts, hbecame⟩ := newLink_ok hp ha
        obtain ⟨haccepts', hbecame'⟩ := newLink_ok hpt hb
        have hsame : SameTree (s.addAssociation a) (t.addAssociation b) :=
          (((Change.link hbecame.secondary haccepts).sameTree (by decide)).symm.trans h).trans
            ((Change.link hbecame'.secondary haccepts').sameTree (by decide))
        have hedges : (t.addAssociation b).edges parent.id =
            (s.addAssociation a).edges parent.id := by
          rw [edges_addAssociation, edges_addAssociation, he, if_pos hbecame.parent_eq,
            if_pos hbecame'.parent_eq, hedge]
        have hrest := ih hsame hp hedges
        simp only
        cases hrs : (createEach parent rest).run (s.addAssociation a) <;>
          cases hrt : (createEach parent rest).run (t.addAssociation b) <;>
          rw [hrs, hrt] at hrest <;> cases hrest
        · next hlater => exact .ok _ hlater
        · exact .error ..

/-- What creating does under a parent follows from the tree and the edges of that parent. -/
theorem create_alike [TextForm τ] (h : SameTree s t)
    (hp : s.resolve (some parentId) = .ok parent) (he : t.edges parent.id = s.edges parent.id) :
    Alike parent.id ((create registry parentId links).run s)
      ((create registry parentId links).run t) := by
  rw [run_create, run_create, h.resolve, hp]
  simp only
  cases links.mapM fun link => requiredType registry link.assocType with
  | error e => exact .error ..
  | ok types => exact createEach_alike _ h (hasNode_of_mem (resolve_ok hp).1) he

/-- Whether one of the associations to a child is primary, or secondary, is told by the edges. -/
theorem any_leads (s : Store) (parent child : Uuid) (type : Option QName) (p : Bool → Bool) :
    (s.associations.any fun a => a.leads parent child type && p a.isPrimary) =
      (s.edges parent).any fun e =>
        e.child = child && type.all (e.type = ·.fullForm) && p e.isPrimary := by
  rw [any_edges]
  congr 1
  funext a
  rw [leads_eq, reaches, Bool.and_assoc]
  rfl

theorem edges_unlink (s : Store) (parent child : Uuid) (type : Option QName) :
    (s.unlink (·.leads parent child type)).edges parent = (s.edges parent).filter fun e =>
      !(e.child = child && type.all (e.type = ·.fullForm) && !e.isPrimary) := by
  rw [edges, children_unlink, edges, List.filter_map]
  congr 1
  refine List.filter_congr fun a ha => ?_
  rw [leads_of_mem_children ha]
  rfl

theorem delete_alike (hs : s.Sound) (ht : t.Sound) (h : SameTree s t)
    (hp : s.resolve (some parentId) = .ok parent) (he : t.edges parent.id = s.edges parent.id) :
    Alike parent.id ((delete registry parentId childId assocType).run s)
      ((delete registry parentId childId assocType).run t) := by
  rw [run_delete_eq hs.keyed hs.constraints, run_delete_eq ht.keyed ht.constraints, h.resolve,
    h.resolve, hp]
  cases s.resolve (some childId) with
  | error e => exact .error ..
  | ok child =>
    cases optionalType registry assocType with
    | error e => exact .error ..
    | ok type =>
      have hprimary (s : Store) := any_leads s parent.id child.id type id
      have hsecondary (s : Store) := any_leads s parent.id child.id type (! ·)
      simp only [id] at hprimary hsecondary
      simp only [hprimary, hsecondary, he]
      split
      · exact .error ..
      · split
        · exact .ok () (by rw [edges_unlink, edges_unlink, he])
        · exact .error ..

/-- Texts that name no parent are answered alike everywhere, and other units of work do the same to
the edges of their parent. -/
theorem create_transact [TextForm τ] (h : SameTree s t)
    (he : ∀ n, s.resolve (some parentId) = .ok n → t.edges n.id = s.edges n.id) :
    ((create registry parentId links).transact t).1 =
        ((create registry parentId links).transact s).1 ∧
      ∀ n, s.resolve (some parentId) = .ok n →
        ((create registry parentId links).transact t).2.edges n.id =
          ((create registry parentId links).transact s).2.edges n.id := by
  cases hp : s.resolve (some parentId) with
  | error e =>
    refine ⟨?_, nofun⟩
    simp only [transact, run_create, h.resolve, hp]
  | ok parent =>
    have halike : Alike parent.id ((create registry parentId links).run s)
        ((create registry parentId links).run t) := create_alike h hp (he parent hp)
    obtain ⟨hresult, hedges⟩ := transact_alike (he parent hp) halike
    refine ⟨hresult, fun n hn => ?_⟩
    cases hn
    exact hedges

theorem delete_transact (hs : s.Sound) (ht : t.Sound) (h : SameTree s t)
    (he : ∀ n, s.resolve (some parentId) = .ok n → t.edges n.id = s.edges n.id) :
    ((delete registry parentId childId assocType).transact t).1 =
        ((delete registry parentId childId assocType).transact s).1 ∧
      ∀ n, s.resolve (some parentId) = .ok n →
        ((delete registry parentId childId assocType).transact t).2.edges n.id =
          ((delete registry parentId childId assocType).transact s).2.edges n.id := by
  cases hp : s.resolve (some parentId) with
  | error e =>
    refine ⟨?_, nofun⟩
    simp only [transact, run_delete, h.resolve, hp]
  | ok parent =>
    obtain ⟨hresult, hedges⟩ :=
      transact_alike (he parent hp) (delete_alike hs ht h hp (he parent hp))
    refine ⟨hresult, fun n hn => ?_⟩
    cases hn
    exact hedges

/-- What a listing shows follows from the tree and the associations of its parent. -/
theorem list_alike (h : SameTree s t) {includes : List Include} {offset limit : Int}
    (hchildren : ∀ n, s.lookup (some parentId) = .ok n →
      t.children n.id none = s.children n.id none) :
    list t registry parentId assocType includes offset limit =
      list s registry parentId assocType includes offset limit := by
  rw [list, list, h.lookup]
  cases hp : s.lookup (some parentId) with
  | error e => rfl
  | ok parent =>
    have hsecondary (type : Option QName) :
        secondary t parent.id type = secondary s parent.id type := by
      rw [secondary, secondary, children_of_type, hchildren parent hp, ← children_of_type]
    have hviews (found : List Association) :
        showAll t registry includes {} found = showAll s registry includes {} found := by
      rw [showAll_eq includes (.empty t registry), showAll_eq includes (.empty s registry)]
      congr 1
      funext a
      exact showOne_sameTree h registry includes a
    simp only [bind, Except.bind, hsecondary, hviews]

end Filing

end Multifiling
