import Mathlib.Data.List.Pairwise
import Multifiling.Proofs.Filing.Change
import Multifiling.Proofs.Store.Edge

/-!
Deleting links in closed form. Where the constraints hold, `Filing.delete` takes away just the
secondary associations from the parent to the child, all or the one of a type (`run_delete_eq`); if
the one of a type is all that there is, the rows before and after it are left (`run_delete_link`).
-/

namespace Multifiling

/-- Whether an association leads from a parent to a child, by a type if one is given. -/
def Association.leads (a : Association) (parent child : Uuid) (type : Option QName) : Bool :=
  a.parent = parent && a.child = child && type.all (a.type = ·.fullForm)

namespace Store

variable {s : Store}

/-- The store without certain secondary associations. -/
def unlink (s : Store) (goes : Association → Bool) : Store :=
  { s with associations := s.associations.filter fun a => !(goes a && !a.isPrimary) }

theorem mem_unlink {goes : Association → Bool} {a : Association} :
    a ∈ (s.unlink goes).associations ↔
      a ∈ s.associations ∧ ¬(goes a = true ∧ a.isPrimary = false) := by
  rw [unlink, List.mem_filter]
  cases goes a <;> cases a.isPrimary <;> simp

theorem unlink_unlink (s : Store) (p q : Association → Bool) :
    (s.unlink p).unlink q = s.unlink fun a => p a || q a := by
  simp only [unlink, List.filter_filter]
  congr 1
  refine List.filter_congr fun a _ => ?_
  cases p a <;> cases q a <;> cases a.isPrimary <;> rfl

theorem unlink_congr {p q : Association → Bool}
    (h : ∀ a ∈ s.associations, a.isPrimary = false → p a = q a) : s.unlink p = s.unlink q := by
  rw [unlink, unlink]
  congr 1
  refine List.filter_congr fun a ha => ?_
  cases hp : a.isPrimary with
  | true => simp
  | false => rw [h a ha hp]

/-- Nothing goes where only primary associations would. -/
theorem unlink_eq_self {goes : Association → Bool}
    (h : ∀ a ∈ s.associations, goes a = true → a.isPrimary = true) : s.unlink goes = s := by
  rw [unlink, List.filter_eq_self.mpr]
  intro a ha
  cases hgoes : goes a with
  | false => rfl
  | true => rw [h a ha hgoes]; rfl

/-- One secondary association goes and no other one does. -/
theorem unlink_one {goes : Association → Bool} {a : Association} {before after : List Association}
    (hsplit : s.associations = before ++ a :: after) (hgoes : goes a = true)
    (hsecondary : a.isPrimary = false) (hothers : ∀ b ∈ before ++ after, goes b = false) :
    s.unlink goes = { s with associations := before ++ after } := by
  rw [unlink, hsplit, List.filter_append, List.filter_cons_of_neg (by simp [hgoes, hsecondary]),
    ← List.filter_append, List.filter_eq_self.mpr]
  intro b hb
  rw [hothers b hb]
  rfl

theorem dropSecondary_eq (s : Store) (id : Nat) : s.dropSecondary id = s.unlink (·.id = id) := rfl

/-- Associations are told apart by their numbers. -/
theorem Keyed.eq_of_id_eq (hs : s.Keyed) {b : Association} (ha : a ∈ s.associations)
    (hb : b ∈ s.associations) (h : a.id = b.id) : a = b := by
  have : Std.Symm fun a b : Association => a.id ≠ b.id := ⟨fun _ _ h => h.symm⟩
  by_contra hab
  exact List.Pairwise.forall hs ha hb hab h

/-- A child is linked to a parent once per type. -/
theorem Constraints.eq_of_leads (hs : s.Constraints) {a b : Association} {parent child : Uuid}
    {type : QName} (ha : a ∈ s.associations) (hb : b ∈ s.associations)
    (hla : a.leads parent child (some type) = true)
    (hlb : b.leads parent child (some type) = true) : a = b := by
  simp only [Association.leads, Bool.and_eq_true, decide_eq_true_eq, Option.all_some] at hla hlb
  have : Std.Symm fun a b : Association =>
      ¬(a.parent = b.parent ∧ a.child = b.child ∧ a.type = b.type) :=
    ⟨fun _ _ h he => h ⟨he.1.symm, he.2.1.symm, he.2.2.symm⟩⟩
  by_contra hab
  refine hs.linkedOnce.forall ha hb hab ?_
  rw [hla.1.1, hla.1.2, hla.2, hlb.1.1, hlb.1.2, hlb.2]
  exact ⟨rfl, rfl, rfl⟩

/-- No other association links the same child by the same type, or has the same name for it. -/
theorem Constraints.others (hs : s.Constraints) {a : Association} {before after : List Association}
    (hsplit : s.associations = before ++ a :: after) :
    ∀ b ∈ before ++ after,
      ¬(b.parent = a.parent ∧ b.child = a.child ∧ b.type = a.type) ∧
        ¬(b.parent = a.parent ∧ b.type = a.type ∧ b.name = a.name) := by
  have hlinked := hs.linkedOnce
  have hnamed := hs.namedOnce
  rw [hsplit, List.pairwise_middle fun h he => h ⟨he.1.symm, he.2.1.symm, he.2.2.symm⟩,
    List.pairwise_cons] at hlinked hnamed
  intro b hb
  exact ⟨fun h => hlinked.1 b hb ⟨h.1.symm, h.2.1.symm, h.2.2.symm⟩,
    fun h => hnamed.1 b hb ⟨h.1.symm, h.2.1.symm, h.2.2.symm⟩⟩

end Store

namespace Filing
open Store Operation

variable {s : Store} {refused : Failure} {child : Uuid} {type : Option QName}

/-! ### Going through the associations of a parent -/

/-- Whether an association leads to a child, by a type if one is given. -/
def reaches (child : Uuid) (type : Option QName) (a : Association) : Bool :=
  a.child = child && type.all (a.type = ·.fullForm)

theorem run_deleteEach_cons (a : Association) (rest : List Association) (found : Bool) (s : Store) :
    (deleteEach refused child type found (a :: rest)).run s =
      if reaches child type a then
        if a.isPrimary then
          if type.isSome then .error refused s
          else (deleteEach refused child type found rest).run s
        else
          let present := s.associations.any fun b => b.id = a.id && !b.isPrimary
          (deleteEach refused child type (found || present) rest).run (s.unlink (·.id = a.id))
      else (deleteEach refused child type found rest).run s := by
  have hpasses : (a.child ≠ child || !(type.all fun t => a.type = t.fullForm)) =
      !reaches child type a := by
    simp [reaches]
  rw [deleteEach, hpasses]
  cases reaches child type a with
  | false => rfl
  | true =>
    cases hp : a.isPrimary with
    | true => cases type <;> rfl
    | false =>
      simp only [Bool.not_true, Bool.false_eq_true, if_false, if_true]
      rw [EStateM.run_bind, run_removeSecondary, if_neg (by simp [hp]), dropSecondary_eq]

/-- Where no primary association is refused, the secondary ones that reach the child go. -/
theorem run_deleteEach (found : Bool) {rows : List Association}
    (hrows : ∀ a ∈ rows, a ∈ s.associations) (hids : rows.Pairwise fun a b => a.id ≠ b.id)
    (hallowed : type.isSome = true →
      ∀ a ∈ rows, reaches child type a = true → a.isPrimary = false) :
    (deleteEach refused child type found rows).run s =
      .ok (found || rows.any fun a => reaches child type a && !a.isPrimary)
        (s.unlink fun b =>
          rows.any fun a => b.id = a.id && reaches child type a && !a.isPrimary) := by
  induction rows generalizing found s with
  | nil => simp [deleteEach, unlink]
  | cons a rest ih =>
    obtain ⟨hne, hrest⟩ := List.pairwise_cons.mp hids
    have hallowed' : type.isSome = true → ∀ b ∈ rest, reaches child type b = true →
        b.isPrimary = false := fun ht b hb => hallowed ht b (List.mem_cons_of_mem a hb)
    rw [run_deleteEach_cons]
    cases hr : reaches child type a with
    | false =>
      simp only [Bool.false_eq_true, if_false]
      rw [ih found (fun b hb => hrows b (List.mem_cons_of_mem a hb)) hrest hallowed']
      simp [hr]
    | true =>
      cases hp : a.isPrimary with
      | true =>
        have htype : type.isSome = false := by
          cases ht : type.isSome with
          | false => rfl
          | true =>
            have := hallowed ht a List.mem_cons_self hr
            rw [hp] at this
            cases this
        simp only [if_true, htype, Bool.false_eq_true, if_false]
        rw [ih found (fun b hb => hrows b (List.mem_cons_of_mem a hb)) hrest hallowed']
        simp [hp]
      | false =>
        -- the rest has other numbers, so it is all there still
        have hrows' : ∀ b ∈ rest, b ∈ (s.unlink (·.id = a.id)).associations := by
          intro b hb
          refine mem_unlink.mpr ⟨hrows b (List.mem_cons_of_mem a hb), fun h => ?_⟩
          exact hne b hb (of_decide_eq_true h.1).symm
        have hpresent : (s.associations.any fun b => b.id = a.id && !b.isPrimary) = true :=
          List.any_eq_true.mpr ⟨a, hrows a List.mem_cons_self, by simp [hp]⟩
        simp only [if_true, Bool.false_eq_true, if_false, hpresent]
        rw [ih (found || true) hrows' hrest hallowed', unlink_unlink]
        simp [hr, hp]

/-- A primary association of the type that was asked for is refused before anything is changed. -/
theorem run_deleteEach_refused (found : Bool) {rows : List Association} {a : Association}
    (htype : type.isSome = true) (ha : a ∈ rows) (hr : reaches child type a = true)
    (hp : a.isPrimary = true)
    (honly : ∀ b ∈ rows, reaches child type b = true → b = a) :
    (deleteEach refused child type found rows).run s = .error refused s := by
  induction rows with
  | nil => cases ha
  | cons b rest ih =>
    rw [run_deleteEach_cons]
    cases hb : reaches child type b with
    | false =>
      simp only [Bool.false_eq_true, if_false]
      refine ih ?_ fun c hc => honly c (List.mem_cons_of_mem b hc)
      refine (List.mem_cons.mp ha).resolve_left fun h => ?_
      rw [← h, hr] at hb
      cases hb
    | true =>
      rw [honly b List.mem_cons_self hb, hp, htype]
      rfl

/-! ### Deleting -/

theorem leads_eq (a : Association) (parent : Uuid) :
    a.leads parent child type = (decide (a.parent = parent) && reaches child type a) := by
  rw [Association.leads, reaches, Bool.and_assoc]

theorem leads_of_mem_children {a : Association} {parent : Uuid} (ha : a ∈ s.children parent none) :
    a.leads parent child type = reaches child type a := by
  rw [leads_eq, decide_eq_true (mem_children.mp ha).2, Bool.true_and]

theorem any_leads_iff {parent : Uuid} {p : Association → Bool} :
    (s.associations.any fun a => a.leads parent child type && p a) = true ↔
      ∃ a ∈ s.associations, a.leads parent child type = true ∧ p a = true := by
  simp only [List.any_eq_true, Bool.and_eq_true]

/-- Nothing is refused unless a primary association was asked for by its type. -/
theorem not_refused {parent : Uuid}
    (h : type.isSome = true →
      ∀ a ∈ s.associations, a.leads parent child type = true → a.isPrimary = false) :
    ¬(type.isSome && s.associations.any fun a => a.leads parent child type && a.isPrimary) =
      true := by
  rw [Bool.and_eq_true, any_leads_iff]
  rintro ⟨htype, a, ha, hl, hprimary⟩
  rw [h htype a ha hl] at hprimary
  cases hprimary

/-- What is asked of the associations to a child is asked of those of the parent. -/
theorem any_reaches (s : Store) (parent : Uuid) (p : Association → Bool) :
    ((s.children parent none).any fun a => reaches child type a && p a) =
      s.associations.any fun a => a.leads parent child type && p a := by
  rw [children, List.any_filter]
  congr 1
  funext a
  simp [leads_eq, Bool.and_assoc]

/-- The numbers of the associations that go through to a child tell which ones these are. -/
theorem unlink_reaches (hk : s.Keyed) (parent : Uuid) :
    (s.unlink fun b => (s.children parent none).any fun a =>
        b.id = a.id && reaches child type a && !a.isPrimary) =
      s.unlink (·.leads parent child type) := by
  refine unlink_congr fun b hb hsecondary => ?_
  rw [Bool.eq_iff_iff, List.any_eq_true]
  constructor
  · rintro ⟨a, ha, hra⟩
    simp only [Bool.and_eq_true, decide_eq_true_eq] at hra
    obtain ⟨⟨hid, hr⟩, -⟩ := hra
    rw [hk.eq_of_id_eq hb (mem_children.mp ha).1 hid, leads_of_mem_children ha, hr]
  · intro hl
    have hparent := hl
    rw [leads_eq, Bool.and_eq_true, decide_eq_true_eq] at hparent
    exact ⟨b, mem_children.mpr ⟨hb, hparent.1⟩, by simp [hparent.2, hsecondary]⟩

/-- Going through all associations of a parent. -/
theorem run_deleteEach_children (hk : s.Keyed) (hs : s.Constraints) (parent : Uuid) :
    (deleteEach refused child type false (s.children parent none)).run s =
      if type.isSome && s.associations.any fun a => a.leads parent child type && a.isPrimary then
        .error refused s
      else
        .ok (s.associations.any fun a => a.leads parent child type && !a.isPrimary)
          (s.unlink (·.leads parent child type)) := by
  have hrows : ∀ a ∈ s.children parent none, a ∈ s.associations :=
    fun a ha => (mem_children.mp ha).1
  split
  · next h =>
    obtain ⟨htype, hprimary⟩ := Bool.and_eq_true_iff.mp h
    rw [← any_reaches] at hprimary
    obtain ⟨a, ha, hra⟩ := List.any_eq_true.mp hprimary
    obtain ⟨hra, hp⟩ := Bool.and_eq_true_iff.mp hra
    obtain ⟨t, rfl⟩ := Option.isSome_iff_exists.mp htype
    exact run_deleteEach_refused false htype ha hra hp fun b hb hrb =>
      hs.eq_of_leads (hrows b hb) (hrows a ha) ((leads_of_mem_children hb).trans hrb)
        ((leads_of_mem_children ha).trans hra)
  · next h =>
    have hids : (s.children parent none).Pairwise fun a b => a.id ≠ b.id := hk.filter _
    have hallowed : type.isSome = true → ∀ a ∈ s.children parent none,
        reaches child type a = true → a.isPrimary = false := by
      intro htype a ha hr
      by_contra hp
      refine h (Bool.and_eq_true_iff.mpr ⟨htype, any_leads_iff.mpr ⟨a, hrows a ha, ?_⟩⟩)
      exact ⟨(leads_of_mem_children ha).trans hr, by simpa using hp⟩
    rw [run_deleteEach false hrows hids hallowed, Bool.false_or, any_reaches, unlink_reaches hk]

/-- Deleting in closed form. -/
theorem run_delete_eq (hk : s.Keyed) (hs : s.Constraints) (registry : Registry)
    (parentId childId : String) (assocType : Option String) :
    (delete registry parentId childId assocType).run s =
      match s.resolve (some parentId), s.resolve (some childId),
        optionalType registry assocType with
      | .error e, _, _ => .error e s
      | .ok _, .error e, _ => .error e s
      | .ok _, .ok _, .error e => .error e s
      | .ok parent, .ok child, .ok type =>
        let leads (a : Association) : Bool := a.leads parent.id child.id type
        if type.isSome && s.associations.any fun a => leads a && a.isPrimary then
          .error (.badArgument (.deletesPrimary parentId (assocType.getD "") childId)) s
        else if s.associations.any fun a => leads a && !a.isPrimary then .ok () (s.unlink leads)
        else .error (.associationNotFound parentId assocType childId) s := by
  rw [run_delete]
  cases s.resolve (some parentId) with
  | error e => rfl
  | ok parent =>
    cases s.resolve (some childId) with
    | error e => rfl
    | ok child =>
      cases optionalType registry assocType with
      | error e => rfl
      | ok type =>
        simp only [run_deleteEach_children hk hs]
        by_cases hrefused : (type.isSome && s.associations.any fun a =>
            a.leads parent.id child.id type && a.isPrimary) = true
        · simp only [if_pos hrefused]
        · simp only [if_neg hrefused]
          by_cases hfound : (s.associations.any fun a =>
              a.leads parent.id child.id type && !a.isPrimary) = true
          · simp only [if_pos hfound]
          · simp only [if_neg hfound]
            -- nothing was found, so nothing went
            rw [unlink_eq_self]
            intro a ha hl
            by_contra hp
            exact hfound (any_leads_iff.mpr ⟨a, ha, hl, by simpa using hp⟩)

section
variable (hk : s.Keyed) (hs : s.Constraints) {registry : Registry} {parentId childId : String}
  {assocType : Option String} {parent target : Node}
  (hp : s.resolve (some parentId) = .ok parent) (hc : s.resolve (some childId) = .ok target)
  (ht : optionalType registry assocType = .ok type)
include hk hs hp hc ht

/-- A primary association that was asked for by its type is refused. -/
theorem run_delete_refused (htype : type.isSome = true)
    (h : ∃ a ∈ s.associations, a.leads parent.id target.id type = true ∧ a.isPrimary = true) :
    (delete registry parentId childId assocType).run s =
      .error (.badArgument (.deletesPrimary parentId (assocType.getD "") childId)) s := by
  rw [run_delete_eq hk hs, hp, hc, ht]
  simp only [htype, any_leads_iff.mpr h, Bool.and_self, if_true]

/-- Where nothing is refused and there is something to remove, it is removed. -/
theorem run_delete_removes
    (hallowed : type.isSome = true →
      ∀ a ∈ s.associations, a.leads parent.id target.id type = true → a.isPrimary = false)
    (h : ∃ a ∈ s.associations, a.leads parent.id target.id type = true ∧ a.isPrimary = false) :
    (delete registry parentId childId assocType).run s =
      .ok () (s.unlink (·.leads parent.id target.id type)) := by
  have hfound : (s.associations.any fun a =>
      a.leads parent.id target.id type && !a.isPrimary) = true := by
    obtain ⟨a, ha, hl, hsecondary⟩ := h
    exact any_leads_iff.mpr ⟨a, ha, hl, by rw [hsecondary]; rfl⟩
  rw [run_delete_eq hk hs, hp, hc, ht]
  simp only [if_neg (not_refused hallowed), if_pos hfound]

end

/-- A caller's texts address an association: they name its parent, its child and its type. -/
structure Addressed (s : Store) (registry : Registry) (parentId childId : String)
    (assocType : Option String) (a : Association) : Prop where
  parent : (s.resolve (some parentId)).map (·.id) = .ok a.parent
  child : (s.resolve (some childId)).map (·.id) = .ok a.child
  type : (requiredType registry assocType).map (·.fullForm) = .ok a.type

/-- The one association of a type goes, and every other row stays in its place. -/
theorem run_delete_link (hk : s.Keyed) (hs : s.Constraints) {registry : Registry}
    {parentId childId : String} {assocType : Option String} {a : Association}
    {before after : List Association}
    (h : Addressed s registry parentId childId assocType a)
    (hsplit : s.associations = before ++ a :: after) (hsecondary : a.isPrimary = false) :
    (delete registry parentId childId assocType).run s =
      .ok () { s with associations := before ++ after } := by
  obtain ⟨parent, hp, hpa⟩ := map_eq_ok.mp h.parent
  obtain ⟨child, hc, hca⟩ := map_eq_ok.mp h.child
  obtain ⟨type, ht, hta⟩ := map_eq_ok.mp h.type
  have hleads : a.leads parent.id child.id (some type) = true := by
    simp [Association.leads, hpa, hca, hta]
  have hothers : ∀ b ∈ before ++ after, b.leads parent.id child.id (some type) = false := by
    intro b hb
    have hb' := (hs.others hsplit b hb).1
    rw [← hpa, ← hca, ← hta] at hb'
    simpa [Association.leads, and_assoc] using hb'
  have ha : a ∈ s.associations := by simp [hsplit]
  have hallowed : ∀ b ∈ s.associations, b.leads parent.id child.id (some type) = true →
      b.isPrimary = false :=
    fun b hb hl => hs.eq_of_leads hb ha hl hleads ▸ hsecondary
  rw [run_delete_removes hk hs hp hc (optionalType_iff.mpr ht) (fun _ => hallowed)
    ⟨a, ha, hleads, hsecondary⟩, unlink_one hsplit hleads hsecondary hothers]

end Filing

end Multifiling
