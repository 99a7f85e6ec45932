import Multifiling.Proofs.Operation.Outcome
import Multifiling.Proofs.Store.Change

/-!
The changes that the operations on the store make. As long as nodes come with their primary
association at once, the checks of `addChild` leave the database nothing to refuse: it either links
the child or fails without any change (`Linking.accepted`).
-/

namespace Multifiling.Operation
open Store

variable {s t : Store}

theorem losesWork_of_keeps {e : Failure} (h : e.undoesWork = false) : e.losesWork = false := by
  cases e with
  | workLost => cases h
  | _ => rfl

theorem hasAssociation_iff {parent child : Uuid} {type : String} :
    s.hasAssociation parent child type = true ↔
      ∃ b ∈ s.associations, b.parent = parent ∧ b.child = child ∧ b.type = type := by
  simp [hasAssociation, and_assoc]

theorem hasChildName_iff {parent : Uuid} {type name : String} :
    s.hasChildName parent type name = true ↔
      ∃ b ∈ s.associations, b.parent = parent ∧ b.type = type ∧ b.name = name := by
  simp [hasChildName, and_assoc]

theorem accepts_of_checks {parent child : Node} {type name : String} {isPrimary : Bool}
    (hself : ¬parent.id = child.id) (hlink : ¬s.hasAssociation parent.id child.id type)
    (hname : ¬s.hasChildName parent.id type name) (hp : s.HasNode parent.id)
    (hc : s.HasNode child.id) :
    s.Accepts (s.nextAssociation parent.id child.id type name isPrimary) where
  id_eq := rfl
  apart := hself
  link b hb h := hlink (hasAssociation_iff.mpr ⟨b, hb, h⟩)
  name b hb h := hname (hasChildName_iff.mpr ⟨b, hb, h⟩)
  ends := ⟨hp, hc⟩

theorem Unlinked.accepts {parent child : Node} {type name : QName} {isPrimary : Bool}
    (h : Unlinked s parent child type name) (hp : s.HasNode parent.id) (hc : s.HasNode child.id) :
    s.Accepts
      (s.nextAssociation parent.id child.id type.fullForm name.fullForm isPrimary) :=
  accepts_of_checks h.apart (by simp [h.link]) (by simp [h.name]) hp hc

/-- Linking a child to a parent fails without any change, or adds what the checks accept. -/
theorem Linking.accepted {parent child : Node} {type name : QName} {isPrimary : Bool}
    {atHand : AtHand} {r : EStateM.Result Failure Store Association}
    (h : Linking s parent child type name isPrimary atHand r) (hp : s.HasNode parent.id)
    (hc : s.HasNode child.id)
    (hkeep : s.KeepsOnePrimary
      (s.nextAssociation parent.id child.id type.fullForm name.fullForm isPrimary)) :
    (∃ e, r = .error e s ∧ e.undoesWork = false) ∨
    ∃ a, r = .ok a (s.addAssociation a) ∧
      a = s.nextAssociation parent.id child.id type.fullForm name.fullForm isPrimary ∧
      s.Accepts a := by
  cases h with
  | itself | linked | taken => exact .inl ⟨_, rfl, rfl⟩
  | refused hnew h _ =>
    rw [(hnew.accepts hp hc).admitsAssociation hkeep] at h
    cases h
  | made hnew ha _ => exact .inr ⟨_, rfl, ha, ha ▸ hnew.accepts hp hc⟩

theorem addChild_secondary {parent child : Node} (type name : QName) (atHand : AtHand)
    (hp : s.HasNode parent.id) (hc : s.HasNode child.id) :
    (∃ e, (addChild parent child type name false atHand).run s = .error e s ∧
      e.undoesWork = false) ∨
    ∃ a, (addChild parent child type name false atHand).run s = .ok a (s.addAssociation a) ∧
      Change .link s (s.addAssociation a) := by
  rcases (addChild_linking s parent child type name false atHand).accepted hp hc
    (keepsOnePrimary_of_secondary rfl) with h | ⟨a, h, rfl, ha⟩
  · exact .inl h
  · exact .inr ⟨_, h, .link rfl ha⟩

theorem addChild_after {parent child : Node} (type name : QName) (hp : s.HasNode parent.id)
    (hc : s.HasNode child.id) :
    Changes [.link] s ((addChild parent child type name false).after s) := by
  rcases addChild_secondary type name {} hp hc with ⟨e, h, -⟩ | ⟨a, h, hlink⟩
  · rw [after_of_error h]
    exact .refl s
  · rw [after_of_ok h]
    exact .single hlink (by simp)

theorem dropSecondary_changes (s : Store) (id : Nat) : Changes [.unlink] s (s.dropSecondary id) :=
  .single (.unlink _ fun b _ hb => by simp [hb]) (by simp)

theorem removeSecondary_after (a : Association) (s : Store) :
    Changes [.unlink] s ((removeSecondary a).after s) := by
  rw [after, run_removeSecondary]
  by_cases hp : a.isPrimary
  · rw [if_pos hp]
    exact .refl s
  · rw [if_neg hp]
    exact dropSecondary_changes s a.id

theorem insertUser_cases (draft : UserDraft) (s : Store) :
    (∃ e, (insertUser draft).run s = .error e s.countUser ∧ e.losesWork = false) ∨
    ∃ u, (insertUser draft).run s = .ok u (s.addUser u) := by
  rw [run_insertUser]
  by_cases htables : s.hasTables
  · rw [if_pos htables]
    cases draft.username with
    | none => exact .inl ⟨_, rfl, rfl⟩
    | some username =>
      by_cases h : s.admitsUsername username
      · exact .inr ⟨_, if_pos h⟩
      · exact .inl ⟨_, if_neg h, rfl⟩
  · exact .inl ⟨_, if_neg htables, rfl⟩

theorem insertUser_ok {draft : UserDraft} {u : User} (h : (insertUser draft).run s = .ok u t) :
    t = s.addUser u := by
  rcases insertUser_cases draft s with ⟨e, h', -⟩ | ⟨v, h'⟩
  · rw [h] at h'
    cases h'
  · rw [h] at h'
    cases h'
    rfl

theorem insertUser_after (draft : UserDraft) (s : Store) :
    Changes [.count, .user] s ((insertUser draft).after s) := by
  rcases insertUser_cases draft s with ⟨e, h, -⟩ | ⟨u, h⟩
  · rw [after_of_error h]
    exact .single (.count _ ⟨Nat.le_succ _, Nat.le_refl _, Nat.le_refl _⟩) (by simp)
  · rw [after_of_ok h]
    exact .single (.user u) (by simp)

/-- A node that is new can be linked to its primary parent, unless the name is taken. -/
theorem Linking.ofNew {parent n : Node} {type name : QName} {atHand : AtHand}
    {r : EStateM.Result Failure Store Association}
    (h : Linking (s.addNode n) parent n type name true atHand r)
    (hid : n.id = .ofNode (s.issued.nodes + 1)) (hfree : ∀ b ∈ s.associations, b.child ≠ n.id)
    (hp : s.HasNode parent.id) :
    (∃ e, r = .error e (s.addNode n) ∧ e.undoesWork = false) ∨
    ∃ a, r = .ok a ((s.addNode n).addAssociation a) ∧
      Change .child s ((s.addNode n).addAssociation a) := by
  have hn : (s.addNode n).HasNode n.id :=
    hasNode_of_mem (List.mem_append_right _ (List.mem_singleton_self n))
  have hparent : (s.addNode n).HasNode parent.id := by
    obtain ⟨m, hm, hmid⟩ := hp
    exact ⟨m, List.mem_append_left _ hm, hmid⟩
  -- no association leads to the new node, so its primary one is the only one
  rcases h.accepted hparent hn fun _ b hb _ => hfree b hb with h | ⟨a, h, rfl, ha⟩
  · exact .inl h
  · exact .inr ⟨_, h, .child hid rfl rfl ha⟩

/-- Creating a node adds a root, or a node with its primary association; or it fails, and then
there may be a node without one. -/
theorem createNode_cases (new : NewNode) {parent : Option Node} (parentAtHand : Bool)
    (hs : s.Sound) (hp : ∀ p ∈ parent, s.HasNode p.id) :
    (∃ e t, (createNode new parent parentAtHand).run s = .error e t ∧ e.losesWork = false ∧
      Changes [.count, .root, .stray] s t) ∨
    ∃ n t, (createNode new parent parentAtHand).run s = .ok n t ∧ n ∈ t.nodes ∧
      (Change .root s t ∨ Change .child s t) := by
  have hcreation := createNode_creation s new parent parentAtHand
  have hmem (n : Node) : n ∈ (s.addNode n).nodes :=
    List.mem_append_right _ (List.mem_singleton_self n)
  generalize (createNode new parent parentAtHand).run s = r at hcreation ⊢
  cases hcreation with
  | noParent | misnamed => exact .inl ⟨_, s, rfl, rfl, .refl s⟩
  | refused _ _ hlost =>
    refine .inl ⟨_, _, rfl, hlost, .single (.count _ ?_) (by simp)⟩
    exact ⟨Nat.le_refl _, Nat.le_succ _, Nat.le_refl _⟩
  | top hn _ hroot =>
    exact .inr ⟨_, _, rfl, hmem _, .inl (.root hn.id_eq (hn.isRoot_eq.trans hroot))⟩
  | linked hn _ h =>
    have hfree := hs.constraints.child_ne (hs.numbered.fresh hn.id_eq)
    rcases h.ofNew hn.id_eq hfree (hp _ rfl) with ⟨e, h, -⟩ | ⟨a, h, hc⟩
    · cases h
    · cases h
      exact .inr ⟨_, _, rfl, hmem _, .inr hc⟩
  | @unlinked _ n _ _ _ _ hn _ h =>
    have hfree := hs.constraints.child_ne (hs.numbered.fresh hn.id_eq)
    rcases h.ofNew hn.id_eq hfree (hp _ rfl) with ⟨e, h, he⟩ | ⟨a, h, -⟩
    · cases h
      refine .inl ⟨_, _, rfl, losesWork_of_keeps he, ?_⟩
      cases hr : n.isRoot with
      | true => exact .single (.root hn.id_eq hr) (by simp)
      | false => exact .single (.stray hn.id_eq hr) (by simp)
    · cases h

theorem createNode_ok {new : NewNode} {parent : Option Node} {parentAtHand : Bool} {n : Node}
    (hs : s.Sound) (hp : ∀ p ∈ parent, s.HasNode p.id)
    (h : (createNode new parent parentAtHand).run s = .ok n t) :
    Changes [.root, .child] s t ∧ n ∈ t.nodes := by
  rcases createNode_cases new parentAtHand hs hp with ⟨e, u, h', -⟩ | ⟨m, u, h', hm, hc⟩
  · rw [h] at h'; cases h'
  · rw [h] at h'
    cases h'
    exact ⟨hc.elim (.single · (by simp)) (.single · (by simp)), hm⟩

/-- A child that was linked is another node than its parent, which is there if the database enforces
its constraints. -/
theorem Linking.ok {parent child : Node} {type name : QName} {isPrimary : Bool} {atHand : AtHand}
    {a : Association} (h : Linking s parent child type name isPrimary atHand (.ok a t)) :
    t = s.addAssociation a ∧ parent.id ≠ child.id ∧ (s.enforces = true → s.HasNode parent.id) := by
  cases h with
  | made hnew ha hadmits =>
    refine ⟨rfl, hnew.apart, fun henforces => node?_isSome.mp ?_⟩
    subst ha
    simp only [admitsAssociation, henforces, Bool.not_true, Bool.false_or,
      Bool.and_eq_true] at hadmits
    exact hadmits.1.1.2

/-- A node that was created is the last one, and a root just if it was to be one; its parent was
there before, if the database enforces its constraints. -/
theorem createNode_made {new : NewNode} {parent : Option Node} {parentAtHand : Bool} {n : Node}
    (h : (createNode new parent parentAtHand).run s = .ok n t) :
    t.nodes = s.nodes ++ [n] ∧ n.isRoot = new.isRoot ∧
      (s.enforces = true → ∀ p ∈ parent, s.HasNode p.id) := by
  have hcreation := createNode_creation s new parent parentAtHand
  rw [h] at hcreation
  cases hcreation with
  | top hn => exact ⟨rfl, hn.isRoot_eq, nofun⟩
  | linked hn _ hlinking =>
    obtain ⟨rfl, hne, hparent⟩ := hlinking.ok
    refine ⟨rfl, hn.isRoot_eq, fun henforces q hq => ?_⟩
    cases hq
    obtain ⟨k, hk, hid⟩ := hparent henforces
    rcases List.mem_append.mp hk with hk | hk
    · exact ⟨k, hk, hid⟩
    · cases List.mem_singleton.mp hk
      exact absurd hid.symm hne

theorem createNode_after (new : NewNode) {parent : Option Node} (hs : s.Sound)
    (hp : ∀ p ∈ parent, s.HasNode p.id) :
    Changes [.count, .root, .stray, .child] s ((createNode new parent).after s) := by
  rcases createNode_cases new false hs hp with ⟨e, t, h, -, hc⟩ | ⟨n, t, h, -, hc⟩
  · rw [after_of_error h]
    exact hc.mono (by decide)
  · rw [after_of_ok h]
    exact hc.elim (.single · (by decide)) (.single · (by decide))

end Multifiling.Operation
