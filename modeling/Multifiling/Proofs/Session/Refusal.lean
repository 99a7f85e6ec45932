import Multifiling.Proofs.Session.Ordinary

/-!
What a refused operation leaves in the session. The checks that come before any insert leave the
rows as they are. Two refusals come later: a taken name, which is only looked for when the new node
is there already, so that the node stays behind (`createNode_leaves`); and a second primary parent,
which only the database looks for, so that all work since the last commit is lost with it
(`addChild_leaves`).
-/

namespace Multifiling
open Store Operation

variable {s t : Store} {session : Session} {parent child : Node} {type name : QName}
  {isPrimary : Bool} {atHand : AtHand}

/-! ### Creating a node -/

/-- The identifier that the next node takes is not in use: it is not the parent's, and no
association leads to it. -/
structure Store.NextIsNew (s : Store) (parent : Option Node) : Prop where
  parent : ∀ p ∈ parent, p.id ≠ .ofNode (s.issued.nodes + 1)
  child : ∀ a ∈ s.associations, a.child ≠ .ofNode (s.issued.nodes + 1)

theorem Store.Sound.nextIsNew (hs : s.Sound) {parent : Option Node}
    (hp : ∀ p ∈ parent, s.HasNode p.id) : s.NextIsNew parent := by
  have hfresh : ¬s.HasNode (.ofNode (s.issued.nodes + 1)) := by
    rintro ⟨n, hn, hid⟩
    exact hs.numbered.fresh hid (hasNode_of_mem hn)
  exact ⟨fun p hparent hid => hfresh (hid ▸ hp p hparent), hs.constraints.child_ne hfresh⟩

namespace Operation

/-- A new node is neither its own parent nor linked already, so only its name can be in the way. -/
theorem Linking.conflict_ofNew {n : Node} {e : Failure}
    (h : Linking (s.addNode n) parent n type name true atHand (.error e t))
    (hnew : s.NextIsNew (some parent)) (hid : n.id = .ofNode (s.issued.nodes + 1))
    (he : e.undoesWork = false) :
    e = .conflict (.childName parent.id type.fullForm name.localName) ∧ t = s.addNode n ∧
      s.hasChildName parent.id type.fullForm name.fullForm = true := by
  cases h with
  | itself hself => exact absurd (hself.trans hid) (hnew.parent parent rfl)
  | linked _ hlink =>
    obtain ⟨a, ha, -, hchild, -⟩ := hasAssociation_iff.mp hlink
    exact absurd (hchild.trans hid) (hnew.child a ha)
  | taken _ _ hname => exact ⟨rfl, rfl, hname⟩
  | refused => cases he

/-- Where the name is free, a new node is refused only a parent that is not there. -/
theorem Linking.free_ofNew {n : Node} {e : Failure}
    (h : Linking (s.addNode n) parent n type name true atHand (.error e t))
    (hnew : s.NextIsNew (some parent)) (hid : n.id = .ofNode (s.issued.nodes + 1))
    (hfree : s.hasChildName parent.id type.fullForm name.fullForm = false) :
    s.enforces = true ∧ ¬s.HasNode parent.id := by
  cases hundoes : e.undoesWork with
  | false =>
    obtain ⟨-, -, htaken⟩ := h.conflict_ofNew hnew hid hundoes
    rw [hfree] at htaken
    cases htaken
  | true =>
    constructor
    · cases h with
      | itself | linked | taken => cases hundoes
      | refused _ hadmits _ =>
        cases henforces : s.enforces with
        | true => rfl
        | false => simp [admitsAssociation, addNode, countNode, henforces] at hadmits
    · intro hp
      rcases h.ofNew hid (fun b hb => hid ▸ hnew.child b hb) hp with ⟨e, he, hkept⟩ | ⟨a, he, -⟩
      · cases he
        rw [hundoes] at hkept
        cases hkept
      · cases he

/-- A new node is refused a parent only if that is not there. -/
theorem Linking.lost_ofNew {n : Node} {e : Failure}
    (h : Linking (s.addNode n) parent n type name true atHand (.error e t))
    (hnew : s.NextIsNew (some parent)) (hid : n.id = .ofNode (s.issued.nodes + 1))
    (he : e.losesWork = true) : ¬s.HasNode parent.id := by
  intro hp
  rcases h.ofNew hid (fun b hb => hid ▸ hnew.child b hb) hp with ⟨e', he', hkept⟩ | ⟨a, he', -⟩
  · cases he'
    rw [losesWork_of_keeps hkept] at he
    cases he
  · cases he'

/-- A node can be created: it is to be a root or has a parent, the database has nothing against its
row nor against its parent, and its name gives a local name that is free. -/
structure Creatable (s : Store) (new : NewNode) (parent : Option Node) (name : QName) : Prop where
  rooted : parent = none → new.isRoot = true
  insertable : Insertable s new.draft
  known : s.enforces = true → ∀ p ∈ parent, s.HasNode p.id
  named : (localNameFor new.name).bind contentName = .ok name
  free : ∀ p ∈ parent, s.hasChildName p.id new.assocType.fullForm name.fullForm = false

variable {new : NewNode} {parent : Option Node} {parentAtHand : Bool}

theorem createNode_succeeds_iff (hnew : s.NextIsNew parent) :
    (createNode new parent parentAtHand).succeeds s = true ↔
      ∃ name, Creatable s new parent name := by
  have hcreation := createNode_creation s new parent parentAtHand
  rw [Operation.succeeds]
  generalize hrun : (createNode new parent parentAtHand).run s = r at hcreation
  cases hcreation with
  | noParent h =>
    refine iff_of_false Bool.false_ne_true ?_
    rintro ⟨name, hc⟩
    rw [hc.rooted rfl] at h
    cases h
  | misnamed h =>
    refine iff_of_false Bool.false_ne_true ?_
    rintro ⟨name, hc⟩
    rw [hc.named] at h
    cases h
  | refused h =>
    refine iff_of_false Bool.false_ne_true ?_
    rintro ⟨name, hc⟩
    exact h hc.insertable
  | top hn hname hroot =>
    exact iff_of_true rfl ⟨_, fun _ => hroot, hn.insertable, by simp, hname, by simp⟩
  | linked hn hname h =>
    refine iff_of_true rfl ⟨_, by simp, hn.insertable, (createNode_made hrun).2.2, hname, ?_⟩
    intro p hp
    cases hp
    cases h with
    | made hlink => exact hlink.name
  | unlinked hn hname h =>
    -- the name is free, so the database has refused a parent that it does not know
    refine iff_of_false Bool.false_ne_true ?_
    rintro ⟨name, hc⟩
    obtain rfl := Except.ok.inj (hname.symm.trans hc.named)
    obtain ⟨henforces, hparent⟩ := h.free_ofNew hnew hn.id_eq (hc.free _ rfl)
    exact hparent (hc.known henforces _ rfl)

/-- The name that a new node is to have is taken under its parent. -/
structure NameTaken (s : Store) (new : NewNode) (parent : Node) (name : QName) : Prop where
  named : (localNameFor new.name).bind contentName = .ok name
  taken : s.hasChildName parent.id new.assocType.fullForm name.fullForm = true

theorem createNode_conflicts_iff (hnew : s.NextIsNew parent) :
    (createNode new parent parentAtHand).conflicts s = true ↔
      Insertable s new.draft ∧ ∃ p ∈ parent, ∃ name, NameTaken s new p name := by
  have hcreation := createNode_creation s new parent parentAtHand
  rw [conflicts]
  generalize (createNode new parent parentAtHand).run s = r at hcreation
  cases hcreation with
  | noParent | top =>
    refine iff_of_false Bool.false_ne_true ?_
    rintro ⟨-, p, hp, -⟩
    cases hp
  | misnamed h =>
    refine iff_of_false Bool.false_ne_true ?_
    rintro ⟨-, p, -, name, ht⟩
    rw [ht.named] at h
    cases h
  | @refused _ e h hundoes =>
    refine iff_of_false (fun hconflict => ?_) fun hins => h hins.1
    cases e with
    | conflict => cases hundoes
    | _ => cases hconflict
  | linked hn hname h =>
    refine iff_of_false Bool.false_ne_true ?_
    rintro ⟨-, p, hp, name, ht⟩
    cases hp
    obtain rfl := Except.ok.inj (hname.symm.trans ht.named)
    cases h with
    | made hlink => cases ht.taken.symm.trans hlink.name
  | @unlinked p _ name _ e _ hn hname h =>
    cases hundoes : e.undoesWork with
    | false =>
      obtain ⟨rfl, -, htaken⟩ := h.conflict_ofNew hnew hn.id_eq hundoes
      exact iff_of_true rfl ⟨hn.insertable, p, rfl, name, hname, htaken⟩
    | true =>
      cases h with
      | itself | linked | taken => cases hundoes
      | refused hlink =>
        refine iff_of_false Bool.false_ne_true ?_
        rintro ⟨-, q, hq, name', ht⟩
        cases hq
        obtain rfl := Except.ok.inj (hname.symm.trans ht.named)
        cases ht.taken.symm.trans hlink.name

end Operation

/-- What creating a node leaves in the session. An argument that is refused changes nothing. A node
that was made is the last one, and the last association is its primary one if it has a parent. But
where the name is taken, the node is there all the same, and no association leads to it: so it is
for every node that could be created but for its name. The database refuses the association only
if the parent is not there. -/
theorem createNode_leaves (new : NewNode) {parent : Option Node} (parentAtHand : Bool)
    (hnew : session.current.NextIsNew parent) :
    let outcome := session.run (createNode new parent parentAtHand)
    (∀ argument, outcome.result = .error (.badArgument argument) → outcome.session = session) ∧
    (∀ conflict, outcome.result = .error (.conflict conflict) →
      ∃ p ∈ parent, ∃ name n, NameTaken session.current new p name ∧
        conflict = .childName p.id new.assocType.fullForm name.localName ∧
        outcome.session = { session with current := session.current.addNode n } ∧
        n.isRoot = new.isRoot ∧ ∀ a ∈ session.current.associations, a.child ≠ n.id) ∧
    (∀ n, outcome.result = .ok n →
      outcome.session.current.nodes = session.current.nodes ++ [n] ∧
      (parent = none →
        outcome.session.current.associations = session.current.associations) ∧
      ∀ p ∈ parent, ∃ a,
        outcome.session.current.associations = session.current.associations ++ [a] ∧
        a.isPrimary = true ∧ a.parent = p.id ∧ a.child = n.id) ∧
    ((∃ conflict, outcome.result = .error (.conflict conflict)) ↔
      Insertable session.current new.draft ∧
        ∃ p ∈ parent, ∃ name, NameTaken session.current new p name) ∧
    (outcome.result.isOk = true ↔ ∃ name, Creatable session.current new parent name) ∧
    ∀ e, outcome.result = .error e → e.losesWork = true →
      ∃ p ∈ parent, ¬session.current.HasNode p.id := by
  have hcreation := createNode_creation session.current new parent parentAtHand
  refine ⟨fun argument h => ?_, fun conflict h => ?_, fun n h => ?_,
    (Session.conflict_run session _).trans (createNode_conflicts_iff hnew), ?_, fun e h he => ?_⟩
  · obtain ⟨t, hrun, houtcome⟩ := Session.of_result_error h
    rw [houtcome]
    rw [hrun] at hcreation
    cases hcreation with
    | noParent | misnamed => rfl
    | refused _ hundoes => cases hundoes
    | unlinked hn _ h => cases (h.conflict_ofNew hnew hn.id_eq rfl).1
  · obtain ⟨t, hrun, houtcome⟩ := Session.of_result_error h
    rw [houtcome]
    rw [hrun] at hcreation
    cases hcreation with
    | refused _ hundoes => cases hundoes
    | @unlinked p n name _ _ _ hn hname h =>
      obtain ⟨he, rfl, htaken⟩ := h.conflict_ofNew hnew hn.id_eq rfl
      cases he
      exact ⟨p, rfl, name, n, ⟨hname, htaken⟩, rfl, rfl, hn.isRoot_eq, hn.id_eq ▸ hnew.child⟩
  · obtain ⟨t, hrun, houtcome⟩ := Session.of_result_ok h
    rw [houtcome]
    rw [hrun] at hcreation
    cases hcreation with
    | top => exact ⟨rfl, fun _ => rfl, nofun⟩
    | linked _ _ h =>
      cases h with
      | made _ ha _ =>
        subst ha
        refine ⟨rfl, nofun, fun p hp => ?_⟩
        cases hp
        exact ⟨_, rfl, rfl, rfl, rfl⟩
  · rw [Session.isOk_run]
    exact createNode_succeeds_iff hnew
  · obtain ⟨t, hrun, -⟩ := Session.of_result_error h
    rw [hrun] at hcreation
    cases hcreation with
    | noParent | misnamed => cases he
    | refused _ _ hlost => rw [hlost] at he; cases he
    | unlinked hn _ h => exact ⟨_, rfl, h.lost_ofNew hnew hn.id_eq he⟩

namespace Filing

/-- The nodes of `twoDocuments`, but for the second document. -/
def homeFolder : Node :=
  { id := .ofNode 1, name := "Home", type := ContentModel.folder.fullForm, properties := []
    isRoot := true, createdBy := none, modifiedBy := none }

def inboxFolder : Node :=
  { id := .ofNode 2, name := "Inbox", type := ContentModel.folder.fullForm, properties := []
    isRoot := false, createdBy := none, modifiedBy := none }

def firstDocument : Node :=
  { id := .ofNode 3, name := "a.txt", type := ContentModel.content.fullForm, properties := []
    isRoot := false, createdBy := none, modifiedBy := none }

theorem hasNode_homeFolder : twoDocuments.current.HasNode homeFolder.id :=
  node?_isSome.mp rfl

theorem hasNode_inboxFolder : twoDocuments.current.HasNode inboxFolder.id :=
  node?_isSome.mp rfl

theorem hasNode_firstDocument : twoDocuments.current.HasNode firstDocument.id :=
  node?_isSome.mp rfl

end Filing

open Filing

theorem firstName_ne : "a.txt" ≠ "" := by decide

/-- The first document's name. -/
def firstName : QName := ⟨ContentModel.contentUri, "a.txt", firstName_ne⟩

/-- The first document's name again, under the root. -/
def sameName : NewNode := { name := some "a.txt" }

theorem createNode_leaves_sameName :
    twoDocuments.current.NextIsNew (some homeFolder) ∧
      ∃ n, (twoDocuments.run (createNode sameName (some homeFolder) true)).session =
          { twoDocuments with current := twoDocuments.current.addNode n } ∧
        n.isRoot = false ∧ ∀ a ∈ twoDocuments.current.associations, a.child ≠ n.id := by
  have hparent : ∀ p ∈ some homeFolder, twoDocuments.current.HasNode p.id := by
    simpa using hasNode_homeFolder
  have hnew := twoDocuments_ordinary.sound.current.nextIsNew hparent
  obtain ⟨-, hleft, -, hconflict, -⟩ := createNode_leaves sameName true hnew
  have hinsertable : Insertable twoDocuments.current sameName.draft :=
    ⟨rfl, rfl, rfl, by decide +kernel⟩
  obtain ⟨conflict, h⟩ := hconflict.mpr
    ⟨hinsertable, homeFolder, rfl, firstName, by decide +kernel, by decide +kernel⟩
  obtain ⟨-, -, -, n, -, -, hsession, hroot, hchild⟩ := hleft conflict h
  exact ⟨hnew, n, hsession, hroot, hchild⟩

/-- The refused document is there: creating a node is not all or nothing. -/
theorem createNode_sameName_stays :
    (twoDocuments.run (createNode sameName (some homeFolder))).result.map (·.id) =
        .error (.conflict (.childName (.ofNode 1) ContentModel.contains.fullForm "a.txt")) ∧
      (twoDocuments.run (createNode sameName (some homeFolder))).session.current.nodes.map (·.id) =
        twoDocuments.current.nodes.map (·.id) ++ [.ofNode 5] := by
  decide +kernel

/-! ### Linking a child -/

/-- A link would give its child a second primary parent, in a database that looks for that. -/
structure Store.SecondPrimary (s : Store) (child : Node) (isPrimary : Bool) : Prop where
  enforced : s.enforces = true
  primary : isPrimary = true
  other : ∃ a ∈ s.associations, a.isPrimary = true ∧ a.child = child.id

namespace Operation

/-- What the checks of `addChild` let through, the database refuses just if it is a second primary
parent. -/
theorem Unlinked.refused_iff (h : Unlinked s parent child type name) (hp : s.HasNode parent.id)
    (hc : s.HasNode child.id) :
    s.admitsAssociation
        (s.nextAssociation parent.id child.id type.fullForm name.fullForm isPrimary) = false ↔
      s.SecondPrimary child isPrimary := by
  rw [← Bool.not_eq_true, (h.accepts hp hc).admitsAssociation_iff, not_or, Bool.not_eq_false,
    KeepsOnePrimary]
  simp only [nextAssociation, Classical.not_imp, not_forall, not_not]
  exact ⟨fun ⟨h₁, h₂, h₃⟩ => ⟨h₁, h₂, by simpa using h₃⟩,
    fun ⟨h₁, h₂, h₃⟩ => ⟨h₁, h₂, by simpa using h₃⟩⟩

theorem addChild_succeeds_iff (hp : s.HasNode parent.id) (hc : s.HasNode child.id) :
    (addChild parent child type name isPrimary atHand).succeeds s = true ↔
      Unlinked s parent child type name ∧ ¬s.SecondPrimary child isPrimary := by
  have hlinking := addChild_linking s parent child type name isPrimary atHand
  rw [Operation.succeeds]
  generalize (addChild parent child type name isPrimary atHand).run s = r at hlinking
  cases hlinking with
  | itself h => exact iff_of_false Bool.false_ne_true fun hnew => hnew.1.apart h
  | linked _ h =>
    exact iff_of_false Bool.false_ne_true fun hnew => by cases h.symm.trans hnew.1.link
  | taken _ _ h =>
    exact iff_of_false Bool.false_ne_true fun hnew => by cases h.symm.trans hnew.1.name
  | refused hnew h _ =>
    exact iff_of_false Bool.false_ne_true fun hone => hone.2 ((hnew.refused_iff hp hc).mp h)
  | made hnew ha h =>
    subst ha
    refine iff_of_true rfl ⟨hnew, fun hsecond => ?_⟩
    rw [(hnew.refused_iff hp hc).mpr hsecond] at h
    cases h

end Operation

/-- Linking a child undoes the work of the session just where the checks find nothing, and it would
be a second primary parent. -/
theorem addChild_undone_iff (hp : session.current.HasNode parent.id)
    (hc : session.current.HasNode child.id) :
    (session.run (addChild parent child type name isPrimary atHand)).undone = true ↔
      Unlinked session.current parent child type name ∧
        session.current.SecondPrimary child isPrimary := by
  have hlinking := addChild_linking session.current parent child type name isPrimary atHand
  generalize hrun : (addChild parent child type name isPrimary atHand).run session.current = r
    at hlinking
  cases hlinking with
  | itself h =>
    rw [Session.run_error hrun rfl]
    exact iff_of_false Bool.false_ne_true fun hnew => hnew.1.apart h
  | linked _ h =>
    rw [Session.run_error hrun rfl]
    exact iff_of_false Bool.false_ne_true fun hnew => by cases h.symm.trans hnew.1.link
  | taken _ _ h =>
    rw [Session.run_error hrun rfl]
    exact iff_of_false Bool.false_ne_true fun hnew => by cases h.symm.trans hnew.1.name
  | refused hnew h _ =>
    rw [Session.run_undone hrun rfl]
    exact iff_of_true rfl ⟨hnew, (hnew.refused_iff hp hc).mp h⟩
  | made hnew ha h =>
    rw [Session.run_of_ok hrun]
    subst ha
    refine iff_of_false Bool.false_ne_true fun hsecond => ?_
    rw [(hnew.refused_iff hp hc).mpr hsecond.2] at h
    cases h

/-- Whether a conflict is there: the association that it is told of, or one that has the name under
which a child was to be linked. -/
def Store.HasConflict (s : Store) (name : QName) : Conflict → Prop
  | .association parent child type =>
    ∃ a ∈ s.associations, a.parent = parent ∧ a.child = child ∧ a.type = type
  | .childName parent type _ =>
    ∃ a ∈ s.associations, a.parent = parent ∧ a.type = type ∧ a.name = name.fullForm

/-- A conflict is told of a parent, a child, a type and a name. -/
def Conflict.IsOf (parent child : Node) (type name : QName) : Conflict → Prop
  | .association p c t => p = parent.id ∧ c = child.id ∧ t = type.fullForm
  | .childName p t n => p = parent.id ∧ t = type.fullForm ∧ n = name.localName

/-- What is told of a refused association is told of the link that was asked for. -/
theorem toldRefused_isOf {conflict : Conflict}
    (h : toldRefused parent child type name atHand = some conflict) :
    conflict.IsOf parent child type name := by
  rw [toldRefused] at h
  split at h
  · split at h
    · cases h
      exact ⟨rfl, rfl, rfl⟩
    · cases h
  · split at h
    · cases h
      exact ⟨rfl, rfl, rfl⟩
    · cases h

/-- A conflict with a link is not there if the checks find nothing. -/
theorem Operation.Unlinked.not_hasConflict (h : Unlinked s parent child type name)
    {conflict : Conflict} (hof : conflict.IsOf parent child type name) :
    ¬s.HasConflict name conflict := by
  cases conflict with
  | association p c t =>
    obtain ⟨rfl, rfl, rfl⟩ := hof
    intro hlink
    exact absurd (hasAssociation_iff.mpr hlink) (by simp [h.link])
  | childName p t n =>
    obtain ⟨rfl, rfl, -⟩ := hof
    intro hname
    exact absurd (hasChildName_iff.mpr hname) (by simp [h.name])

/-- What linking a child leaves in the session. The three failures that the checks tell say what is
so, and change nothing. The one failure that they leave to the database, a second primary parent,
undoes all work since the last commit, and nothing else does. It is told as a conflict if the nodes
that the conflict names are at hand, and that conflict is never there. Without a failure of these
the child is linked. -/
theorem addChild_leaves (hp : session.current.HasNode parent.id)
    (hc : session.current.HasNode child.id) (type name : QName) (isPrimary : Bool)
    (atHand : AtHand) :
    let outcome := session.run (addChild parent child type name isPrimary atHand)
    (∀ argument, outcome.result = .error (.badArgument argument) → parent.id = child.id) ∧
    (∀ conflict, outcome.result = .error (.conflict conflict) →
      conflict.IsOf parent child type name ∧ session.current.HasConflict name conflict) ∧
    (∀ e, outcome.result = .error e →
      if outcome.undone then
        e = @Failure.workLost (toldRefused parent child type name atHand) ∧
          outcome.session.current = session.current.countAssociation.restore session.committed
      else outcome.session = session) ∧
    (∀ conflict, outcome.result = .error (@Failure.workLost (some conflict)) →
      conflict.IsOf parent child type name ∧ ¬session.current.HasConflict name conflict) ∧
    (outcome.undone = true ↔
      Unlinked session.current parent child type name ∧
        session.current.SecondPrimary child isPrimary) ∧
    (outcome.result.isOk = true ↔
      Unlinked session.current parent child type name ∧
        ¬session.current.SecondPrimary child isPrimary) := by
  have hlinking := addChild_linking session.current parent child type name isPrimary atHand
  refine ⟨fun argument h => ?_, fun conflict h => ?_, fun e h => ?_, fun conflict h => ?_,
    addChild_undone_iff hp hc, ?_⟩
  · obtain ⟨u, hrun, -⟩ := Session.of_result_error h
    rw [hrun] at hlinking
    cases hlinking with
    | itself hself => exact hself
  · obtain ⟨u, hrun, -⟩ := Session.of_result_error h
    rw [hrun] at hlinking
    cases hlinking with
    | linked _ hlink => exact ⟨⟨rfl, rfl, rfl⟩, hasAssociation_iff.mp hlink⟩
    | taken _ _ hname => exact ⟨⟨rfl, rfl, rfl⟩, hasChildName_iff.mp hname⟩
  · obtain ⟨u, hrun, houtcome⟩ := Session.of_result_error h
    rw [houtcome]
    rw [hrun] at hlinking
    cases hlinking with
    | itself | linked | taken => rfl
    | refused _ _ htold => exact ⟨congrArg _ htold, rfl⟩
  · obtain ⟨u, hrun, -⟩ := Session.of_result_error h
    rw [hrun] at hlinking
    cases hlinking with
    | refused hnew _ htold =>
      have hof := toldRefused_isOf htold.symm
      exact ⟨hof, hnew.not_hasConflict hof⟩
  · rw [Session.isOk_run]
    exact addChild_succeeds_iff hp hc

theorem addChild_leaves_secondParent :
    (twoDocuments.run
        (addChild inboxFolder firstDocument ContentModel.contains firstName true)).undone = true ∧
      (twoDocuments.run
        (addChild inboxFolder firstDocument ContentModel.contains firstName false)).result.isOk =
          true := by
  obtain ⟨-, -, -, -, hundone, -⟩ := addChild_leaves hasNode_inboxFolder hasNode_firstDocument
    ContentModel.contains firstName true {}
  obtain ⟨-, -, -, -, -, hlinked⟩ := addChild_leaves hasNode_inboxFolder hasNode_firstDocument
    ContentModel.contains firstName false {}
  have hnew : Unlinked twoDocuments.current inboxFolder firstDocument ContentModel.contains
      firstName :=
    ⟨by decide, by decide +kernel, by decide +kernel⟩
  have hother : ∃ a ∈ twoDocuments.current.associations,
      a.isPrimary = true ∧ a.child = firstDocument.id := by decide +kernel
  exact ⟨hundone.mpr ⟨hnew, rfl, rfl, hother⟩, hlinked.mpr ⟨hnew, fun h => nomatch h.primary⟩⟩

/-- A name that the message for a refused row could be taken to speak of. -/
def ruleName : QName := ⟨ContentModel.contentUri, childNameRule, by decide⟩

/-- The document has a primary parent already. Refusing it another takes all rows of the session
along. A caller who holds the nodes since they were made is told that the document is linked to the
folder, or that its name is taken there, and neither is so; any other caller is told nothing. -/
theorem addChild_secondParent_losesWork :
    let refuse (name : QName) (atHand : AtHand) : Outcome Association :=
      twoDocuments.run (addChild inboxFolder firstDocument ContentModel.contains name true atHand)
    (∀ atHand ∈ [⟨false, false⟩, ⟨false, true⟩, ⟨true, false⟩, ⟨true, true⟩],
        (refuse firstName atHand).session.current.nodes.map (·.id) = []) ∧
      twoDocuments.current.nodes.map (·.id) = [.ofNode 1, .ofNode 2, .ofNode 3, .ofNode 4] ∧
      (refuse firstName {}).result.map (·.id) = .error (@Failure.workLost none) ∧
      (refuse firstName ⟨true, true⟩).result.map (·.id) = .error (@Failure.workLost
        (some (.association (.ofNode 2) (.ofNode 3) ContentModel.contains.fullForm))) ∧
      (refuse ruleName ⟨true, false⟩).result.map (·.id) = .error (@Failure.workLost
        (some (.childName (.ofNode 2) ContentModel.contains.fullForm childNameRule))) ∧
      ∀ a ∈ twoDocuments.current.associations, a.parent ≠ inboxFolder.id := by
  decide +kernel

end Multifiling
