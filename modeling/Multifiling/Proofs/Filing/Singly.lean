import Multifiling.Proofs.Filing.Batch

/-!
Batches link by link. A batch whose types cannot all be read fails at the first that cannot, before
anything is filed. Any other batch does what its links do when they are filed one at a time, each as
a batch of its own, up to the first that fails (`create_singly`).
-/

namespace Multifiling.Filing
open Store Operation

variable {s t : Store} {registry : Registry} {parentId : String} {parent : Node}
  {links : List ChildLink} {link : ChildLink} {e : Failure}

/-- Files links one at a time, each as a batch of its own, up to the first that fails. -/
def createSingly (registry : Registry) (parentId : String) :
    List ChildLink → Operation (List ChildLink)
  | [] => return []
  | link :: rest => do
    let first ← create registry parentId [link]
    let later ← createSingly registry parentId rest
    return first ++ later

/-- The text of a link names an association type. -/
def Typed (registry : Registry) (link : ChildLink) : Prop :=
  ∃ q, NamesType registry link.assocType q

theorem run_createSingly_cons (link : ChildLink) (rest : List ChildLink) (s : Store) :
    (createSingly registry parentId (link :: rest)).run s =
      match (create registry parentId [link]).run s with
      | .error e t => .error e t
      | .ok first t =>
        match (createSingly registry parentId rest).run t with
        | .error e u => .error e u
        | .ok later u => .ok (first ++ later) u := by
  rw [createSingly, EStateM.run_bind]
  cases (create registry parentId [link]).run s with
  | error e t => rfl
  | ok first t =>
    simp only [EStateM.run_bind]
    cases (createSingly registry parentId rest).run t <;> rfl

/-- Where no parent is found, no batch gets as far as its types. -/
theorem run_create_noParent (hp : s.resolve (some parentId) = .error e) (links : List ChildLink) :
    (create registry parentId links).run s = .error e s := by
  rw [run_create, hp]

/-- Once the types are read, the links that are left can as well be filed one at a time. -/
theorem run_createEach_eq {types : List QName} (hp : s.resolve (some parentId) = .ok parent)
    (htypes : List.Forall₂ (fun link type => requiredType registry link.assocType = .ok type)
      links types) :
    (createEach parent (links.zip types)).run s =
      (createSingly registry parentId links).run s := by
  induction htypes generalizing s with
  | nil => rfl
  | @cons link type rest types htype _ ih =>
    have hnode : s.HasNode parent.id := hasNode_of_mem (resolve_ok hp).1
    rw [List.zip_cons_cons, run_createEach_cons, run_createOne_eq link type hnode,
      run_createSingly_cons, run_create_single hp htype]
    cases newLink s parent link type with
    | error e => rfl
    | ok a =>
      -- a new association hides no node
      have hp' : (s.addAssociation a).resolve (some parentId) = .ok parent := hp
      simp only [ih hp']
      cases (createSingly registry parentId rest).run (s.addAssociation a) <;> rfl

/-- A batch whose types can all be read is its links one by one. -/
theorem run_create_typed (hp : s.resolve (some parentId) = .ok parent)
    (ht : ∀ link ∈ links, Typed registry link) :
    (create registry parentId links).run s = (createSingly registry parentId links).run s := by
  have hread : ∀ link ∈ links, ∃ q, requiredType registry link.assocType = .ok q :=
    fun link hlink => (ht link hlink).imp fun _ h => requiredType_ok_iff.mpr h
  obtain ⟨types, htypes⟩ := exists_mapM_ok_iff.mpr hread
  rw [run_create, hp]
  simp only [htypes]
  exact run_createEach_eq hp (mapM_ok_iff.mp htypes)

/-- A batch with a type that cannot be read fails at the first such link, and changes nothing. -/
theorem run_create_untyped (hp : s.resolve (some parentId) = .ok parent)
    (ht : ∃ link ∈ links, ¬Typed registry link) :
    ∃ before link after argument, links = before ++ link :: after ∧
      (∀ l ∈ before, Typed registry l) ∧
      requiredType registry link.assocType = .error (.badArgument argument) ∧
      (create registry parentId links).run s = .error (.badArgument argument) s := by
  cases htypes : links.mapM fun link => requiredType registry link.assocType with
  | ok types =>
    obtain ⟨link, hlink, huntyped⟩ := ht
    obtain ⟨q, hq⟩ := exists_mapM_ok_iff.mp ⟨types, htypes⟩ link hlink
    exact absurd ⟨q, requiredType_ok_iff.mp hq⟩ huntyped
  | error e =>
    obtain ⟨before, link, after, rfl, hbefore, he⟩ := mapM_error_first htypes
    obtain ⟨argument, rfl⟩ := requiredType_badArgument he
    refine ⟨before, link, after, argument, rfl, fun l hl => ?_, he, ?_⟩
    · obtain ⟨q, hq⟩ := hbefore l hl
      exact ⟨q, requiredType_ok_iff.mp hq⟩
    · rw [run_create, hp]
      simp only [htypes]

/-- Filing one at a time fails at one link, on the rows that those before it have left. -/
theorem createSingly_error (hp : s.resolve (some parentId) = .ok parent)
    (ht : ∀ link ∈ links, Typed registry link)
    (h : (createSingly registry parentId links).run s = .error e t) :
    ∃ before link after, links = before ++ link :: after ∧
      (createSingly registry parentId before).run s = .ok before t ∧
      (create registry parentId [link]).run t = .error e t := by
  induction links generalizing s with
  | nil => cases h
  | cons link rest ih =>
    obtain ⟨type, htype⟩ := ht link List.mem_cons_self
    have hsingle := run_create_single hp (requiredType_ok_iff.mpr htype)
    rw [run_createSingly_cons, hsingle] at h
    cases hnew : newLink s parent link type with
    | error e' =>
      rw [hnew] at h hsingle
      cases h
      exact ⟨[], link, rest, rfl, rfl, hsingle⟩
    | ok a =>
      rw [hnew] at h hsingle
      simp only at h hsingle
      have hp' : (s.addAssociation a).resolve (some parentId) = .ok parent := hp
      cases hrest : (createSingly registry parentId rest).run (s.addAssociation a) with
      | ok later u => rw [hrest] at h; cases h
      | error e' u =>
        rw [hrest] at h
        cases h
        obtain ⟨before, failed, after, rfl, hbefore, hfailed⟩ :=
          ih hp' (fun l hl => ht l (List.mem_cons_of_mem link hl)) hrest
        refine ⟨link :: before, failed, after, rfl, ?_, hfailed⟩
        rw [run_createSingly_cons, hsingle]
        simp only [hbefore, List.singleton_append]

/-- A batch is its links one by one, once all types are read. If a type cannot be read, the batch
fails at the first such link and nothing is filed, whatever stands before it. Otherwise it ends as
filing its links one at a time does; and where it fails, the links before the one at fault have been
filed, each as one association at the end, and no other. -/
theorem create_singly (links : List ChildLink) (hne : links ≠ []) (s : Store) (registry : Registry)
    (parentId : String) :
    (∀ parent, s.Names parentId parent → (∃ link ∈ links, ¬Typed registry link) →
      ∃ before link after argument, links = before ++ link :: after ∧
        (∀ l ∈ before, Typed registry l) ∧
        requiredType registry link.assocType = .error (.badArgument argument) ∧
        (create registry parentId links).run s = .error (.badArgument argument) s) ∧
    ((∀ parent, s.Names parentId parent → ∀ link ∈ links, Typed registry link) →
      (create registry parentId links).run s = (createSingly registry parentId links).run s) ∧
    ∀ parent e t, s.Names parentId parent → (∀ link ∈ links, Typed registry link) →
      (create registry parentId links).run s = .error e t →
      ∃ before link after items, links = before ++ link :: after ∧
        (create registry parentId [link]).run t = .error e t ∧
        List.Forall₂ (fun link item => item.Of s registry link) before items ∧
        t = s.fileAll parent items := by
  refine ⟨fun parent hp => run_create_untyped (resolve_ok_iff.mpr hp), fun ht => ?_,
    fun parent e t hnames ht h => ?_⟩
  · cases hp : s.resolve (some parentId) with
    | ok parent => exact run_create_typed hp (ht parent (resolve_ok_iff.mp hp))
    | error e =>
      obtain ⟨first, rest, rfl⟩ := List.exists_cons_of_ne_nil hne
      rw [run_createSingly_cons, run_create_noParent hp, run_create_noParent hp]
  · have hp := resolve_ok_iff.mpr hnames
    rw [run_create_typed hp ht] at h
    obtain ⟨before, link, after, rfl, hbefore, hlink⟩ := createSingly_error hp ht h
    rw [← run_create_typed hp fun l hl => ht l (List.mem_append_left _ hl)] at hbefore
    obtain ⟨parent', items, hnames', hitems, -, -, rfl⟩ := run_create_ok_iff.mp hbefore
    obtain rfl : parent' = parent := by
      rw [← resolve_ok_iff, hp] at hnames'
      exact (Except.ok.inj hnames').symm
    exact ⟨before, link, after, items, rfl, hlink, hitems, rfl⟩

/-- A link to no node. -/
def linkToNothing : ChildLink := ⟨"nothing", some "cm:contains", false⟩

/-- A link by a type that is not known. -/
def linkUntyped : ChildLink := ⟨(Uuid.ofNode 4).text, some "cm:unknown", false⟩

theorem linkUntyped_not_typed : ¬Typed plainRegistry linkUntyped := by
  rintro ⟨q, hq⟩
  have hread := requiredType_ok_iff.mpr hq
  have hunknown : requiredType plainRegistry linkUntyped.assocType =
      .error (.badArgument (.unknownType "cm:unknown")) := by decide +kernel
  rw [hunknown] at hread
  cases hread

/-- An unknown type tells although a node that is not there stands before it; without it, such a
node tells after the document before it has been filed. -/
theorem create_singly_twoDocuments :
    (∃ argument, (create plainRegistry (Uuid.ofNode 2).text [linkToNothing, linkUntyped]).run
        twoDocuments.current = .error (.badArgument argument) twoDocuments.current) ∧
      ∃ e t items inbox,
        (create plainRegistry (Uuid.ofNode 2).text [linkTo 3, linkToNothing, linkTo 4]).run
            twoDocuments.current = .error e t ∧
          (createSingly plainRegistry (Uuid.ofNode 2).text
            [linkTo 3, linkToNothing, linkTo 4]).run twoDocuments.current = .error e t ∧
          t = twoDocuments.current.fileAll inbox items ∧ items.length = 1 := by
  have hfound : (twoDocuments.current.resolve (some (Uuid.ofNode 2).text)).map (·.id) =
      .ok (.ofNode 2) := by decide +kernel
  obtain ⟨inbox, hinbox, -⟩ := map_eq_ok.mp hfound
  have hnames : twoDocuments.current.Names (Uuid.ofNode 2).text inbox := resolve_ok_iff.mp hinbox
  constructor
  · obtain ⟨huntyped, -⟩ := create_singly [linkToNothing, linkUntyped] (by simp)
      twoDocuments.current plainRegistry (Uuid.ofNode 2).text
    obtain ⟨before, link, after, argument, -, -, -, h⟩ :=
      huntyped inbox hnames ⟨linkUntyped, by simp, linkUntyped_not_typed⟩
    exact ⟨argument, h⟩
  · obtain ⟨-, hsame, hfails⟩ := create_singly [linkTo 3, linkToNothing, linkTo 4]
      (by simp) twoDocuments.current plainRegistry (Uuid.ofNode 2).text
    have htyped : ∀ link ∈ [linkTo 3, linkToNothing, linkTo 4], Typed plainRegistry link := by
      intro link hlink
      have hcontains : link.assocType = some "cm:contains" := by
        revert link
        decide
      exact ⟨ContentModel.contains, hcontains ▸ namesType_contains⟩
    cases hrun : (create plainRegistry (Uuid.ofNode 2).text
        [linkTo 3, linkToNothing, linkTo 4]).run twoDocuments.current with
    | ok made t =>
      have hfailed : (create plainRegistry (Uuid.ofNode 2).text
          [linkTo 3, linkToNothing, linkTo 4]).succeeds twoDocuments.current = false := by
        decide +kernel
      rw [Operation.succeeds, hrun] at hfailed
      cases hfailed
    | error e t =>
      obtain ⟨before, link, after, items, -, -, -, ht⟩ := hfails inbox e t hnames htyped hrun
      refine ⟨e, t, items, inbox, rfl, ?_, ht, ?_⟩
      · rw [← hsame fun _ _ => htyped, hrun]
      · have hlength : ((create plainRegistry (Uuid.ofNode 2).text
            [linkTo 3, linkToNothing, linkTo 4]).after
              twoDocuments.current).associations.length = 4 := by decide +kernel
        have hbefore : twoDocuments.current.associations.length = 3 := by decide +kernel
        rw [after_of_error hrun, ht] at hlength
        simp only [fileAll, List.length_append, List.length_mapIdx, hbefore] at hlength
        omega

end Multifiling.Filing
