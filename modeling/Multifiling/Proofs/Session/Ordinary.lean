import Multifiling.Proofs.Filing.Undo
import Multifiling.Proofs.Session.History

/-!
Ordinary sessions: those that only create users and nodes, file them and unfile them. In these every
secondary association bears the name of its child, so that it can be made again after it was deleted
(`create_delete_undo`).
-/

namespace Multifiling
open Store

variable {s t : Store}

/-! ### Names of secondary associations -/

/-- Every secondary association bears the name of its child. -/
def Store.WellNamed (s : Store) : Prop :=
  ∀ a ∈ s.associations, a.isPrimary = false → Filing.Named s a

theorem Filing.Named.mono {a : Association} (h : Filing.Named s a) (hnodes : s.nodes ⊆ t.nodes) :
    Filing.Named t a := by
  obtain ⟨n, hn, h⟩ := h
  exact ⟨n, hnodes hn, h⟩

/-- Only links are given names, and children keep theirs. -/
theorem Store.Changes.wellNamed {kinds : List Kind} (h : Changes kinds s t) (hlink : .link ∉ kinds)
    (hclear : .clear ∉ kinds) (hs : s.WellNamed) : t.WellNamed :=
  fun a ha hp => (hs a (h.mem_secondary hlink ha hp) hp).mono fun _ hn => h.mem_nodes hclear hn

namespace Filing
open Operation

/-- Filing appends associations that bear the names of their children. -/
theorem create_wellNamed (registry : Registry) (parentId : String) (links : List ChildLink)
    (hs : s.WellNamed) : ((create registry parentId links).after s).WellNamed := by
  have hsame := (create_after registry parentId links s).sameTree (by decide)
  intro a ha hp
  have hnamed : Named s a := by
    rcases mem_create ha with ha | ⟨parent, item, -, hbecame⟩
    · exact hs a ha hp
    · exact hbecame.named
  exact hnamed.mono (hsame.nodes ▸ List.Subset.refl _)

end Filing

namespace Call
open Operation

/-- The calls of ordinary sessions: nodes are made by `createNode`, and linked to further parents
by filing alone. -/
def ordinary : Call → Bool
  | .createUser _ | .createNode _ _ | .file _ _ _ | .unfile _ _ _ _ => true
  | .addChild _ _ _ _ | .removeSecondary _ => false

theorem after_wellNamed {c : Call} (hc : c.ordinary = true) (hs : s.Sound) (hn : s.WellNamed) :
    (c.operation.after s).WellNamed := by
  cases c with
  | createUser | createNode =>
    exact (after_creates rfl hs).wellNamed (by decide) (by decide) hn
  | file registry parentId links =>
    rw [operation, after_discard]
    exact Filing.create_wellNamed registry parentId links hn
  | unfile registry parentId childId assocType =>
    have hchanges := Filing.delete_after registry parentId childId assocType s
    exact hchanges.wellNamed (by decide) (by decide) hn
  | addChild | removeSecondary => cases hc

end Call

/-! ### Sessions -/

namespace Session

/-- The sessions reached by ordinary calls, those that failed included, and by committing the work
or rolling it back. -/
inductive Ordinary : Session → Prop where
  | empty : Ordinary {}
  | call {session : Session} (h : Ordinary session) (c : Call) (hc : c.ordinary = true) :
    Ordinary (session.call c)
  | commit {session : Session} (h : Ordinary session) : Ordinary session.commit
  | rollback {session : Session} (h : Ordinary session) : Ordinary session.rollback

namespace Ordinary

variable {session : Session}

theorem sound (h : Ordinary session) : session.Sound := by
  induction h with
  | empty => exact ⟨.empty true, .empty true, Issued.le_refl _⟩
  | call _ c _ ih => exact call_sound ih c
  | commit _ ih => exact ⟨ih.current, ih.current, Issued.le_refl _⟩
  | rollback _ ih => exact ⟨ih.committed, restore_sound ih.committed ih.issued_le, ih.issued_le⟩

theorem wellNamed (h : Ordinary session) :
    session.committed.WellNamed ∧ session.current.WellNamed := by
  induction h with
  | empty => exact ⟨nofun, nofun⟩
  | @call session h c hc ih =>
    have hcommitted : (session.call c).committed = session.committed := run_committed ..
    rw [hcommitted]
    refine ⟨ih.1, ?_⟩
    rcases run_current session c.operation with hcur | hcur
    · exact hcur ▸ Call.after_wellNamed hc h.sound.current ih.2
    · exact hcur ▸ ih.1
  | commit _ ih => exact ⟨ih.2, ih.2⟩
  | rollback _ ih => exact ⟨ih.1, ih.1⟩

end Ordinary

end Session

namespace Filing
open Operation

/-- Creating and deleting undo each other. On sound rows, what was created by a batch can be deleted
link by link, in any order, and the associations are those from before. In an ordinary session, a
secondary association that is deleted can be created again with the same texts; it is then the same
but for its number, and the last. -/
theorem create_delete_undo :
    (∀ (registry : Registry) (parentId : String) (links made : List ChildLink) (s t : Store),
      s.Sound → (create registry parentId links).run s = .ok made t →
      ∀ order : List ChildLink, order.Perm links →
        ∃ u, (deleteLinks registry parentId order).run t = .ok () u ∧
          u.associations = s.associations ∧ SameTree s u) ∧
    ∀ session : Session, session.Ordinary →
      ∀ (before after : List Association) (a : Association),
        session.current.associations = before ++ a :: after → a.isPrimary = false →
      ∀ (registry : Registry) (parentId : String) (link : ChildLink),
        Addressed session.current registry parentId link.childId link.assocType a →
        ∃ u v b,
          (delete registry parentId link.childId link.assocType).run session.current = .ok () u ∧
          (create registry parentId [link]).run u = .ok [link] v ∧
          v.associations = (before ++ after) ++ [b] ∧ b.edge = a.edge := by
  constructor
  · intro registry parentId links made s t hs hcreate order horder
    obtain ⟨parent, types, hp, htypes, hlen, -, hchanges, new, hnew, hall⟩ := create_ok hcreate
    refine run_deleteLinks (hchanges.sound hs) (hchanges.sameTree (by decide)) hp hnew hall
      (requiredType_of_mem_zip htypes) ?_
    rwa [List.map_fst_zip (Nat.le_of_eq hlen)]
  · intro session h before after a hsplit hsecondary registry parentId link haddressed
    have ha : a ∈ session.current.associations := by simp [hsplit]
    exact run_create_again h.sound.current hsplit hsecondary (h.wellNamed.2 a ha hsecondary)
      haddressed

/-- The built-in prefixes and type. -/
def plainRegistry : Registry := ⟨ContentModel.namespaces, [], [ContentModel.contains]⟩

/-- Two documents under the root, beside an empty folder. -/
def twoDocuments : Session :=
  [.createNode { name := some "Home", type := ContentModel.folder, isRoot := true } none,
    .createNode { name := some "Inbox", type := ContentModel.folder } (some (.ofNode 1)),
    .createNode { name := some "a.txt" } (some (.ofNode 1)),
    .createNode { name := some "b.txt" } (some (.ofNode 1))].foldl Session.call {}

theorem twoDocuments_ordinary : twoDocuments.Ordinary :=
  .call (.call (.call (.call .empty _ rfl) _ rfl) _ rfl) _ rfl

def linkTo (k : Nat) : ChildLink := ⟨(Uuid.ofNode k).text, some "cm:contains", false⟩

/-- The two documents, filed under the folder as well. -/
def filedTwice : Session :=
  twoDocuments.call (.file plainRegistry (Uuid.ofNode 2).text [linkTo 3, linkTo 4])

theorem filedTwice_ordinary : filedTwice.Ordinary := .call twoDocuments_ordinary _ rfl

theorem namesType_contains :
    NamesType plainRegistry (some "cm:contains") ContentModel.contains :=
  requiredType_ok_iff.mp (by decide +kernel)

/-- The first of the two links. -/
def firstLink : Association :=
  ⟨4, .ofNode 2, .ofNode 3, ContentModel.contains.fullForm,
    "\x7bhttp://www.alfresco.org/model/content/1.0\x7da.txt", false⟩

theorem create_delete_undo_twoDocuments :
    (∃ t u, (deleteLinks plainRegistry (Uuid.ofNode 2).text [linkTo 4, linkTo 3]).run t = .ok () u ∧
      t.associations.length = 5 ∧ u.associations = twoDocuments.current.associations) ∧
    ∃ u v b, (delete plainRegistry (Uuid.ofNode 2).text (linkTo 3).childId (linkTo 3).assocType).run
        filedTwice.current = .ok () u ∧
      (create plainRegistry (Uuid.ofNode 2).text [linkTo 3]).run u = .ok [linkTo 3] v ∧
      v.associations.length = 5 ∧ v.associations.getLast? = some b ∧ b.edge = firstLink.edge := by
  have hordinary := twoDocuments_ordinary
  obtain ⟨hundo, hagain⟩ := create_delete_undo
  constructor
  · have hcreate : (twoDocuments.run
        (create plainRegistry (Uuid.ofNode 2).text [linkTo 3, linkTo 4])).result.isOk := by
      decide +kernel
    obtain ⟨made, hcreate⟩ := Session.run_ok hcreate
    obtain ⟨u, hdelete, hu, -⟩ := hundo plainRegistry (Uuid.ofNode 2).text
      [linkTo 3, linkTo 4] made twoDocuments.current _ hordinary.sound.current hcreate
      [linkTo 4, linkTo 3] (.swap ..)
    exact ⟨_, u, hdelete, by decide +kernel, hu⟩
  · have hfiled : filedTwice.Ordinary := .call hordinary _ rfl
    have hlength : filedTwice.current.associations.length = 5 := by decide +kernel
    obtain ⟨before, after, hsplit⟩ : ∃ before after,
        filedTwice.current.associations = before ++ firstLink :: after :=
      ⟨filedTwice.current.associations.take 3, filedTwice.current.associations.drop 4,
        by decide +kernel⟩
    have haddressed : Addressed filedTwice.current plainRegistry (Uuid.ofNode 2).text
        (linkTo 3).childId (linkTo 3).assocType firstLink :=
      ⟨by decide +kernel, by decide +kernel, by decide +kernel⟩
    obtain ⟨u, v, b, hdelete, hcreate, hv, hb⟩ := hagain filedTwice hfiled before after firstLink
      hsplit rfl plainRegistry (Uuid.ofNode 2).text (linkTo 3) haddressed
    refine ⟨u, v, b, hdelete, hcreate, ?_, by simp [hv], hb⟩
    rw [hsplit] at hlength
    simpa [hv] using hlength

end Filing

end Multifiling
