import Mathlib.Data.List.Nodup
import Mathlib.Data.List.Perm.Basic
import Multifiling.Proofs.Session.Ordinary

/-!
Batches of links in closed form. The links of a batch are made one by one, each on the rows that the
earlier ones have left; but whether the whole batch succeeds is told by the rows before it
(`Store.Fileable`), and so are the associations that it adds (`Store.fileAll`). Neither depends on
the order of the links (`create_closed`).
-/

namespace Multifiling
open Store

variable {s t : Store} {registry : Registry} {parent : Node}

/-! ### Names -/

namespace Node

variable {n m : Node}

/-- The local part of the name under which a node is filed: the first hundred characters of its own
name. -/
def shortName (n : Node) : String := String.ofList (n.name.toList.take 100)

/-- The name under which a node is filed. -/
def linkText (n : Node) : String := "\x7b" ++ ContentModel.contentUri ++ "\x7d" ++ n.shortName

theorem shortName_ne (h : n.name ≠ "") : n.shortName ≠ "" := by
  have hchars : n.name.toList ≠ [] := by simpa using h
  simp [shortName, hchars]

theorem linkText_inj : n.linkText = m.linkText ↔ n.shortName = m.shortName := by
  constructor
  · intro h
    have hchars := congrArg String.toList h
    simp only [linkText, String.toList_append] at hchars
    exact String.toList_inj.mp (List.append_cancel_left hchars)
  · intro h
    rw [linkText, linkText, h]

end Node

namespace Filing

variable {n : Node}

/-- A node with a name is filed under it. -/
theorem linkName_of_name (h : n.name ≠ "") :
    ∃ name, linkName n = .ok name ∧ name.fullForm = n.linkText := by
  refine ⟨⟨ContentModel.contentUri, n.shortName, Node.shortName_ne h⟩, ?_, rfl⟩
  rw [linkName, localNameFor, if_neg h]
  exact dif_neg (Node.shortName_ne h)

theorem linkName_of_noName (h : n.name = "") : ∃ e, linkName n = .error e := by
  rw [linkName, h]
  exact ⟨_, rfl⟩

end Filing

/-! ### Items -/

/-- What a link comes to, once its texts are made out: a child and a type. -/
structure Filing.Item where
  child : Node
  type : QName

namespace Filing.Item

/-- The association that an item becomes under a parent. -/
def association (item : Item) (parent : Uuid) (id : Nat) : Association :=
  { id, parent, child := item.child.id, type := item.type.fullForm, name := item.child.linkText
    isPrimary := false }

/-- What no two items under one parent may share: a type and a name. -/
def key (item : Item) : QName × String := (item.type, item.child.shortName)

/-- A link comes to an item: its texts name the child and the type. -/
structure Of (s : Store) (registry : Registry) (link : ChildLink) (item : Item) : Prop where
  child : s.Names link.childId item.child
  type : NamesType registry link.assocType item.type

end Filing.Item

namespace Store
open Filing

/-- An item can be filed under a parent on these rows: the child has a name and is not the parent
itself, no association links it to the parent by this type, be it primary or secondary, and none
has the same name for this type. -/
structure Fits (s : Store) (parent : Node) (item : Item) : Prop where
  named : item.child.name ≠ ""
  apart : parent.id ≠ item.child.id
  link : ∀ a ∈ s.associations,
    ¬(a.parent = parent.id ∧ a.child = item.child.id ∧ a.type = item.type.fullForm)
  name : ∀ a ∈ s.associations,
    ¬(a.parent = parent.id ∧ a.type = item.type.fullForm ∧ a.name = item.child.linkText)

/-- Items can be filed under a parent together: each of them can, and no type and name occur
twice. -/
structure Fileable (s : Store) (parent : Node) (items : List Item) : Prop where
  fits : ∀ item ∈ items, s.Fits parent item
  distinct : (items.map Item.key).Nodup

/-- The store with items filed under a parent: their associations come last, in the order of the
items, and their numbers are taken. -/
def fileAll (s : Store) (parent : Node) (items : List Item) : Store :=
  { s with
    associations := s.associations ++
      items.mapIdx fun i item => item.association parent.id (s.issued.associations + i + 1)
    issued := { s.issued with associations := s.issued.associations + items.length } }

/-- The store with the next association made of an item. -/
def fileOne (s : Store) (parent : Node) (item : Item) : Store :=
  s.addAssociation (item.association parent.id (s.issued.associations + 1))

theorem fileAll_nil (s : Store) (parent : Node) : s.fileAll parent [] = s := by
  simp [fileAll]

theorem fileAll_cons (s : Store) (parent : Node) (item : Item) (rest : List Item) :
    s.fileAll parent (item :: rest) = (s.fileOne parent item).fileAll parent rest := by
  have hshift : (fun i (item : Item) =>
        item.association parent.id (s.issued.associations + (i + 1) + 1)) =
      fun i item => item.association parent.id (s.issued.associations + 1 + i + 1) := by
    funext i item
    rw [Nat.add_right_comm s.issued.associations 1 i, Nat.add_assoc s.issued.associations i 1]
  have hcount : s.issued.associations + (rest.length + 1) =
      s.issued.associations + 1 + rest.length := by omega
  simp only [fileAll, fileOne, addAssociation, countAssociation, List.mapIdx_cons,
    List.append_assoc, List.singleton_append, List.length_cons, Nat.add_zero, hshift, hcount]

theorem names_fileOne {item : Item} {text : String} {n : Node} :
    (s.fileOne parent item).Names text n ↔ s.Names text n :=
  ⟨fun h => ⟨h.tables, h.spelled, h.found⟩, fun h => ⟨h.tables, h.spelled, h.found⟩⟩

end Store

namespace Filing
open Operation

/-! ### What one item leaves for the others -/

/-- An item as it comes from texts: its child is the node of its identifier, and no brace stands in
the local name of its type. -/
structure Item.Known (s : Store) (item : Item) : Prop where
  found : s.node? item.child.id = some item.child
  plain : QName.isPlainText item.type.localName = true

theorem Item.Of.known {link : ChildLink} {item : Item} (h : item.Of s registry link) :
    item.Known s :=
  ⟨h.child.found, h.type.isPlainText⟩

/-- Filing an item stands in the way of those items only that share its type and name. An item with
the same child and type is among these. -/
theorem fits_fileOne {item other : Item} (hi : item.Known s) (ho : other.Known s) :
    (s.fileOne parent item).Fits parent other ↔ s.Fits parent other ∧ item.key ≠ other.key := by
  have hnew : item.association parent.id (s.issued.associations + 1) ∈
      (s.fileOne parent item).associations :=
    List.mem_append_right _ (List.mem_singleton_self _)
  constructor
  · intro h
    refine ⟨⟨h.named, h.apart, ?_, ?_⟩, ?_⟩
    · exact fun a ha => h.link a (List.mem_append_left _ ha)
    · exact fun a ha => h.name a (List.mem_append_left _ ha)
    · intro hkey
      obtain ⟨htype, hname⟩ := Prod.mk.inj hkey
      exact h.name _ hnew ⟨rfl, congrArg QName.fullForm htype, Node.linkText_inj.mpr hname⟩
  · rintro ⟨h, hkey⟩
    have hsameType (heq : item.type.fullForm = other.type.fullForm) : item.type = other.type :=
      QName.fullForm_inj hi.plain ho.plain heq
    refine ⟨h.named, h.apart, fun a ha => ?_, fun a ha => ?_⟩
    · rcases List.mem_append.mp ha with ha | ha
      · exact h.link a ha
      · rw [List.mem_singleton.mp ha]
        rintro ⟨-, hchild, htype⟩
        have hsame : item.child = other.child :=
          Option.some.inj (hi.found.symm.trans ((congrArg s.node? hchild).trans ho.found))
        exact hkey (Prod.ext (hsameType htype) (congrArg Node.shortName hsame))
    · rcases List.mem_append.mp ha with ha | ha
      · exact h.name a ha
      · rw [List.mem_singleton.mp ha]
        rintro ⟨-, htype, hname⟩
        exact hkey (Prod.ext (hsameType htype) (Node.linkText_inj.mp hname))

/-- Items can be filed together if the first can be filed, and then the others together. -/
theorem fileable_cons {item : Item} {rest : List Item} (hk : ∀ i ∈ item :: rest, i.Known s) :
    s.Fileable parent (item :: rest) ↔
      s.Fits parent item ∧ (s.fileOne parent item).Fileable parent rest := by
  have hfirst : item.Known s := hk item List.mem_cons_self
  have hrest : ∀ i ∈ rest, i.Known s := fun i hi => hk i (List.mem_cons_of_mem item hi)
  constructor
  · intro h
    obtain ⟨hnew, hdistinct⟩ := List.nodup_cons.mp h.distinct
    refine ⟨h.fits item List.mem_cons_self, fun i hi => ?_, hdistinct⟩
    refine (fits_fileOne hfirst (hrest i hi)).mpr ⟨h.fits i (List.mem_cons_of_mem item hi), ?_⟩
    intro heq
    exact hnew (heq ▸ List.mem_map_of_mem hi)
  · rintro ⟨hfits, h⟩
    have hothers (i : Item) (hi : i ∈ rest) := (fits_fileOne hfirst (hrest i hi)).mp (h.fits i hi)
    refine ⟨fun i hi => ?_, List.nodup_cons.mpr ⟨fun hmem => ?_, h.distinct⟩⟩
    · rcases List.mem_cons.mp hi with rfl | hi
      · exact hfits
      · exact (hothers i hi).1
    · obtain ⟨i, hi, heq⟩ := List.mem_map.mp hmem
      exact (hothers i hi).2 heq.symm

/-- Only the items count, not their order. -/
theorem fileable_perm {items items' : List Item} (hp : items.Perm items')
    (h : s.Fileable parent items) : s.Fileable parent items' :=
  ⟨fun i hi => h.fits i (hp.mem_iff.mpr hi), (hp.map Item.key).nodup_iff.mp h.distinct⟩

/-! ### Making the links -/

/-- A link becomes an association just if its item fits. -/
theorem newLink_ok_iff {link : ChildLink} {type : QName} {a : Association}
    (hp : s.HasNode parent.id) :
    newLink s parent link type = .ok a ↔ ∃ child, s.Names link.childId child ∧
      s.Fits parent ⟨child, type⟩ ∧
      a = Item.association ⟨child, type⟩ parent.id (s.issued.associations + 1) := by
  constructor
  · intro h
    obtain ⟨haccepts, hbecame⟩ := newLink_ok hp h
    obtain ⟨child, hchild, hchildId, name, hname, hnameEq⟩ := hbecame.child
    have hnamed : child.name ≠ "" := by
      intro hempty
      obtain ⟨e, he⟩ := linkName_of_noName hempty
      rw [hname] at he
      cases he
    obtain ⟨name', hname', hfull⟩ := linkName_of_name hnamed
    cases hname.symm.trans hname'
    have ha : a = Item.association ⟨child, type⟩ parent.id (s.issued.associations + 1) := by
      calc a = ⟨a.id, a.parent, a.child, a.type, a.name, a.isPrimary⟩ := rfl
        _ = _ := by
          rw [haccepts.id_eq, hbecame.parent_eq, hchildId, hbecame.type_eq, hnameEq, hfull,
            hbecame.secondary]
          rfl
    rw [ha] at haccepts
    exact ⟨child, resolve_ok_iff.mp hchild,
      ⟨hnamed, haccepts.apart, haccepts.link, haccepts.name⟩, ha⟩
  · rintro ⟨child, hchild, hfits, rfl⟩
    obtain ⟨name, hname, hfull⟩ := linkName_of_name hfits.named
    have hlink : ¬s.hasAssociation parent.id child.id type.fullForm := by
      intro h
      obtain ⟨b, hb, hedge⟩ := hasAssociation_iff.mp h
      exact hfits.link b hb hedge
    have htaken : ¬s.hasChildName parent.id type.fullForm child.linkText := by
      intro h
      obtain ⟨b, hb, hedge⟩ := hasChildName_iff.mp h
      exact hfits.name b hb hedge
    simp only [newLink, resolve_ok_iff.mpr hchild, hname, hfull, if_neg hfits.apart, if_neg hlink,
      if_neg htaken]
    rfl

/-- A batch succeeds just if its first link has a child that fits, and the others succeed once it is
filed. -/
theorem run_createEach_cons_ok_iff {link : ChildLink} {type : QName}
    {rest : List (ChildLink × QName)} {made : List ChildLink} (hp : s.HasNode parent.id) :
    (createEach parent ((link, type) :: rest)).run s = .ok made t ↔
      ∃ child later, s.Names link.childId child ∧ s.Fits parent ⟨child, type⟩ ∧
        (createEach parent rest).run (s.fileOne parent ⟨child, type⟩) = .ok later t ∧
        made = link :: later := by
  rw [run_createEach_cons, run_createOne_eq link type hp]
  constructor
  · intro h
    cases hnew : newLink s parent link type with
    | error e => rw [hnew] at h; cases h
    | ok a =>
      obtain ⟨child, hchild, hfits, rfl⟩ := (newLink_ok_iff hp).mp hnew
      rw [hnew] at h
      simp only at h
      rw [← fileOne] at h
      cases hrest : (createEach parent rest).run (s.fileOne parent ⟨child, type⟩) with
      | error e u => rw [hrest] at h; cases h
      | ok later u =>
        rw [hrest] at h
        cases h
        exact ⟨child, later, hchild, hfits, hrest, rfl⟩
  · rintro ⟨child, later, hchild, hfits, hrest, rfl⟩
    rw [(newLink_ok_iff hp).mpr ⟨child, hchild, hfits, rfl⟩]
    simp only
    rw [← fileOne, hrest]

/-- A link, with its type read, comes to an item. -/
def Makes (s : Store) (pair : ChildLink × QName) (item : Item) : Prop :=
  s.Names pair.1.childId item.child ∧ item.type = pair.2

/-- What was found link by link, told of the rows before the first of them. -/
theorem run_createEach_ok_iff {pairs : List (ChildLink × QName)} (hp : s.HasNode parent.id)
    (hplain : ∀ pair ∈ pairs, QName.isPlainText pair.2.localName = true)
    {made : List ChildLink} :
    (createEach parent pairs).run s = .ok made t ↔
      ∃ items, List.Forall₂ (Makes s) pairs items ∧ s.Fileable parent items ∧
        made = pairs.map Prod.fst ∧ t = s.fileAll parent items := by
  induction pairs generalizing s t made with
  | nil =>
    constructor
    · intro h
      cases h
      exact ⟨[], .nil, ⟨nofun, .nil⟩, rfl, (fileAll_nil _ parent).symm⟩
    · rintro ⟨items, hall, -, rfl, rfl⟩
      cases hall
      rw [fileAll_nil]
      rfl
  | cons pair rest ih =>
    obtain ⟨link, type⟩ := pair
    have hplain' : ∀ pair ∈ rest, QName.isPlainText pair.2.localName = true :=
      fun pair hpair => hplain pair (List.mem_cons_of_mem _ hpair)
    have hknown {items : List Item}
        (hall : List.Forall₂ (Makes s) ((link, type) :: rest) items) : ∀ i ∈ items, i.Known s := by
      intro i hi
      obtain ⟨pair, hpair, hchild, htype⟩ := forall₂_of_mem_right hall hi
      exact ⟨hchild.found, htype ▸ hplain pair hpair⟩
    rw [run_createEach_cons_ok_iff hp]
    constructor
    · rintro ⟨child, later, hchild, hfits, hrest, rfl⟩
      obtain ⟨items, hall, hf, rfl, rfl⟩ :=
        (ih (s := s.fileOne parent ⟨child, type⟩) hp hplain').mp hrest
      have hall' : List.Forall₂ (Makes s) ((link, type) :: rest) (⟨child, type⟩ :: items) :=
        .cons ⟨hchild, rfl⟩ (hall.imp fun _ _ h => ⟨names_fileOne.mp h.1, h.2⟩)
      exact ⟨_, hall', (fileable_cons (hknown hall')).mpr ⟨hfits, hf⟩, rfl,
        (fileAll_cons ..).symm⟩
    · rintro ⟨items, hall, hf, rfl, rfl⟩
      have hk := hknown hall
      cases hall with
      | @cons _ item _ items hmakes hall =>
        obtain ⟨child, type⟩ := item
        obtain ⟨hchild, htype⟩ := hmakes
        cases htype
        obtain ⟨hfits, hrest⟩ := (fileable_cons hk).mp hf
        refine ⟨child, rest.map Prod.fst, hchild, hfits, ?_, rfl⟩
        rw [fileAll_cons]
        exact (ih (s := s.fileOne parent ⟨child, type⟩) hp hplain').mpr
          ⟨items, hall.imp fun _ _ h => ⟨names_fileOne.mpr h.1, h.2⟩, hrest, rfl, rfl⟩

theorem forall₂_makes {links : List ChildLink} {types : List QName} {items : List Item}
    (htypes : List.Forall₂ (fun link type => NamesType registry link.assocType type) links types)
    (hmakes : List.Forall₂ (Makes s) (links.zip types) items) :
    List.Forall₂ (fun link item => item.Of s registry link) links items := by
  induction htypes generalizing items with
  | nil =>
    cases hmakes
    exact .nil
  | cons htype _ ih =>
    cases hmakes with
    | cons hmake hmakes => exact .cons ⟨hmake.1, hmake.2 ▸ htype⟩ (ih hmakes)

theorem forall₂_of {links : List ChildLink} {items : List Item}
    (h : List.Forall₂ (fun link item => item.Of s registry link) links items) :
    List.Forall₂ (fun link type => NamesType registry link.assocType type) links
        (items.map Item.type) ∧
      List.Forall₂ (Makes s) (links.zip (items.map Item.type)) items := by
  induction h with
  | nil => exact ⟨.nil, .nil⟩
  | cons hof _ ih => exact ⟨.cons hof.type ih.1, .cons ⟨hof.child, rfl⟩ ih.2⟩

/-- A batch succeeds just if its texts name a parent and items that can be filed there together; the
answer are the links as they were given, and the rows those with the items filed. -/
theorem run_create_ok_iff {parentId : String} {links made : List ChildLink} :
    (create registry parentId links).run s = .ok made t ↔
      ∃ parent items, s.Names parentId parent ∧
        List.Forall₂ (fun link item => item.Of s registry link) links items ∧
        s.Fileable parent items ∧ made = links ∧ t = s.fileAll parent items := by
  have htypes {types : List QName} :
      (links.mapM fun link => requiredType registry link.assocType) = .ok types ↔
        List.Forall₂ (fun link type => NamesType registry link.assocType type) links types := by
    simp only [mapM_ok_iff, requiredType_ok_iff]
  have hplain {types : List QName}
      (h : List.Forall₂ (fun link type => NamesType registry link.assocType type) links types) :
      ∀ pair ∈ links.zip types, QName.isPlainText pair.2.localName = true :=
    fun _ hpair => ((List.forall₂_iff_zip.mp h).2 hpair).isPlainText
  rw [run_create]
  constructor
  · intro h
    cases hp : s.resolve (some parentId) with
    | error e => rw [hp] at h; cases h
    | ok parent =>
      rw [hp] at h
      simp only at h
      cases ht : links.mapM fun link => requiredType registry link.assocType with
      | error e => rw [ht] at h; cases h
      | ok types =>
        rw [ht] at h
        have hall := htypes.mp ht
        obtain ⟨items, hmakes, hf, rfl, rfl⟩ :=
          (run_createEach_ok_iff (hasNode_of_mem (resolve_ok hp).1) (hplain hall)).mp h
        exact ⟨parent, items, resolve_ok_iff.mp hp, forall₂_makes hall hmakes, hf,
          List.map_fst_zip (Nat.le_of_eq hall.length_eq), rfl⟩
  · rintro ⟨parent, items, hp, hall, hf, rfl, rfl⟩
    obtain ⟨hnames, hmakes⟩ := forall₂_of hall
    rw [resolve_ok_iff.mpr hp]
    simp only [htypes.mpr hnames]
    refine (run_createEach_ok_iff (hasNode_of_mem (node?_eq_some hp.found).1) (hplain hnames)).mpr
      ⟨items, hmakes, hf, (List.map_fst_zip (Nat.le_of_eq hnames.length_eq)).symm, rfl⟩

/-- The edges that items add. -/
theorem edges_fileAll (s : Store) (parent : Node) (items : List Item) :
    ∃ new, (s.fileAll parent items).associations = s.associations ++ new ∧
      new.map (·.edge) = items.map fun item => (item.association parent.id 0).edge := by
  refine ⟨_, rfl, List.ext_getElem (by simp) fun i _ _ => ?_⟩
  -- an edge does not tell the number of its association
  simp only [List.getElem_map, List.getElem_mapIdx]
  rfl

/-- Creating in closed form. A batch succeeds just if its texts name a parent and items that can be
filed there together; it then adds one secondary association per item, last and in their order, and
answers with the links as they were given. The alias of the root is no name of a parent. Given in
another order, the same links succeed as well and add the same edges. -/
theorem create_closed (s : Store) (registry : Registry) (parentId : String)
    (links : List ChildLink) :
    (∀ made t, (create registry parentId links).run s = .ok made t ↔
      ∃ parent items, s.Names parentId parent ∧
        List.Forall₂ (fun link item => item.Of s registry link) links items ∧
        s.Fileable parent items ∧ made = links ∧ t = s.fileAll parent items) ∧
    (∀ n, ¬s.Names rootAlias n) ∧
    ∀ links' made t, links.Perm links' → (create registry parentId links).run s = .ok made t →
      ∃ t' new new', (create registry parentId links').run s = .ok links' t' ∧
        t.associations = s.associations ++ new ∧ t'.associations = s.associations ++ new' ∧
        (new.map (·.edge)).Perm (new'.map (·.edge)) := by
  refine ⟨fun made t => run_create_ok_iff, fun n => not_names_rootAlias,
    fun links' made t hperm h => ?_⟩
  obtain ⟨parent, items, hp, hall, hf, rfl, rfl⟩ := run_create_ok_iff.mp h
  obtain ⟨items', hall', hitems⟩ := List.perm_comp_forall₂ hperm.symm hall
  obtain ⟨new, hnew, hedges⟩ := edges_fileAll s parent items
  obtain ⟨new', hnew', hedges'⟩ := edges_fileAll s parent items'
  refine ⟨s.fileAll parent items', new, new', run_create_ok_iff.mpr ⟨parent, items', hp, hall',
    fileable_perm hitems.symm hf, rfl, rfl⟩, hnew, hnew', ?_⟩
  rw [hedges, hedges']
  exact hitems.symm.map _

/-- Two documents, filed in either order. -/
theorem create_closed_twoDocuments :
    ∃ t t' new new',
      (create plainRegistry (Uuid.ofNode 2).text [linkTo 3, linkTo 4]).run twoDocuments.current =
        .ok [linkTo 3, linkTo 4] t ∧
      (create plainRegistry (Uuid.ofNode 2).text [linkTo 4, linkTo 3]).run twoDocuments.current =
        .ok [linkTo 4, linkTo 3] t' ∧
      t.associations = twoDocuments.current.associations ++ new ∧ new.length = 2 ∧
      t'.associations = twoDocuments.current.associations ++ new' ∧
      (new.map (·.edge)).Perm (new'.map (·.edge)) := by
  obtain ⟨hiff, -, hperm⟩ := create_closed twoDocuments.current plainRegistry
    (Uuid.ofNode 2).text [linkTo 3, linkTo 4]
  have hok : (create plainRegistry (Uuid.ofNode 2).text [linkTo 3, linkTo 4]).succeeds
      twoDocuments.current = true := by decide +kernel
  obtain ⟨made, hrun⟩ := run_of_succeeds hok
  obtain ⟨parent, items, -, hall, -, rfl, ht⟩ := (hiff made _).mp hrun
  obtain ⟨t', new, new', hrun', hnew, hnew', hedges⟩ :=
    hperm [linkTo 4, linkTo 3] _ _ (.swap ..) hrun
  refine ⟨_, t', new, new', hrun, hrun', hnew, ?_, hnew', hedges⟩
  have hlength := congrArg (fun s => s.associations.length) ht
  simp only [hnew, fileAll, List.length_append, List.length_mapIdx, ← hall.length_eq] at hlength
  exact Nat.add_left_cancel hlength

end Filing

end Multifiling
