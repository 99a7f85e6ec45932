import Multifiling.Proofs.Filing.Link
import Multifiling.Proofs.Filing.Type
import Multifiling.Proofs.Traverse

/-!
The changes that filing makes. Creating links appends secondary associations, one for each link up
to the first that fails; deleting takes secondary associations away. Neither ever makes the database
undo the work of the session.
-/

namespace Multifiling.Filing
open Store Operation

variable {τ : Type} {s t : Store} {parent : Node}

/-! ### Creating links -/

/-- A link is made as the next secondary association, or fails without any change. -/
theorem createOne_cases (link : ChildLink τ) (type : QName) (hp : s.HasNode parent.id) :
    (∃ e, (createOne parent link type).run s = .error e s ∧ e.undoesWork = false) ∨
    ∃ a, (createOne parent link type).run s = .ok link (s.addAssociation a) ∧
      Change .link s (s.addAssociation a) ∧ Became s parent (link, type) a := by
  rw [run_createOne_eq link type hp]
  cases h : newLink s parent link type with
  | error e => exact .inl ⟨e, rfl, newLink_error h⟩
  | ok a =>
    obtain ⟨ha, hb⟩ := newLink_ok hp h
    exact .inr ⟨a, rfl, .link hb.secondary ha, hb⟩

theorem run_createEach_cons (link : ChildLink τ) (type : QName)
    (rest : List (ChildLink τ × QName)) (s : Store) :
    (createEach parent ((link, type) :: rest)).run s =
      match (createOne parent link type).run s with
      | .error e t => .error e t
      | .ok first t =>
        match (createEach parent rest).run t with
        | .error e u => .error e u
        | .ok later u => .ok (first :: later) u := by
  rw [createEach, EStateM.run_bind]
  cases (createOne parent link type).run s with
  | error e t => rfl
  | ok first t =>
    simp only [EStateM.run_bind]
    cases (createEach parent rest).run t <;> rfl

/-- A batch goes on from where its first part ends, or fails as that does. -/
theorem run_createEach_append (before after : List (ChildLink τ × QName)) (s : Store) :
    (createEach parent (before ++ after)).run s =
      match (createEach parent before).run s with
      | .error e t => .error e t
      | .ok links t =>
        match (createEach parent after).run t with
        | .error e u => .error e u
        | .ok later u => .ok (links ++ later) u := by
  induction before generalizing s with
  | nil =>
    simp only [List.nil_append, createEach, EStateM.run_pure]
    cases (createEach parent after).run s <;> rfl
  | cons item rest ih =>
    obtain ⟨link, type⟩ := item
    rw [List.cons_append, run_createEach_cons, run_createEach_cons]
    cases (createOne parent link type).run s with
    | error e t => rfl
    | ok first t =>
      simp only [ih]
      cases (createEach parent rest).run t with
      | error e u => rfl
      | ok links u =>
        simp only
        cases (createEach parent after).run u <;> rfl

/-- Links have become the last associations of a store. -/
def Appended (s t : Store) (parent : Node) (items : List (ChildLink τ × QName)) : Prop :=
  ∃ new, t.associations = s.associations ++ new ∧ List.Forall₂ (Became s parent) items new

namespace Appended

variable {items : List (ChildLink τ × QName)}

theorem nil (s : Store) (parent : Node) : Appended s s parent ([] : List (ChildLink τ × QName)) :=
  ⟨[], (List.append_nil _).symm, .nil⟩

theorem cons {item : ChildLink τ × QName} {a : Association} (ha : Became s parent item a)
    (h : Appended (s.addAssociation a) t parent items) : Appended s t parent (item :: items) := by
  obtain ⟨new, hnew, hall⟩ := h
  refine ⟨a :: new, ?_, .cons ha (hall.imp fun i b hb => ?_)⟩
  · rw [hnew]
    simp [addAssociation]
  · exact ⟨hb.parent_eq, hb.type_eq, hb.secondary, hb.child⟩

theorem length_eq (h : Appended s t parent items) :
    t.associations.length = s.associations.length + items.length := by
  obtain ⟨new, hnew, hall⟩ := h
  rw [hnew, List.length_append, hall.length_eq]

theorem mem (h : Appended s t parent items) {a : Association} (ha : a ∈ t.associations) :
    a ∈ s.associations ∨ ∃ item ∈ items, Became s parent item a := by
  obtain ⟨new, hnew, hall⟩ := h
  exact (List.mem_append.mp (hnew ▸ ha)).imp_right (forall₂_of_mem_right hall)

end Appended

/-- A batch makes links up to the first that fails; these stay. -/
theorem createEach_cases (items : List (ChildLink τ × QName)) (hp : s.HasNode parent.id) :
    (∃ e t, (createEach parent items).run s = .error e t ∧ e.undoesWork = false ∧
      Changes [.link] s t ∧ ∃ made, made <+: items ∧ Appended s t parent made) ∨
    ∃ t, (createEach parent items).run s = .ok (items.map Prod.fst) t ∧ Changes [.link] s t ∧
      Appended s t parent items := by
  induction items generalizing s with
  | nil => exact .inr ⟨s, rfl, .refl s, .nil s parent⟩
  | cons item rest ih =>
    obtain ⟨link, type⟩ := item
    rw [run_createEach_cons]
    rcases createOne_cases link type hp with ⟨e, h, he⟩ | ⟨a, h, hc, ha⟩
    · exact .inl ⟨e, s, by rw [h], he, .refl s, [], List.nil_prefix, .nil s parent⟩
    · rw [h]
      have hstep : Changes [.link] s (s.addAssociation a) := .single hc (by simp)
      rcases ih (s := s.addAssociation a) hp with ⟨e, t, h', he, ht, made, hmade, hadd⟩ |
        ⟨t, h', ht, hadd⟩
      · exact .inl ⟨e, t, by simp only [h'], he, hstep.trans ht, _,
          List.cons_prefix_cons.mpr ⟨rfl, hmade⟩, hadd.cons ha⟩
      · exact .inr ⟨t, by simp only [h', List.map_cons], hstep.trans ht, hadd.cons ha⟩

variable [TextForm τ]

theorem run_create (registry : Registry) (parentId : String) (links : List (ChildLink τ))
    (s : Store) :
    (create registry parentId links).run s =
      match s.resolve (some parentId) with
      | .error e => .error e s
      | .ok parent =>
        match links.mapM fun link => requiredType registry link.assocType with
        | .error e => .error e s
        | .ok types => (createEach parent (links.zip types)).run s := by
  rw [create, run_read_bind]
  cases s.resolve (some parentId) with
  | error e => rfl
  | ok parent =>
    simp only
    rw [run_read_bind]
    cases links.mapM fun link => requiredType registry link.assocType <;> rfl

/-- A batch of one link is that link, once parent and type are made out. -/
theorem run_create_single {registry : Registry} {parentId : String} {link : ChildLink τ}
    {type : QName} (hp : s.resolve (some parentId) = .ok parent)
    (ht : requiredType registry link.assocType = .ok type) :
    (create registry parentId [link]).run s =
      match newLink s parent link type with
      | .error e => .error e s
      | .ok a => .ok [link] (s.addAssociation a) := by
  have htypes : [link].mapM (fun link => requiredType registry link.assocType) = .ok [type] :=
    mapM_ok_iff.mpr (.cons ht .nil)
  rw [run_create, hp]
  simp only [htypes, List.zip_cons_cons, List.zip_nil_left, run_createEach_cons]
  rw [run_createOne_eq link type (hasNode_of_mem (resolve_ok hp).1)]
  cases newLink s parent link type <;> rfl

/-- Whether it succeeds or fails, filing only links. -/
theorem create_cases (registry : Registry) (parentId : String) (links : List (ChildLink τ))
    (s : Store) :
    ∃ t, Changes [.link] s t ∧
      ((∃ e, (create registry parentId links).run s = .error e t ∧ e.undoesWork = false) ∨
        ∃ made, (create registry parentId links).run s = .ok made t) := by
  rw [run_create]
  cases hr : s.resolve (some parentId) with
  | error e => exact ⟨s, .refl s, .inl ⟨e, rfl, resolve_error hr⟩⟩
  | ok parent =>
    simp only
    cases ht : links.mapM fun link => requiredType registry link.assocType with
    | error e =>
      obtain ⟨link, -, he⟩ := mapM_error ht
      exact ⟨s, .refl s, .inl ⟨e, rfl, requiredType_error he⟩⟩
    | ok types =>
      rcases createEach_cases (links.zip types) (hasNode_of_mem (resolve_ok hr).1) with
        ⟨e, t, h, he, hc, -⟩ | ⟨t, h, hc, -⟩
      · exact ⟨t, hc, .inl ⟨e, h, he⟩⟩
      · exact ⟨t, hc, .inr ⟨_, h⟩⟩

theorem create_after (registry : Registry) (parentId : String) (links : List (ChildLink τ))
    (s : Store) : Changes [.link] s ((create registry parentId links).after s) := by
  obtain ⟨t, hc, ⟨e, h, -⟩ | ⟨made, h⟩⟩ := create_cases registry parentId links s
  · rwa [after_of_error h]
  · rwa [after_of_ok h]

/-- The types of a batch are read one by one. -/
theorem requiredType_of_mem_zip {registry : Registry} {links : List (ChildLink τ)}
    {types : List QName}
    (h : (links.mapM fun link => requiredType registry link.assocType) = .ok types) :
    ∀ item ∈ links.zip types, requiredType registry item.1.assocType = .ok item.2 :=
  fun _ hitem => (List.forall₂_iff_zip.mp (mapM_ok_iff.mp h)).2 hitem

/-- A batch that succeeds has made the links that were given, and they are the last associations. -/
theorem create_ok {registry : Registry} {parentId : String} {links made : List (ChildLink τ)}
    (h : (create registry parentId links).run s = .ok made t) :
    ∃ parent types, s.resolve (some parentId) = .ok parent ∧
      (links.mapM fun link => requiredType registry link.assocType) = .ok types ∧
      links.length = types.length ∧ made = links ∧ Changes [.link] s t ∧
      Appended s t parent (links.zip types) := by
  rw [run_create] at h
  cases hp : s.resolve (some parentId) with
  | error e => rw [hp] at h; cases h
  | ok parent =>
    rw [hp] at h
    simp only at h
    cases ht : links.mapM fun link => requiredType registry link.assocType with
    | error e => rw [ht] at h; cases h
    | ok types =>
      rw [ht] at h
      simp only at h
      have hlength := (mapM_ok_iff.mp ht).length_eq
      refine ⟨parent, types, rfl, rfl, hlength, ?_⟩
      rcases createEach_cases (links.zip types) (hasNode_of_mem (resolve_ok hp).1) with
        ⟨e, u, h', -⟩ | ⟨u, h', hc, hadded⟩
      · rw [h] at h'; cases h'
      · rw [h] at h'
        cases h'
        exact ⟨List.map_fst_zip (Nat.le_of_eq hlength), hc, hadded⟩

/-- Whether it succeeds or fails, an association is an old one or has come from a link. -/
theorem mem_create {registry : Registry} {parentId : String} {links : List (ChildLink τ)}
    {a : Association} (ha : a ∈ ((create registry parentId links).after s).associations) :
    a ∈ s.associations ∨ ∃ (parent : Node) (item : ChildLink τ × QName),
      requiredType registry item.1.assocType = .ok item.2 ∧ Became s parent item a := by
  cases hp : s.resolve (some parentId) with
  | error e =>
    rw [after, run_create, hp] at ha
    exact .inl ha
  | ok parent =>
    cases htypes : links.mapM fun link => requiredType registry link.assocType with
    | error e =>
      rw [after, run_create, hp, htypes] at ha
      exact .inl ha
    | ok types =>
      obtain ⟨made, hmade, hadded⟩ : ∃ made, made ⊆ links.zip types ∧
          Appended s ((create registry parentId links).after s) parent made := by
        rw [after, run_create, hp]
        simp only [htypes]
        rcases createEach_cases (links.zip types) (hasNode_of_mem (resolve_ok hp).1) with
          ⟨e, t, h, -, -, made, hprefix, hadded⟩ | ⟨t, h, -, hadded⟩
        · rw [h]
          exact ⟨made, hprefix.subset, hadded⟩
        · rw [h]
          exact ⟨_, List.Subset.refl _, hadded⟩
      rcases hadded.mem ha with ha | ⟨item, hitem, hb⟩
      · exact .inl ha
      · exact .inr ⟨parent, item, requiredType_of_mem_zip htypes item (hmade hitem), hb⟩

/-! ### Deleting links -/

/-- Going through associations takes away some of the secondary ones, or fails as refused. -/
theorem deleteEach_cases (refused : Failure) (child : Uuid) (type : Option QName) (found : Bool)
    (associations : List Association) (s : Store) :
    ∃ t, Changes [.unlink] s t ∧
      ((deleteEach refused child type found associations).run s = .error refused t ∨
        ∃ b, (deleteEach refused child type found associations).run s = .ok b t) := by
  induction associations generalizing found s with
  | nil => exact ⟨s, .refl s, .inr ⟨found, rfl⟩⟩
  | cons a rest ih =>
    rw [deleteEach]
    split
    · exact ih found s
    · split
      · -- a primary association is refused if its type was asked for, otherwise it is passed over
        split
        · exact ⟨s, .refl s, .inl rfl⟩
        · exact ih found s
      · next hp =>
        rw [EStateM.run_bind, run_removeSecondary, if_neg hp]
        obtain ⟨t, hc, h⟩ := ih (found || _) (s.dropSecondary a.id)
        exact ⟨t, (dropSecondary_changes s a.id).trans hc, h⟩

theorem run_delete (registry : Registry) (parentId childId : String) (assocType : Option String)
    (s : Store) :
    (delete registry parentId childId assocType).run s =
      match s.resolve (some parentId), s.resolve (some childId),
        optionalType registry assocType with
      | .error e, _, _ => .error e s
      | .ok _, .error e, _ => .error e s
      | .ok _, .ok _, .error e => .error e s
      | .ok parent, .ok child, .ok type =>
        match (deleteEach (.badArgument (.deletesPrimary parentId (assocType.getD "") childId))
          child.id type false (s.children parent.id none)).run s with
        | .error e t => .error e t
        | .ok found t =>
          if found then .ok () t
          else .error (.associationNotFound parentId assocType childId) t := by
  rw [delete, run_read_bind]
  cases s.resolve (some parentId) with
  | error e => rfl
  | ok parent =>
    simp only
    rw [run_read_bind]
    cases s.resolve (some childId) with
    | error e => rfl
    | ok child =>
      simp only
      rw [run_read_bind]
      cases optionalType registry assocType with
      | error e => rfl
      | ok type =>
        simp only [EStateM.run_bind, EStateM.run_get]
        cases (deleteEach _ child.id type false (s.children parent.id none)).run s with
        | error e t => rfl
        | ok found t => cases found <;> rfl

/-- Whether it succeeds or fails, deleting only takes secondary associations away. -/
theorem delete_cases (registry : Registry) (parentId childId : String) (assocType : Option String)
    (s : Store) :
    ∃ t, Changes [.unlink] s t ∧
      ((∃ e, (delete registry parentId childId assocType).run s = .error e t ∧
          e.undoesWork = false) ∨
        (delete registry parentId childId assocType).run s = .ok () t) := by
  rw [run_delete]
  cases hp : s.resolve (some parentId) with
  | error e => exact ⟨s, .refl s, .inl ⟨e, rfl, resolve_error hp⟩⟩
  | ok parent =>
    cases hc : s.resolve (some childId) with
    | error e => exact ⟨s, .refl s, .inl ⟨e, rfl, resolve_error hc⟩⟩
    | ok child =>
      cases ht : optionalType registry assocType with
      | error e => exact ⟨s, .refl s, .inl ⟨e, rfl, optionalType_error ht⟩⟩
      | ok type =>
        simp only
        obtain ⟨t, hc, h | ⟨found, h⟩⟩ := deleteEach_cases
          (.badArgument (.deletesPrimary parentId (assocType.getD "") childId)) child.id type false
          (s.children parent.id none) s
        · exact ⟨t, hc, .inl ⟨_, by rw [h], rfl⟩⟩
        · rw [h]
          cases found with
          | true => exact ⟨t, hc, .inr rfl⟩
          | false => exact ⟨t, hc, .inl ⟨_, rfl, rfl⟩⟩

theorem delete_after (registry : Registry) (parentId childId : String) (assocType : Option String)
    (s : Store) : Changes [.unlink] s ((delete registry parentId childId assocType).after s) := by
  obtain ⟨t, hc, ⟨e, h, -⟩ | h⟩ := delete_cases registry parentId childId assocType s
  · rwa [after_of_error h]
  · rwa [after_of_ok h]

end Multifiling.Filing
