import Mathlib
import Multifiling.Proofs.Api.Served
import Multifiling.Proofs.Json
import Multifiling.Proofs.Seed.Move

/-!
Populating is canonical. Whatever a database in service held, populating it by force leaves one copy
of the sample content, and nothing else but its users (`populate_canonical`). A store with nodes has
a root, so that old content is always cleared, and what is created on cleared rows is the content as
it is created on empty ones, under other identifiers.
-/

namespace Multifiling

/-! ### Shapes -/

/-- A node without identifiers. -/
structure NodeShape where
  name : String
  type : String
  properties : Entries String Json
  isRoot : Bool
  deriving DecidableEq

/-- An association with the names of its ends instead of identifiers. -/
structure EdgeShape where
  parent : Option String
  child : Option String
  type : String
  name : String
  isPrimary : Bool
  deriving DecidableEq

/-- Nodes and associations as they are without identifiers, in their order. -/
structure Shape where
  nodes : List NodeShape
  edges : List EdgeShape
  deriving DecidableEq

def Node.shape (n : Node) : NodeShape := ⟨n.name, n.type, n.properties, n.isRoot⟩

namespace Store

def edgeShape (s : Store) (a : Association) : EdgeShape where
  parent := (s.node? a.parent).map (·.name)
  child := (s.node? a.child).map (·.name)
  type := a.type
  name := a.name
  isPrimary := a.isPrimary

def shape (s : Store) : Shape := ⟨s.nodes.map Node.shape, s.associations.map s.edgeShape⟩

end Store

theorem Move.shape_store (m : Move) (s : Store) : (m.store s).shape = s.shape := by
  have hnode (i : Uuid) :
      ((m.store s).node? (m.id i)).map (·.name) = (s.node? i).map (·.name) := by
    rw [m.node?_store, Option.map_map]
    rfl
  have hedge (a : Association) : (m.store s).edgeShape (m.association a) = s.edgeShape a := by
    simp only [Store.edgeShape, m.association_parent, m.association_child, hnode]
    rfl
  simp only [Store.shape, m.nodes_store, m.associations_store, List.map_map, Function.comp_def,
    hedge]
  rfl

namespace Seed
open Store Operation

variable {s t c : Store} {user : User}

/-! ### The sample content -/

/-- An edge of the content: all of them contain their child, under its own name. -/
def sampleEdge (isPrimary : Bool) (parent child : String) : EdgeShape where
  parent := some parent
  child := some child
  type := ContentModel.contains.fullForm
  name := "\x7b" ++ ContentModel.contentUri ++ "\x7d" ++ child
  isPrimary := isPrimary

/-- The content: a root, the folders in it, each followed by its documents with their titles, and
the documents that are filed under a second folder. -/
def sample : Shape where
  nodes :=
    ⟨"Company Home", ContentModel.folder.fullForm, [], true⟩ ::
      folders.flatMap fun (folder, documents) =>
        ⟨folder, ContentModel.folder.fullForm, [], false⟩ ::
          documents.map fun document =>
            ⟨document, ContentModel.content.fullForm, [("title", .string (title document))], false⟩
  edges :=
    (folders.flatMap fun (folder, documents) =>
      sampleEdge true "Company Home" folder :: documents.map (sampleEdge true folder)) ++
    filings.map fun (document, folder) => sampleEdge false folder document

/-- The names tell the nodes apart, so that the edges are told by them. -/
example : (sample.nodes.map (·.name)).Nodup := by decide

/-- The rows hold one copy of the content, and nothing else: all of it belongs to one user. -/
structure OneCopy (t : Store) (owner : User) : Prop where
  shape : t.shape = sample
  distinct : (t.nodes.map (·.id)).Nodup
  owned : ∀ n ∈ t.nodes, n.createdBy = some owner.id ∧ n.modifiedBy = some owner.id

/-! ### Creating the content -/

/-- The first user of a database that is populated. -/
def firstOwner : User :=
  ⟨.ofUser 1, username, some "Administrator", none, some "admin@localhost"⟩

/-- A database that has had this user, and no nodes yet. -/
def ground : Store := { users := [firstOwner], issued := { users := 1 } }

/-- The content as it is first created. -/
def grown : Store := (createTree firstOwner).after ground

theorem grown_shape : grown.shape = sample := by decide +kernel

theorem grown_owned :
    ∀ n ∈ grown.nodes, n.createdBy.isSome = true ∧ n.modifiedBy.isSome = true := by
  decide +kernel

theorem createTree_ground :
    ∃ lines t, (createTree firstOwner).run ground = .ok lines t ∧ t.shape = sample ∧
      ∀ n ∈ t.nodes, n.createdBy.isSome = true ∧ n.modifiedBy.isSome = true := by
  have hok : (match (createTree firstOwner).run ground with
      | .ok _ _ => true
      | .error _ _ => false) = true := by decide +kernel
  cases hrun : (createTree firstOwner).run ground with
  | ok lines t =>
    have hgrown : grown = t := after_of_ok hrun
    exact ⟨lines, t, rfl, hgrown ▸ grown_shape, hgrown ▸ grown_owned⟩
  | error e t => rw [hrun] at hok; cases hok

/-- A store in service without nodes and associations. -/
structure Bare (c : Store) : Prop where
  nodes : c.nodes = []
  associations : c.associations = []
  hasTables : c.hasTables = true
  enforces : c.enforces = true

/-- On bare rows the content is created as it was first created, moved there. -/
theorem createTree_bare (h : Bare c) (hu : user ∈ c.users) :
    ∃ lines t, (createTree user).run c = .ok lines t ∧ t.shape = sample ∧ t.users = c.users ∧
      ∀ n ∈ t.nodes, n.createdBy = some user.id ∧ n.modifiedBy = some user.id := by
  obtain ⟨lines, t, hgrown, hshape, howned⟩ := createTree_ground
  let m : Move := ⟨c.issued.nodes, c.issued.associations, user, c.users, c.issued.users⟩
  have hground : m.store ground = c := by
    obtain ⟨users, nodes, associations, issued, hasTables, enforces⟩ := c
    obtain ⟨rfl, rfl, rfl, rfl⟩ := h
    simp [m, Move.store, ground]
  obtain ⟨lines', hrun⟩ := Moves.createTree (m := m) hu hgrown
  rw [hground] at hrun
  refine ⟨lines', m.store t, hrun, by rw [m.shape_store, hshape], rfl, ?_⟩
  intro n hn
  rw [m.nodes_store] at hn
  obtain ⟨k, hk, rfl⟩ := List.mem_map.mp hn
  obtain ⟨hc, hm⟩ := howned k hk
  obtain ⟨creator, hcreator⟩ := Option.isSome_iff_exists.mp hc
  obtain ⟨modifier, hmodifier⟩ := Option.isSome_iff_exists.mp hm
  simp [m, Move.node, hcreator, hmodifier]

/-! ### The owner -/

theorem run_queried_bind {α : Type} (h : s.hasTables = true) (f : Unit → Operation α) :
    (Operation.read Store.queried >>= f).run s = (f ()).run s := by
  have hqueried : s.queried = .ok () := if_pos h
  rw [run_read_bind, hqueried]

/-- The owner is the first user of its name. It was one of the users already, or has joined them. -/
structure Joins (before after : List User) (owner : User) : Prop where
  found : after.find? (·.username = username) = some owner
  others : after = before ∨ (∀ u ∈ before, u.username ≠ username) ∧ after = before ++ [owner]

namespace Joins

variable {before after : List User}

theorem mem (h : Joins before after user) : user ∈ after := List.mem_of_find?_eq_some h.found

theorem username_eq (h : Joins before after user) : user.username = username := by
  simpa using List.find?_some h.found

end Joins

theorem owner_bare (h : Bare c) :
    ∃ user line t, owner.run c = .ok (user, line) t ∧ Joins c.users t.users user ∧ Bare t := by
  rw [owner, run_queried_bind h.hasTables, run_get_bind]
  cases hfind : c.users.find? (·.username = username) with
  | some user => exact ⟨user, _, c, rfl, ⟨hfind, .inl rfl⟩, h⟩
  | none =>
    have hnone : ∀ u ∈ c.users, u.username ≠ username := by simpa using hfind
    have hadmits : c.admitsUsername username = true := by
      simpa [admitsUsername] using .inr hnone
    simp only
    rw [EStateM.run_bind, run_insertUser, if_pos h.hasTables]
    simp only [if_pos hadmits]
    refine ⟨_, _, _, rfl, ⟨?_, .inr ⟨hnone, rfl⟩⟩, h.nodes, h.associations, h.hasTables,
      h.enforces⟩
    rw [addUser, List.find?_append, hfind]
    rfl

theorem sow_bare (h : Bare c) (cleared : List String) :
    ∃ lines t user, (sow cleared).run c = .ok lines t ∧ Joins c.users t.users user ∧
      t.shape = sample ∧
      ∀ n ∈ t.nodes, n.createdBy = some user.id ∧ n.modifiedBy = some user.id := by
  obtain ⟨user, line, c', howner, hjoins, hc'⟩ := owner_bare h
  obtain ⟨lines, t, htree, hshape, husers, howned⟩ := createTree_bare hc' hjoins.mem
  rw [← husers] at hjoins
  refine ⟨cleared ++ ["Populating seed data...", line] ++ lines ++
    ["Seed data created successfully."], t, user, ?_, hjoins, hshape, howned⟩
  rw [sow, EStateM.run_bind, howner]
  simp only
  rw [EStateM.run_bind, htree]
  rfl

/-! ### Populating -/

theorem clear_run (h : s.hasTables = true) : ∃ lines, clear.run s = .ok lines s.clear := by
  rw [clear, run_queried_bind h]
  exact ⟨_, rfl⟩

theorem run_populate (h : s.hasTables = true) (force : Bool) :
    (populate force).run s =
      if s.root?.isSome && !force then
        .ok ["Node tree already exists. Use --force to clear and re-seed."] s
      else if s.root?.isSome then
        (clear >>= fun lines =>
          sow ("Existing data found, clearing first (--force)..." :: lines)).run s
      else (sow []).run s := by
  rw [populate_eq, run_queried_bind h, run_get_bind]
  split
  · rfl
  · split <;> rfl

/-- Whatever there was before, populating by force leaves one copy of the content. -/
theorem populate_forced (h : Api.Served s) :
    ∃ lines t user, (populate true).run s = .ok lines t ∧ OneCopy t user ∧
      Joins s.users t.users user := by
  have hrun := run_populate h.hasTables true
  rw [Bool.not_true, Bool.and_false, if_neg Bool.false_ne_true] at hrun
  obtain ⟨lines, t, user, hsown, hjoins, hshape, howned⟩ : ∃ lines t user,
      (populate true).run s = .ok lines t ∧ Joins s.users t.users user ∧ t.shape = sample ∧
        ∀ n ∈ t.nodes, n.createdBy = some user.id ∧ n.modifiedBy = some user.id := by
    rw [hrun]
    split
    · obtain ⟨lines, hclear⟩ := clear_run h.hasTables
      rw [EStateM.run_bind, hclear]
      exact sow_bare (c := s.clear) ⟨rfl, rfl, h.hasTables, h.enforces⟩ _
    · next hroot =>
      have hnodes : s.nodes = [] := by
        by_contra hne
        exact hroot ((h.forest.root?_isSome_iff h.sound).mpr hne)
      exact sow_bare ⟨hnodes, h.sound.constraints.associations_nil hnodes, h.hasTables,
        h.enforces⟩ _
  refine ⟨lines, t, user, hsown, ⟨hshape, ?_, howned⟩, hjoins⟩
  rw [List.nodup_iff_pairwise_ne, List.pairwise_map]
  refine (populate_ok h.sound hsown).sound h.sound |>.numbered.nodes.imp fun hlt heq => ?_
  rw [heq] at hlt
  exact Nat.lt_irrefl _ hlt

theorem populate_unforced (h : Api.Served s) (hnodes : s.nodes ≠ []) :
    (populate false).run s =
      .ok ["Node tree already exists. Use --force to clear and re-seed."] s := by
  rw [run_populate h.hasTables, (h.forest.root?_isSome_iff h.sound).mpr hnodes]
  rfl

/-- Without nodes there is nothing to clear, by force or not. -/
theorem populate_empty (h : Api.Served s) (hnodes : s.nodes = []) :
    (populate false).run s = (populate true).run s := by
  have hroot : s.root?.isSome = false := by
    rw [Bool.eq_false_iff]
    intro hroot
    exact (h.forest.root?_isSome_iff h.sound).mp hroot hnodes
  rw [run_populate h.hasTables, run_populate h.hasTables, hroot]
  rfl

theorem run_ok {words lines : List String} {command : Command} (program : String)
    (hread : CommandLine.read words = .run command)
    (hrun : command.operation.run s = .ok lines t) :
    run program words s = (.ok ⟨0, lines⟩, t) := by
  rw [run, hread]
  simp only [transact, hrun]
  rfl

theorem read_populate : CommandLine.read ["populate"] = .run (.populate false) := by
  decide +kernel

theorem read_populateForce :
    CommandLine.read ["populate", "--force"] = .run (.populate true) := by
  decide +kernel

/-- On a database in service, whatever it holds, `populate --force` succeeds and leaves one copy of
the content. The users stay, and the owner joins them if it is not there yet. Without force nothing
changes where there are nodes, and otherwise the same is done. Populating again changes nothing, and
by force it leaves one copy again. -/
theorem populate_canonical (program : String) (h : Api.Served s) :
    ∃ lines t owner, run program ["populate", "--force"] s = (.ok ⟨0, lines⟩, t) ∧
      OneCopy t owner ∧ Joins s.users t.users owner ∧
      (s.nodes ≠ [] → ∃ lines, run program ["populate"] s = (.ok ⟨0, lines⟩, s)) ∧
      (s.nodes = [] → run program ["populate"] s = (.ok ⟨0, lines⟩, t)) ∧
      (∃ lines, run program ["populate"] t = (.ok ⟨0, lines⟩, t)) ∧
      ∃ lines u, run program ["populate", "--force"] t = (.ok ⟨0, lines⟩, u) ∧
        OneCopy u owner ∧ u.users = t.users := by
  obtain ⟨lines, t, owner, hrun, hcopy, hjoins⟩ := populate_forced h
  have hserved : Api.Served t := by
    have hseed := h.seed (.populate true)
    have htransact : (Command.populate true).operation.transact s = (.ok lines, t) := by
      simp only [transact, Command.operation, hrun]
    rwa [htransact] at hseed
  have hnodes : t.nodes ≠ [] := by
    intro hnil
    have hshape := congrArg Shape.nodes hcopy.shape
    rw [shape, hnil] at hshape
    cases hshape
  obtain ⟨lines', u, owner', hrun', hcopy', hjoins'⟩ := populate_forced hserved
  have husers : u.users = t.users :=
    hjoins'.others.resolve_right fun h => h.1 owner hjoins.mem hjoins.username_eq
  -- the owner is found again
  have howner : owner' = owner := by
    have hfound := hjoins'.found
    rw [husers, hjoins.found] at hfound
    exact (Option.some.inj hfound).symm
  subst howner
  refine ⟨lines, t, owner', run_ok program read_populateForce hrun, hcopy, hjoins, fun hne => ?_,
    fun hnil => ?_, ?_, lines', u, run_ok program read_populateForce hrun', hcopy', husers⟩
  · exact ⟨_, run_ok program read_populate (populate_unforced h hne)⟩
  · exact run_ok program read_populate ((populate_empty h hnil).trans hrun)
  · exact ⟨_, run_ok program read_populate (populate_unforced hserved hnodes)⟩

/-- A folder with a document gives way to the content. -/
theorem populate_canonical_folderWithDocument :
    Api.Served folderWithDocument ∧ folderWithDocument.nodes.length = 2 ∧
      ∃ lines t owner,
        run "seed" ["populate", "--force"] folderWithDocument = (.ok ⟨0, lines⟩, t) ∧
          OneCopy t owner := by
  have h : Api.Served folderWithDocument := .work .empty _
  obtain ⟨lines, t, owner, hrun, hcopy, -⟩ := populate_canonical "seed" h
  exact ⟨h, by decide, lines, t, owner, hrun, hcopy⟩

end Seed

end Multifiling
