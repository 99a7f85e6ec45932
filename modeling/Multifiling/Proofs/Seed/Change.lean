import Multifiling.Proofs.Entries
import Multifiling.Proofs.Operation.Counts
import Multifiling.Seed.CommandLine

/-!
The changes that the sample content makes. A command that succeeds leaves every node in its place
under a root (`operation_ok`); whether or not it succeeds, it never takes back an insert count
(`operation_counts`).
-/

namespace Multifiling.Seed
open Store Operation

variable {s t : Store}

/-! ### Commands that succeed -/

theorem owner_ok {result : User × String} (h : owner.run s = .ok result t) :
    Changes Kind.tidy s t := by
  rw [owner] at h
  obtain ⟨_, -, h⟩ := read_bind_ok h
  rw [run_get_bind] at h
  split at h
  · cases h
    exact .refl s
  · obtain ⟨u, m, hu, h⟩ := bind_ok h
    cases h
    have hc := insertUser_after
      { username := some username, firstName := some "Administrator"
        email := some "admin@localhost" } s
    rw [after_of_ok hu] at hc
    exact hc.mono (by decide)

/-- Documents come under their folder, and are there afterwards. -/
theorem createDocuments_ok {user : User} {folder : Node} {names : List String}
    {documents : List (String × Node)} (hs : s.Sound) (hf : s.HasNode folder.id)
    (h : (createDocuments user folder names).run s = .ok documents t) :
    Changes [.root, .child] s t ∧ ∀ d ∈ documents, d.2 ∈ t.nodes := by
  induction names generalizing s documents with
  | nil => cases h; exact ⟨.refl _, nofun⟩
  | cons name rest ih =>
    rw [createDocuments] at h
    obtain ⟨document, m, hd, h⟩ := bind_ok h
    obtain ⟨later, m', hl, h⟩ := bind_ok h
    cases h
    obtain ⟨hc, hmem⟩ := createNode_ok hs (by simpa using hf) hd
    obtain ⟨hc', hmem'⟩ := ih (hc.sound hs) (hc.hasNode (by decide) hf) hl
    refine ⟨hc.trans hc', fun d hd => ?_⟩
    rcases List.mem_cons.mp hd with rfl | hd
    · exact hc'.mem_nodes (by decide) hmem
    · exact hmem' d hd

/-- Folders come under the root, each followed by its documents, and all are there afterwards. -/
theorem createFolders_ok {user : User} {root : Node} {folders : List (String × List String)}
    {made : List (String × Node) × List (String × Node)} (hs : s.Sound) (hr : s.HasNode root.id)
    (h : (createFolders user root folders).run s = .ok made t) :
    Changes [.root, .child] s t ∧ (∀ f ∈ made.1, f.2 ∈ t.nodes) ∧ ∀ d ∈ made.2, d.2 ∈ t.nodes := by
  induction folders generalizing s made with
  | nil => cases h; exact ⟨.refl _, nofun, nofun⟩
  | cons entry rest ih =>
    obtain ⟨name, documentNames⟩ := entry
    rw [createFolders] at h
    obtain ⟨folder, s₁, hfolder, h⟩ := bind_ok h
    obtain ⟨documents, s₂, hdocuments, h⟩ := bind_ok h
    obtain ⟨⟨laterFolders, laterDocuments⟩, s₃, hlater, h⟩ := bind_ok h
    cases h
    obtain ⟨hc₁, hmem⟩ := createNode_ok hs (by simpa using hr) hfolder
    obtain ⟨hc₂, hd⟩ := createDocuments_ok (hc₁.sound hs) (hasNode_of_mem hmem) hdocuments
    -- the root is still there for the folders that follow
    have hc := hc₁.trans hc₂
    obtain ⟨hc₃, hf', hd'⟩ := ih (hc.sound hs) (hc.hasNode (by decide) hr) hlater
    refine ⟨hc.trans hc₃, fun f hf => ?_, fun d hmem' => ?_⟩
    · rcases List.mem_cons.mp hf with rfl | hf
      · exact (hc₂.trans hc₃).mem_nodes (by decide) hmem
      · exact hf' f hf
    · rcases List.mem_append.mp hmem' with hmem' | hmem'
      · exact hc₃.mem_nodes (by decide) (hd d hmem')
      · exact hd' d hmem'

theorem mem_of_entryOf {name : String} {n : Node} {entries : Entries String Node}
    (h : entryOf entries name = .ok n) : (name, n) ∈ entries := by
  rw [entryOf] at h
  split at h
  · next hfound =>
    cases h
    exact Entries.mem_of_get? hfound
  · cases h

/-- Documents are filed under folders by secondary associations. -/
theorem fileDocuments_ok {folders documents : Entries String Node}
    {filings : List (String × String)} (hf : ∀ f ∈ folders, f.2 ∈ s.nodes)
    (hd : ∀ d ∈ documents, d.2 ∈ s.nodes)
    (h : (fileDocuments folders documents filings).run s = .ok () t) :
    Changes [.link] s t := by
  induction filings generalizing s with
  | nil => cases h; exact .refl _
  | cons filing rest ih =>
    obtain ⟨documentName, folderName⟩ := filing
    rw [fileDocuments] at h
    obtain ⟨document, hdocument, h⟩ := read_bind_ok h
    obtain ⟨folder, hfolder, h⟩ := read_bind_ok h
    split at h
    · cases h
    · next name hname =>
      obtain ⟨a, m, ha, h⟩ := bind_ok h
      have hdoc := hasNode_of_mem (hd _ (mem_of_entryOf hdocument))
      have hfol := hasNode_of_mem (hf _ (mem_of_entryOf hfolder))
      rcases addChild_secondary ContentModel.contains name ⟨true, true⟩ hfol hdoc with
        ⟨e, he, -⟩ | ⟨a, ha', hc⟩
      · rw [ha] at he; cases he
      · rw [ha] at ha'
        cases ha'
        exact Changes.trans (.single hc (by decide)) (ih hf hd h)

/-- What is so of all pairs is so of those that count. -/
theorem mem_putAll_nil {pairs : List (String × Node)} {p : String × Node → Prop}
    (h : ∀ pair ∈ pairs, p pair) : ∀ entry ∈ Entries.putAll [] pairs, p entry :=
  fun entry hentry => h entry ((Entries.mem_putAll hentry).resolve_left List.not_mem_nil)

theorem createTree_ok {user : User} {lines : List String} (hs : s.Sound)
    (h : (createTree user).run s = .ok lines t) : Changes Kind.tidy s t := by
  rw [createTree] at h
  obtain ⟨root, s₁, hroot, h⟩ := bind_ok h
  obtain ⟨⟨folderNodes, documentNodes⟩, s₂, hfolders, h⟩ := bind_ok h
  obtain ⟨_, s₃, hfilings, h⟩ := bind_ok h
  cases h
  obtain ⟨hc₁, hmem⟩ := createNode_ok hs (by simp) hroot
  obtain ⟨hc₂, hf, hd⟩ := createFolders_ok (hc₁.sound hs) (hasNode_of_mem hmem) hfolders
  have hc₃ := fileDocuments_ok (mem_putAll_nil hf) (mem_putAll_nil hd) hfilings
  exact ((hc₁.trans hc₂).mono (by decide)).trans (hc₃.mono (by decide))

theorem clear_ok {lines : List String} (h : clear.run s = .ok lines t) :
    Changes Kind.tidy s t := by
  rw [clear] at h
  obtain ⟨_, -, h⟩ := read_bind_ok h
  cases h
  exact .single .clear (by decide)

/-- The steps that follow when the content is created: the owner, then the tree. -/
def sow (cleared : List String) : Operation (List String) := do
  let (user, ownerLine) ← owner
  let tree ← createTree user
  return cleared ++ ["Populating seed data...", ownerLine] ++ tree ++
    ["Seed data created successfully."]

theorem populate_eq (force : Bool) :
    populate force =
      (Operation.read Store.queried >>= fun _ => get >>= fun s =>
        if s.root?.isSome && !force then
          pure ["Node tree already exists. Use --force to clear and re-seed."]
        else if s.root?.isSome then
          clear >>= fun lines =>
            sow ("Existing data found, clearing first (--force)..." :: lines)
        else sow []) := by
  simp only [populate, bind_map_left, pure_bind]
  rfl

theorem sow_ok {cleared lines : List String} (hs : s.Sound)
    (h : (sow cleared).run s = .ok lines t) : Changes Kind.tidy s t := by
  obtain ⟨⟨user, line⟩, m, hm, h⟩ := bind_ok h
  obtain ⟨tree, u, hu, h⟩ := bind_ok h
  cases h
  have hc := owner_ok hm
  exact hc.trans (createTree_ok (hc.sound hs) hu)

theorem populate_ok {force : Bool} {lines : List String} (hs : s.Sound)
    (h : (populate force).run s = .ok lines t) : Changes Kind.tidy s t := by
  rw [populate_eq] at h
  obtain ⟨_, -, h⟩ := read_bind_ok h
  rw [run_get_bind] at h
  split at h
  · cases h
    exact .refl _
  · split at h
    · obtain ⟨removed, m, hm, h⟩ := bind_ok h
      have hc := clear_ok hm
      exact hc.trans (sow_ok (hc.sound hs) h)
    · exact sow_ok hs h

/-- A command that succeeds leaves every node in its place. -/
theorem operation_ok {command : Command} {lines : List String} (hs : s.Sound)
    (h : command.operation.run s = .ok lines t) : Changes Kind.tidy s t := by
  cases command with
  | populate force => exact populate_ok hs h
  | clear => exact clear_ok h

/-! ### Insert counts -/

theorem owner_counts : Counts owner := by
  unfold owner
  refine .bind (.read _) fun _ => .bind .get fun s => ?_
  split
  · exact .pure _
  · exact .bind (insertUser_counts _) fun _ => .pure _

theorem createDocuments_counts (user : User) (folder : Node) (names : List String) :
    Counts (createDocuments user folder names) := by
  induction names with
  | nil => exact .pure _
  | cons name rest ih =>
    exact .bind (createNode_counts _ _ _) fun _ => .bind ih fun _ => .pure _

theorem createFolders_counts (user : User) (root : Node) (folders : List (String × List String)) :
    Counts (createFolders user root folders) := by
  induction folders with
  | nil => exact .pure _
  | cons entry rest ih =>
    exact .bind (createNode_counts _ _ _) fun _ => .bind (createDocuments_counts _ _ _) fun _ =>
      .bind ih fun _ => .pure _

theorem fileDocuments_counts (folders documents : Entries String Node)
    (filings : List (String × String)) : Counts (fileDocuments folders documents filings) := by
  induction filings with
  | nil => exact .pure _
  | cons filing rest ih =>
    obtain ⟨documentName, folderName⟩ := filing
    rw [fileDocuments]
    refine .bind (.read _) fun document => .bind (.read _) fun folder => ?_
    split
    · exact .bind (.fail _) fun _ => ih
    · exact .bind (addChild_counts _ _ _ _ _ _) fun _ => ih

theorem createTree_counts (user : User) : Counts (createTree user) :=
  .bind (createNode_counts _ _ _) fun _ => .bind (createFolders_counts _ _ _) fun _ =>
    .bind (fileDocuments_counts _ _ _) fun _ => .pure _

theorem clear_counts : Counts clear :=
  .bind (.read _) fun _ => fun s => s.issued.le_refl

theorem sow_counts (cleared : List String) : Counts (sow cleared) :=
  .bind owner_counts fun _ => .bind (createTree_counts _) fun _ => .pure _

theorem populate_counts (force : Bool) : Counts (populate force) := by
  rw [populate_eq]
  refine .bind (.read _) fun _ => .bind .get fun s => ?_
  split
  · exact .pure _
  · split
    · exact .bind clear_counts fun _ => sow_counts _
    · exact sow_counts _

theorem operation_counts (command : Command) : Counts command.operation := by
  cases command with
  | populate force => exact populate_counts force
  | clear => exact clear_counts

end Multifiling.Seed
