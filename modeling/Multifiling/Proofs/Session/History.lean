import Multifiling.Proofs.Seed.Change
import Multifiling.Proofs.Session.Call
import Multifiling.Proofs.Store.Forest

/-!
Committed rows: what a database holds after any number of units of work, which are rolled back if
anything in them fails. They are sound, and every node but a root has its one place in a forest.
-/

namespace Multifiling
open Store

variable {s : Store}

/-! ### Units of work -/

namespace Session

/-- A session after a call, and whether a call has failed by then. -/
def attempt (work : Session × Bool) (c : Call) : Session × Bool :=
  let outcome := work.1.run c.operation
  (outcome.session, work.2 || !outcome.result.isOk)

/-- The rows after a unit of work: committed if all its calls succeed, otherwise rolled back. -/
def workUnit (calls : List Call) (s : Store) : Store :=
  let (session, failed) := calls.foldl attempt (⟨s, s⟩, false)
  (if failed then session.rollback else session.commit).current

/-- A session that began on some rows: it is sound, and without a failure every node has kept its
place. -/
structure Begun (s : Store) (work : Session × Bool) : Prop where
  sound : work.1.Sound
  committed : work.1.committed = s
  tidy : work.2 = false → Changes Kind.tidy s work.1.current

theorem attempt_begun {work : Session × Bool} (h : Begun s work) (c : Call) :
    Begun s (attempt work c) where
  sound := call_sound h.sound c
  committed := (run_committed work.1 c.operation).trans h.committed
  tidy hok := by
    simp only [attempt, Bool.or_eq_false_iff, Bool.not_eq_false'] at hok
    obtain ⟨a, hr⟩ := run_ok hok.2
    have hc := c.orderly h.sound.current
    rw [hr] at hc
    exact (h.tidy hok.1).trans (Changes.mono hc (by decide))

theorem begun (hs : s.Sound) : Begun s (⟨s, s⟩, false) :=
  ⟨⟨hs, hs, s.issued.le_refl⟩, rfl, fun _ => .refl s⟩

theorem workUnit_changes (hs : s.Sound) (calls : List Call) :
    Changes Kind.tidy s (workUnit calls s) := by
  -- `Begun` tells nothing of the rows after a failure, since they will be rolled back
  have h : Begun s (calls.foldl attempt (⟨s, s⟩, false)) :=
    calls.foldlRecOn attempt (begun hs) fun _ h c _ => attempt_begun h c
  rw [workUnit]
  match hwork : calls.foldl attempt (⟨s, s⟩, false) with
  | (session, false) =>
    rw [hwork] at h
    exact h.tidy rfl
  | (session, true) =>
    rw [hwork] at h
    obtain ⟨hsound, rfl, -⟩ := h
    exact .single (.count _ hsound.issued_le) (by decide)

/-- A unit of work that only makes users and nodes makes no secondary association. -/
theorem workUnit_secondary (hs : s.Sound) {calls : List Call}
    (hcalls : ∀ c ∈ calls, c.creates = true) {a : Association}
    (ha : a ∈ (workUnit calls s).associations) (hp : a.isPrimary = false) :
    a ∈ s.associations := by
  have hkept : Begun s (calls.foldl attempt (⟨s, s⟩, false)) ∧
      (a ∈ (calls.foldl attempt (⟨s, s⟩, false)).1.current.associations → a ∈ s.associations) := by
    refine calls.foldlRecOn (motive := fun work => Begun s work ∧
      (a ∈ work.1.current.associations → a ∈ s.associations)) attempt ⟨begun hs, id⟩ ?_
    rintro work ⟨h, hwork⟩ c hc
    refine ⟨attempt_begun h c, fun ha => ?_⟩
    have hsession : (attempt work c).1 = (work.1.run c.operation).session := rfl
    rw [hsession] at ha
    rcases run_current work.1 c.operation with hcurrent | hcurrent
    · rw [hcurrent] at ha
      have hcreated := Call.after_creates (hcalls c hc) h.sound.current
      exact hwork (hcreated.mem_secondary (by decide) ha hp)
    · rw [hcurrent] at ha
      have hcommitted : a ∈ work.1.committed.associations := ha
      rwa [h.committed] at hcommitted
  obtain ⟨h, hcurrent⟩ := hkept
  rw [workUnit] at ha
  match hwork : calls.foldl attempt (⟨s, s⟩, false) with
  | (session, false) =>
    rw [hwork] at ha hcurrent
    exact hcurrent ha
  | (session, true) =>
    rw [hwork] at ha h
    exact h.committed ▸ ha

end Session

/-- A command for the sample content is a unit of work of its own. -/
theorem Seed.transact_changes (hs : s.Sound) (command : Seed.Command) :
    Changes Kind.tidy s (command.operation.transact s).2 := by
  have hcounts := operation_counts command s
  rw [Operation.after] at hcounts
  rw [Operation.transact]
  cases hr : command.operation.run s with
  | ok lines t => exact operation_ok hs hr
  | error e t =>
    rw [hr] at hcounts
    exact .single (.count _ hcounts) (by decide)

/-- The rows that a database can hold after units of work, from an empty one on. -/
inductive Committed : Store → Prop where
  | empty : Committed {}
  | work {s : Store} (h : Committed s) (calls : List Call) : Committed (Session.workUnit calls s)
  | seed {s : Store} (h : Committed s) (command : Seed.Command) :
    Committed (command.operation.transact s).2

namespace Committed

theorem sound (h : Committed s) : s.Sound := by
  induction h with
  | empty => exact .empty true
  | work _ calls ih => exact (Session.workUnit_changes ih calls).sound ih
  | seed _ command ih => exact (Seed.transact_changes ih command).sound ih

theorem forest (h : Committed s) : s.Forest := by
  induction h with
  | empty => exact .empty true
  | work h calls ih => exact (Session.workUnit_changes h.sound calls).forest h.sound ih
  | seed h command ih => exact (Seed.transact_changes h.sound command).forest h.sound ih

end Committed

/-! ### The forest -/

/-- Every node but a root has one primary parent, parents are older than their children, and the
primary path of a node is the whole way down from a root. -/
structure Store.WellRooted (s : Store) : Prop where
  onePrimary : ∀ n ∈ s.nodes, n.isRoot = false →
    ∃ a, (s.associations.filter fun a => a.child = n.id && a.isPrimary) = [a]
  parentFirst : ∀ parent child, s.PrimaryEdge parent child →
    ∃ p c, p.id = parent ∧ c.id = child ∧ [p, c].Sublist s.nodes
  acyclic : ∀ id, ¬Relation.TransGen s.PrimaryEdge id id
  paths : ∀ n ∈ s.nodes, ∃ path, s.primaryPath n = .ok path ∧ s.CompletePath n path

theorem Store.WellRooted.of_forest (hs : s.Sound) (hf : s.Forest) : s.WellRooted where
  onePrimary n hn hroot := by
    obtain ⟨parent, he⟩ := (hf.rooted n hn).resolve_left (by simp [hroot])
    rcases hs.constraints.primaryParent_cases n.id with ⟨-, hnone⟩ | ⟨a, -, -, ha⟩
    · exact absurd he (hnone parent)
    · exact ⟨a, ha⟩
  parentFirst parent child he := hf.parent_first hs he
  acyclic := hf.acyclic
  paths n hn := primaryPath_complete hs hf hn

/-- Committed rows form a forest along primary associations, and nothing that filing does, be it a
success or a failure, touches a primary association. -/
theorem committed_wellRooted (h : Committed s) :
    s.WellRooted ∧
      (∀ (τ : Type) [TextForm τ] registry parent (links : List (ChildLink τ)) t,
        ((Filing.create registry parent links).after t).associations.filter (·.isPrimary) =
          t.associations.filter (·.isPrimary)) ∧
      ∀ registry parent child type t,
        ((Filing.delete registry parent child type).after t).associations.filter (·.isPrimary) =
          t.associations.filter (·.isPrimary) := by
  refine ⟨.of_forest h.sound h.forest, fun τ _ registry parent links t => ?_,
    fun registry parent child type t => ?_⟩
  · exact ((Filing.create_after registry parent links t).sameTree (by decide)).primaries
  · exact ((Filing.delete_after registry parent child type t).sameTree (by decide)).primaries

/-- A folder with a document in it, made in one unit of work. -/
def folderWithDocument : Store :=
  Session.workUnit
    [.createNode { name := some "Home", type := ContentModel.folder, isRoot := true } none,
      .createNode { name := some "notes.txt" } (some (.ofNode 1))] {}

theorem folderWithDocument_wellRooted :
    Committed folderWithDocument ∧ folderWithDocument.nodes.length = 2 ∧
      folderWithDocument.WellRooted := by
  have h : Committed folderWithDocument := .work .empty _
  exact ⟨h, by decide, (committed_wellRooted h).1⟩

end Multifiling
