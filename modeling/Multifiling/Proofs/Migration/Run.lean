import Multifiling.Migration.Command

/-!
Runs of migration commands. Statements take effect one by one, and where one is refused, those
before it stay. Still no run leaves a part of the tables behind (`run_whole`): where the tables and
the version do not fit together, it is the first statement that is refused, and the statements down
undo those up. Only a stamp can part the tables from the version.
-/

namespace Multifiling.Migration

/-! ### Databases with all tables or none -/

def Statement.table? : Statement → Option Table
  | .createTable table => some table
  | _ => none

def Statement.index? : Statement → Option Index
  | .createIndex index => some index
  | _ => none

/-- The tables and indexes that statements lay down. -/
def laidDown (statements : List Statement) : Schema where
  tables := statements.filterMap Statement.table?
  indexes := statements.filterMap Statement.index?

example : (laidDown upgrade).tables.map (·.name) = ["users", "nodes", "child_associations"] := by
  decide

namespace Catalog

/-- The schema of a database without its version table. -/
def content (c : Catalog) : Schema where
  tables := c.schema.tables.filter (·.name ≠ versionTable.name)
  indexes := c.schema.indexes

/-- A database with the version table, at a stage, with all tables of the revision or none. -/
def standing (whole : Bool) (stage : Stage) : Catalog where
  schema := {
    tables := versionTable :: if whole then (laidDown upgrade).tables else []
    indexes := if whole then (laidDown upgrade).indexes else [] }
  versions := stage.versions

theorem content_standing (whole : Bool) (stage : Stage) :
    (standing whole stage).content = if whole then laidDown upgrade else {} := by
  cases whole <;> cases stage <;> decide

theorem stage_standing (whole : Bool) (stage : Stage) : (standing whole stage).stage = stage := by
  cases stage <;> rfl

theorem withVersionTable_empty : withVersionTable {} = standing false .base := by decide

theorem withVersionTable_standing (whole : Bool) (stage : Stage) :
    (standing whole stage).withVersionTable = standing whole stage := by
  cases whole <;> cases stage <;> rfl

/-! ### Statements -/

/-- Statements after others are carried out where those have not been refused. -/
theorem executeAll_append (before after : List Statement) (c : Catalog) :
    c.executeAll (before ++ after) =
      match c.executeAll before with
      | (true, c') => c'.executeAll after
      | (false, c') => (false, c') := by
  induction before generalizing c with
  | nil => rfl
  | cons statement rest ih =>
    simp only [List.cons_append, executeAll]
    cases c.execute? statement with
    | none => rfl
    | some c' => exact ih c'

/-- The statements up lay down all tables, or are refused at once where these are there. -/
theorem executeAll_upgrade (whole : Bool) (stage : Stage) :
    (standing whole stage).executeAll upgrade = (!whole, standing true stage) := by
  cases whole <;> cases stage <;> decide

/-- The statements down undo those up, or are refused at once where there is nothing to undo. -/
theorem executeAll_downgrade (whole : Bool) (stage : Stage) :
    (standing whole stage).executeAll downgrade = (whole, standing false stage) := by
  cases whole <;> cases stage <;> decide

theorem executeAll_version (whole : Bool) (step : Step) {stage : Stage}
    (h : step.target ≠ stage) :
    (standing whole stage).executeAll [step.versionChange] =
      (true, standing whole step.target) := by
  obtain ⟨action, target⟩ := step
  cases target <;> cases stage <;> first | exact absurd rfl h | (cases whole <;> rfl)

end Catalog

/-! ### Plans -/

variable {current : Stage} {text : String} {step : Step}

theorem plan_some {action : Action} (h : plan action current text = .ok (some step)) :
    step.action = action ∧ step.target ≠ current ∧
      target action current text = .ok step.target := by
  rw [plan] at h
  cases ht : target action current text with
  | error e => rw [ht] at h; cases h
  | ok stage =>
    rw [ht] at h
    simp only [Except.map, Except.ok.injEq] at h
    split at h
    · cases h
    · next hne => cases h; exact ⟨rfl, hne, rfl⟩

/-- Upgrades lead from the base to the head. -/
theorem plan_upgrade (h : plan .upgrade current text = .ok (some step)) :
    current = .base ∧ step = ⟨.upgrade, .head⟩ := by
  obtain ⟨haction, hne, htarget⟩ := plan_some h
  obtain ⟨_, stage⟩ := step
  cases haction
  rw [target] at htarget
  cases hup : upgradeTarget current text with
  | error e => rw [hup] at htarget; cases htarget
  | ok up =>
    rw [hup] at htarget
    simp only [Except.map, Except.ok.injEq] at htarget
    -- a target at the base leaves the database where it stands
    cases up with
    | base => exact absurd htarget.symm hne
    | head =>
      cases htarget
      cases current with
      | base => exact ⟨rfl, rfl⟩
      | head => exact absurd rfl hne

private theorem bind_refused {x : Except TargetError Stage} :
    (x >>= fun target =>
      if target = .head ∧ Stage.base = .base then throw .unknown else pure target) ≠ .ok .head := by
  cases x with
  | error e => exact nofun
  | ok target => cases target <;> exact nofun

/-- From the base nothing leads down to the head. -/
theorem downgradeTarget_base : downgradeTarget .base text ≠ .ok .head := by
  rw [downgradeTarget]
  split <;> exact bind_refused

/-- Downgrades lead from the head to the base. -/
theorem plan_downgrade (h : plan .downgrade current text = .ok (some step)) :
    current = .head ∧ step = ⟨.downgrade, .base⟩ := by
  obtain ⟨haction, hne, htarget⟩ := plan_some h
  obtain ⟨_, stage⟩ := step
  cases haction
  cases current with
  | base =>
    cases stage with
    | base => exact absurd rfl hne
    | head => exact absurd htarget downgradeTarget_base
  | head =>
    cases stage with
    | base => exact ⟨rfl, rfl⟩
    | head => exact absurd rfl hne

/-! ### Runs -/

open Catalog

/-- Whether a command is a stamp. -/
def Command.stamps : Command → Bool
  | .act .stamp _ => true
  | _ => false

/-- The database after commands, those that failed included. -/
def runAll (commands : List Command) (c : Catalog) : Catalog :=
  commands.foldl (fun c command => (command.run c).2) c

theorem executeAll_upgrade_step (whole : Bool) :
    ((standing whole .base).executeAll (Step.mk .upgrade .head).statements).2 =
      standing true (if whole then .base else .head) := by
  rw [Step.statements, executeAll_append, Step.schemaChanges, executeAll_upgrade]
  cases whole with
  | false => exact congrArg Prod.snd (executeAll_version true _ (by decide))
  | true => rfl

theorem executeAll_downgrade_step (whole : Bool) :
    ((standing whole .head).executeAll (Step.mk .downgrade .base).statements).2 =
      standing false (if whole then .base else .head) := by
  rw [Step.statements, executeAll_append, Step.schemaChanges, executeAll_downgrade]
  cases whole with
  | false => rfl
  | true => exact congrArg Prod.snd (executeAll_version false _ (by decide))

theorem executeAll_stamp_step (whole : Bool) {stage target : Stage} (h : target ≠ stage) :
    ((standing whole stage).executeAll (Step.mk .stamp target).statements).2 =
      standing whole target :=
  congrArg Prod.snd (executeAll_version whole ⟨.stamp, target⟩ h)

theorem run_snd (action : Action) (text : String) (c : Catalog) :
    (action.run text c).2 =
      if action.refusesRange && text.toList.contains ':' then c
      else match plan action c.withVersionTable.stage text with
        | .ok (some step) => (c.withVersionTable.executeAll step.statements).2
        | _ => c.withVersionTable := by
  rw [Action.run]
  split
  · rfl
  · simp only
    split
    · next h => rw [h]
    · next h => rw [h]
    · next h => rw [h]; simp only; split <;> next h => rw [h]

/-- An action on a database with a version table leaves all tables or none. Where the tables agree
with the version, only a stamp can part them. -/
theorem run_standing (action : Action) (text : String) (whole : Bool) (stage : Stage) :
    ∃ whole' stage', (action.run text (standing whole stage)).2 = standing whole' stage' ∧
      (action ≠ .stamp → (whole = true ↔ stage = .head) → (whole' = true ↔ stage' = .head)) := by
  have hsame : ∃ whole' stage', standing whole stage = standing whole' stage' ∧
      (action ≠ .stamp → (whole = true ↔ stage = .head) → (whole' = true ↔ stage' = .head)) :=
    ⟨whole, stage, rfl, fun _ h => h⟩
  rw [run_snd, withVersionTable_standing, stage_standing]
  split
  · exact hsame
  · split
    · next step hplan =>
      obtain ⟨haction, hne, -⟩ := plan_some hplan
      cases action with
      | upgrade =>
        obtain ⟨rfl, rfl⟩ := plan_upgrade hplan
        refine ⟨_, _, executeAll_upgrade_step whole, fun _ _ => ?_⟩
        cases whole <;> simp_all
      | downgrade =>
        obtain ⟨rfl, rfl⟩ := plan_downgrade hplan
        refine ⟨_, _, executeAll_downgrade_step whole, fun _ h => ?_⟩
        cases whole <;> simp_all
      | stamp =>
        obtain ⟨_, target⟩ := step
        cases haction
        exact ⟨_, _, executeAll_stamp_step whole hne, fun h => absurd rfl h⟩
    · exact hsame

/-- A database that is empty or has its version table, with all tables of the revision or none. The
tables are there just where the version says so, as far as they are to agree. -/
def Intact (agree : Prop) (c : Catalog) : Prop :=
  c = {} ∨ ∃ whole stage, c = standing whole stage ∧ (agree → (whole = true ↔ stage = .head))

variable {agree : Prop} {c : Catalog}

theorem Intact.mono {agree' : Prop} (h : Intact agree c) (hagree : agree' → agree) :
    Intact agree' c :=
  h.imp_right fun ⟨whole, stage, hc, halign⟩ => ⟨whole, stage, hc, halign ∘ hagree⟩

/-- On an empty database an action finds what it finds on one with a version table alone. -/
theorem run_empty (action : Action) (text : String) :
    (action.run text {}).2 = {} ∨
      (action.run text {}).2 = (action.run text (standing false .base)).2 := by
  rw [run_snd, run_snd, withVersionTable_empty, withVersionTable_standing]
  split
  · exact .inl rfl
  · exact .inr rfl

theorem run_act_intact (action : Action) (text : String) (h : Intact agree c) :
    Intact (agree ∧ action ≠ .stamp) (action.run text c).2 := by
  have hstanding (whole : Bool) (stage : Stage) (halign : agree → (whole = true ↔ stage = .head)) :
      Intact (agree ∧ action ≠ .stamp) (action.run text (standing whole stage)).2 := by
    obtain ⟨whole', stage', hrun, hkeep⟩ := run_standing action text whole stage
    exact .inr ⟨whole', stage', hrun, fun ⟨ha, hne⟩ => hkeep hne (halign ha)⟩
  rcases h with rfl | ⟨whole, stage, rfl, halign⟩
  · rcases run_empty action text with hrun | hrun
    · exact .inl hrun
    · rw [hrun]
      exact hstanding false .base fun _ => by decide
  · exact hstanding whole stage halign

/-- Every command leaves a database intact, whether it succeeds or fails. -/
theorem Command.run_intact (command : Command) (h : Intact agree c) :
    Intact (agree ∧ command.stamps = false) (command.run c).2 := by
  cases command with
  | act action text =>
    refine (run_act_intact action text h).mono fun ⟨ha, hstamps⟩ => ⟨ha, ?_⟩
    rintro rfl
    cases hstamps
  | current | history | heads => exact h.mono And.left

theorem runAll_intact (commands : List Command) (h : Intact agree c) :
    Intact (agree ∧ ∀ command ∈ commands, command.stamps = false) (runAll commands c) := by
  induction commands generalizing c agree with
  | nil => exact h.mono And.left
  | cons command rest ih =>
    refine (ih (command.run_intact h)).mono fun ⟨ha, hall⟩ => ?_
    rw [List.forall_mem_cons] at hall
    exact ⟨⟨ha, hall.1⟩, hall.2⟩

/-- Whatever commands are run on an empty database, failed ones included, all that the revision lays
down is there or nothing of it, and the version table holds the revision or nothing. Where no
command was a stamp, the tables are there just where the version table holds the revision. -/
theorem run_whole (commands : List Command) :
    let c := runAll commands {}
    (c.content = laidDown upgrade ∨ c.content = {}) ∧
      (c.versions = [revision] ∨ c.versions = []) ∧
      ((∀ command ∈ commands, command.stamps = false) →
        (c.content = laidDown upgrade ↔ c.versions = [revision])) := by
  intro c
  have hintact : Intact (True ∧ ∀ command ∈ commands, command.stamps = false) c :=
    runAll_intact commands (.inl rfl)
  have hne : ({} : Schema) ≠ laidDown upgrade := by decide
  rcases hintact with hc | ⟨whole, stage, hc, halign⟩
  · rw [hc]
    exact ⟨.inr rfl, .inr rfl, fun _ => by decide⟩
  · rw [hc, content_standing]
    refine ⟨?_, ?_, fun hstamps => ?_⟩
    · cases whole with
      | false => exact .inr rfl
      | true => exact .inl rfl
    · cases stage with
      | base => exact .inr rfl
      | head => exact .inl rfl
    · have h := halign ⟨trivial, hstamps⟩
      cases whole <;> cases stage <;> simp_all [standing, Stage.versions]

/-- A stamp parts the tables from the version. An upgrade then finds the tables there and changes
nothing. -/
example : runAll [.act .upgrade "head", .act .stamp "base", .act .upgrade "+1"] {} =
    standing true .base := by decide +kernel

end Multifiling.Migration
