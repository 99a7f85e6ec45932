import Multifiling.Migration.Catalog
import Multifiling.Proofs.Schema.Alike
import Multifiling.Proofs.Schema.OfStore
import Multifiling.Proofs.Session.Ordinary

/-!
The schema that the migration leads to, beside the one that operations rely on. Its tables are the
same but for one thing: the times of an insert are asked for by the text `now()`. On PostgreSQL this
comes to the same, and so do the indexes. SQLite does not know the text, so there every row has to
bring its times along; and there the index that lets a child have one primary parent has lost its
condition, so that a child can be filed only once (`migrated_accepts`).
-/

namespace Multifiling

open Database (Dialect)
open Schema

/-- The schema of an empty database after the upgrade. -/
def Migration.migrated : Schema := (({} : Catalog).executeAll upgrade).2.schema

namespace Schema
open Migration (migrated)

/-- A schema with one index more. -/
def addIndex (schema : Schema) (index : Index) : Schema :=
  { schema with indexes := schema.indexes ++ [index] }

theorem admits_addIndex (schema : Schema) (index : Index) (dialect : Dialect) (c : Contents)
    (name : String) (row : Row) :
    (schema.addIndex index).admits dialect c name row =
      (schema.admits dialect c name row &&
        (index.table ≠ name || keepsIndex dialect (c.rows name) row index)) := by
  have htable : (schema.addIndex index).table? name = schema.table? name := rfl
  rw [admits, admits, htable]
  cases schema.table? name with
  | none => rfl
  | some table =>
    simp only [addIndex, List.filter_append, List.all_append, Bool.and_assoc]
    by_cases h : index.table = name <;> simp [h]

/-- A table without what stands in columns that are left out. -/
def withoutDefaults (table : Table) : Table :=
  { table with columns := table.columns.map fun column => { column with whenOmitted := none } }

/-- The schema that the migration leads to, without the index that lets a child have one primary
parent. -/
def migratedFirst : Schema :=
  ⟨[Migration.users, Migration.nodes, Migration.childAssociations],
    [Migration.usernameIndex, Migration.childIndex, Migration.parentIndex]⟩

theorem migrated_eq : migrated = migratedFirst.addIndex Migration.primaryChildIndex := by
  decide +kernel

theorem migrated_tables :
    migrated.tables.map withoutDefaults = repository.tables.map withoutDefaults := by
  rw [migrated_eq]
  rfl

/-- Indexes as they are laid down, beside those of a repository. -/
theorem indexes_alike (dialect : Dialect) {index : Index}
    (h : IndexesAlike dialect index primaryChildIndex) :
    List.Forall₂ (IndexesAlike dialect) (migratedFirst.addIndex index).indexes
      repository.indexes := by
  have hsame (i : Index) : IndexesAlike dialect i i := ⟨rfl, rfl, rfl, rfl⟩
  exact .cons (hsame _) (.cons (hsame _) (.cons (hsame _) (.cons h .nil)))

/-! ### The times of an insert -/

/-- Whether a row brings the times of its insert along. -/
def Row.bringsTimes (row : Row) : Bool :=
  (row.values.get? "created_at").isSome && (row.values.get? "updated_at").isSome

/-- PostgreSQL knows the text by which the times are asked for. -/
theorem fills_postgresql (row : Row) (name : String) :
    fills .postgresql row (Migration.timestamp name) =
      fills .postgresql row { name, type := .timestamp, whenOmitted := some .insertTime } := by
  simp only [fills, Migration.timestamp]
  cases row.values.get? name <;> rfl

/-- SQLite does not know it, so the row itself has to give the time. -/
theorem fills_sqlite (row : Row) (name : String) :
    fills .sqlite row (Migration.timestamp name) =
      (fills .sqlite row { name, type := .timestamp, whenOmitted := some .insertTime } &&
        (row.values.get? name).isSome) := by
  simp only [fills, Migration.timestamp]
  cases row.values.get? name with
  | none => rfl
  | some value => simp

/-- What a dialect asks of the times of a row besides, where they are asked for by a text. -/
def asksTimes : Dialect → Row → Bool
  | .postgresql, _ => true
  | .sqlite, row => row.bringsTimes

theorem hasNeeded_migrated {table table' : Table} {columns : List Column} (dialect : Dialect)
    (h : table.columns =
      columns ++ [Migration.timestamp "created_at", Migration.timestamp "updated_at"])
    (h' : table'.columns = columns ++ timestamps) (row : Row) :
    hasNeeded dialect table row = (hasNeeded dialect table' row && asksTimes dialect row) := by
  simp only [hasNeeded, h, h', timestamps, List.all_append, List.all_cons, List.all_nil,
    Bool.and_true]
  cases dialect with
  | postgresql => simp only [fills_postgresql, asksTimes, Bool.and_true]
  | sqlite =>
    simp only [fills_sqlite, asksTimes, Row.bringsTimes, Bool.and_assoc]
    congr 2
    exact Bool.and_left_comm ..

/-- The tables as they are laid down ask for the same as those of a repository, and for the times
besides. -/
theorem tables_alike (dialect : Dialect) (index : Index) :
    List.Forall₂ (TablesAlike dialect (asksTimes dialect)) (migratedFirst.addIndex index).tables
      repository.tables :=
  .cons ⟨rfl, hasNeeded_migrated dialect rfl rfl, rfl, rfl, rfl, rfl⟩
    (.cons ⟨rfl, hasNeeded_migrated dialect rfl rfl, rfl, rfl, rfl, rfl⟩
      (.cons ⟨rfl, hasNeeded_migrated dialect rfl rfl, rfl, rfl, rfl, rfl⟩ .nil))

theorem migrated_asksOn : AsksOn .postgresql (fun _ => true) migrated repository where
  tables := migrated_eq ▸ tables_alike .postgresql _
  indexes := migrated_eq ▸ indexes_alike .postgresql ⟨rfl, rfl, rfl, rfl⟩

/-- With its condition the index would leave only the times to ask for. -/
theorem conditioned_asksOn :
    AsksOn .sqlite Row.bringsTimes (migratedFirst.addIndex primaryChildIndex) repository where
  tables := tables_alike .sqlite _
  indexes := indexes_alike .sqlite ⟨rfl, rfl, rfl, rfl⟩

/-! ### The index without its condition -/

/-- Whether a change files a child that is filed already. -/
def filesAgain (c : Contents) : RowChange → Bool
  | .insert name row =>
    name = childAssociations.name && (c.rows name).any (row.agreesOn ["child_id"])
  | .delete _ _ => false

/-- Without its condition the index asks for more. -/
theorem keepsIndex_sqlite (rows : List Row) (row : Row) :
    keepsIndex .sqlite rows row Migration.primaryChildIndex =
      (keepsIndex .sqlite rows row primaryChildIndex && !rows.any (row.agreesOn ["child_id"])) := by
  have hall : keepsIndex .sqlite rows row Migration.primaryChildIndex =
      !rows.any (row.agreesOn ["child_id"]) := by
    rw [List.not_any_eq_all_not]
    rfl
  rw [hall]
  cases hany : rows.any (row.agreesOn ["child_id"]) with
  | true => simp
  | false =>
    have hkeeps : keepsIndex .sqlite rows row primaryChildIndex = true := by
      rw [keepsIndex, Bool.or_eq_true, List.all_eq_true]
      refine .inr fun earlier hearlier => ?_
      have hdiffers : row.agreesOn primaryChildIndex.columns earlier = false :=
        eq_false_of_ne_true (List.any_eq_false.mp hany earlier hearlier)
      rw [hdiffers, Bool.and_false, Bool.not_false]
    rw [hkeeps]
    rfl

theorem admits_sqlite (c : Contents) (name : String) (row : Row) :
    migrated.admits .sqlite c name row =
      (repository.admits .sqlite c name row && row.bringsTimes &&
        !filesAgain c (.insert name row)) := by
  rw [← conditioned_asksOn.admits_eq, migrated_eq, admits_addIndex, admits_addIndex,
    keepsIndex_sqlite, filesAgain]
  by_cases h : name = "child_associations"
  · subst h
    simp [Migration.primaryChildIndex, primaryChildIndex, childAssociations, Bool.and_assoc]
  · have h' : ¬"child_associations" = name := Ne.symm h
    simp [Migration.primaryChildIndex, primaryChildIndex, childAssociations, h, h']

/-- Whether a change leaves the times of an insert to the database. -/
def leavesTimes : RowChange → Bool
  | .insert _ row => !row.bringsTimes
  | .delete _ _ => false

/-- Whether a change asks for what the migrated database does not do on SQLite. -/
def isOutOfReach (c : Contents) (change : RowChange) : Bool :=
  filesAgain c change || leavesTimes change

theorem accept?_sqlite (c : Contents) (change : RowChange) :
    migrated.accept? .sqlite c change =
      if isOutOfReach c change then none else repository.accept? .sqlite c change := by
  cases change with
  | insert name row =>
    rw [accept?, accept?, admits_sqlite, isOutOfReach, leavesTimes]
    cases filesAgain c (.insert name row) <;> cases row.bringsTimes <;> simp
  | delete name id =>
    have htables := tables_alike .sqlite Migration.primaryChildIndex
    rw [← migrated_eq] at htables
    exact accept?_delete htables c name id

/-! ### Filing a child again -/

variable {s t : Store} {a : Association}

/-- What `addChild` inserts has a number of its own, and the store admits it. -/
theorem addChild_admits {parent child : Node} {type name : QName} {isPrimary : Bool}
    {atHand : Operation.AtHand} (hs : s.Sound)
    (h : (Operation.addChild parent child type name isPrimary atHand).run s = .ok a t) :
    s.admitsAssociation a = true ∧ a.child = child.id ∧ ∀ b ∈ s.associations, a.id ≠ b.id := by
  have hlinking := Operation.addChild_linking s parent child type name isPrimary atHand
  rw [h] at hlinking
  cases hlinking with
  | made _ ha hadmits =>
    subst ha
    refine ⟨hadmits, rfl, fun b hb hid => ?_⟩
    have hle := hs.numbered.association_le b hb
    rw [← hid] at hle
    exact absurd hle (Nat.not_succ_le_self _)

theorem filesAgain_association :
    filesAgain s.contents (.insert "child_associations" a.row) =
      s.associations.any fun b => a.child = b.child := by
  have hrows : s.contents.rows "child_associations" = s.associations.map Association.row := rfl
  rw [filesAgain, hrows, List.any_map]
  simp only [Function.comp_def, agreesOn_child]
  rfl

/-- The migration lays down the same tables, but for how the times of an insert are asked for. On
PostgreSQL the database that it leads to answers every run of inserts and deletes like one that is
made from the schema of the repository. On SQLite it does so as long as no child is filed again and
every row brings its times along; if all rows do that, then as long as no child is filed again. What
`addChild` inserts leaves the times to the database, so it is never accepted there; even with the
times it is only if the child has no parent yet. -/
theorem migrated_accepts (changes : List RowChange) :
    migrated.tables.map withoutDefaults = repository.tables.map withoutDefaults ∧
    migrated.answers .postgresql {} changes = repository.answers .postgresql {} changes ∧
    (migrated.answers .sqlite {} changes = repository.answers .sqlite {} changes ↔
      repository.neverAccepts .sqlite isOutOfReach {} changes = true) ∧
    ((∀ change ∈ changes, leavesTimes change = false) →
      (migrated.answers .sqlite {} changes = repository.answers .sqlite {} changes ↔
        repository.neverAccepts .sqlite filesAgain {} changes = true)) ∧
    ∀ (s t : Store) (parent child : Node) (type name : QName) (isPrimary : Bool)
      (atHand : Operation.AtHand) (a : Association), s.Sound → s.enforces = true →
      (Operation.addChild parent child type name isPrimary atHand).run s = .ok a t →
        (∀ dialect, repository.admits dialect s.contents "child_associations" a.row = true) ∧
        migrated.admits .postgresql s.contents "child_associations" a.row = true ∧
        migrated.admits .sqlite s.contents "child_associations" a.row = false ∧
        ∀ time, (migrated.admits .sqlite s.contents "child_associations" (a.row.stamped time) =
            true ↔
          ∀ b ∈ s.associations, a.child ≠ b.child) := by
  have hsqlite : migrated.answers .sqlite {} changes = repository.answers .sqlite {} changes ↔
      repository.neverAccepts .sqlite isOutOfReach {} changes = true :=
    answers_eq_iff accept?_sqlite {} changes
  refine ⟨migrated_tables, migrated_asksOn.answers_eq {} changes, hsqlite, fun htimes => ?_, ?_⟩
  · rw [hsqlite]
    refine Bool.eq_iff_iff.mp (neverAccepts_congr (fun change hchange c => ?_) {})
    rw [isOutOfReach, htimes change hchange, Bool.or_false]
  · intro s t parent child type name isPrimary atHand a hs henforces h
    obtain ⟨hadmits, -, hid⟩ := addChild_admits hs h
    have hrepository (dialect : Dialect) :
        repository.admits dialect s.contents "child_associations" a.row = true := by
      rw [admits_association henforces hid, hadmits]
    refine ⟨hrepository, ?_, ?_, fun time => ?_⟩
    · rw [migrated_asksOn.admits_eq, hrepository]
      rfl
    · rw [admits_sqlite, hrepository]
      rfl
    · have hfiles : filesAgain s.contents (.insert "child_associations" (a.row.stamped time)) =
          s.associations.any fun b => a.child = b.child := filesAgain_association
      have htimes : (a.row.stamped time).bringsTimes = true := rfl
      rw [admits_sqlite, admits_stamped, hrepository, htimes, hfiles]
      simp

/-! ### A second parent -/

/-- The row of a node without a creator. -/
def nodeRow (id : Nat) (name : String) : Row :=
  ⟨[("id", .identifier id), ("name", .text name),
    ("node_type", .text ContentModel.content.fullForm), ("properties", .text "\x7b\x7d"),
    ("is_root", .bool false), ("created_by_id", .null), ("modified_by_id", .null),
    ("created_at", .text "2026-10-19 09:12:41"), ("updated_at", .text "2026-10-19 09:12:41")]⟩

/-- The row of an association with the child "notes.txt". -/
def linkRow (id parent child : Nat) (isPrimary : Bool) : Row :=
  ⟨[("id", .identifier id), ("parent_id", .identifier parent), ("child_id", .identifier child),
    ("type_qname", .text ContentModel.contains.fullForm), ("qname", .text "notes.txt"),
    ("is_primary", .bool isPrimary), ("created_at", .text "2026-10-19 09:12:41"),
    ("updated_at", .text "2026-10-19 09:12:41")]⟩

/-- A document with a primary parent, and then a secondary one. -/
def secondParent : List RowChange :=
  [.insert "nodes" (nodeRow 1 "Home"), .insert "nodes" (nodeRow 2 "Inbox"),
    .insert "nodes" (nodeRow 3 "notes.txt"), .insert "child_associations" (linkRow 4 1 3 true),
    .insert "child_associations" (linkRow 5 2 3 false)]

/-- On SQLite the migrated database refuses a document a second parent. -/
theorem secondParent_refused :
    migrated.answers .sqlite {} secondParent = [true, true, true, true, false] ∧
      repository.answers .sqlite {} secondParent = [true, true, true, true, true] ∧
      migrated.answers .postgresql {} secondParent = [true, true, true, true, true] := by
  decide +kernel

open Filing (twoDocuments twoDocuments_ordinary)

def inbox : Node :=
  { id := .ofNode 2, name := "Inbox", type := ContentModel.folder.fullForm, properties := []
    isRoot := false, createdBy := none, modifiedBy := none }

def firstDocument : Node :=
  { id := .ofNode 3, name := "a.txt", type := ContentModel.content.fullForm, properties := []
    isRoot := false, createdBy := none, modifiedBy := none }

/-- So does what `addChild` inserts for a document that has its primary parent. -/
theorem migrated_accepts_firstDocument :
    ∃ a t, (Operation.addChild inbox firstDocument ContentModel.contains
        ⟨ContentModel.contentUri, "a.txt", by decide⟩ false).run twoDocuments.current = .ok a t ∧
      (∀ dialect, repository.admits dialect twoDocuments.current.contents "child_associations"
        a.row = true) ∧
      migrated.admits .postgresql twoDocuments.current.contents "child_associations" a.row = true ∧
      migrated.admits .sqlite twoDocuments.current.contents "child_associations"
        (a.row.stamped "2026-10-19 09:12:41") = false ∧
      (∀ change ∈ secondParent, leavesTimes change = false) ∧
      migrated.answers .sqlite {} secondParent ≠ repository.answers .sqlite {} secondParent := by
  have hok : (twoDocuments.run (Operation.addChild inbox firstDocument ContentModel.contains
      ⟨ContentModel.contentUri, "a.txt", by decide⟩ false)).result.isOk := by decide +kernel
  obtain ⟨a, h⟩ := Session.run_ok hok
  have hs := twoDocuments_ordinary.sound.current
  have htimes : ∀ change ∈ secondParent, leavesTimes change = false := by decide
  obtain ⟨-, -, -, hanswers, haddChild⟩ := migrated_accepts secondParent
  obtain ⟨hrepository, hpostgresql, -, hsqlite⟩ :=
    haddChild twoDocuments.current _ inbox firstDocument _ _ false {} a hs (by decide +kernel) h
  refine ⟨a, _, h, hrepository, hpostgresql, eq_false_of_ne_true fun hadmits => ?_, htimes,
    fun hsame => ?_⟩
  · have hfiled : (twoDocuments.current.associations.any fun b => .ofNode 3 = b.child) = true := by
      decide +kernel
    obtain ⟨b, hb, hchild⟩ := List.any_eq_true.mp hfiled
    have ha : a.child = .ofNode 3 := (addChild_admits hs h).2.1
    exact (hsqlite _).mp hadmits b hb (ha.trans (of_decide_eq_true hchild))
  · -- the document has a parent when it is filed again
    have hagain : repository.neverAccepts .sqlite filesAgain {} secondParent = false := by
      decide +kernel
    rw [(hanswers htimes).mp hsame] at hagain
    cases hagain

end Schema

end Multifiling
