import Mathlib.Data.List.Forall2
import Multifiling.Schema.Rows

/-!
Schemas beside each other. One may ask for the same as another on a dialect, or for something of
each row that is inserted besides; if it is the same, then every run of inserts and deletes is
answered alike (`AsksOn.answers_eq`), and otherwise just the runs in which the other accepts nothing
that it refuses (`answers_eq_iff`).
-/

namespace Multifiling

open Database (Dialect)

variable {dialect : Dialect}

namespace Schema

/-- What a database answers to changes one after the other: whether it accepts each. One that is
refused leaves the rows as they are. -/
def answers (schema : Schema) (dialect : Dialect) (c : Contents) : List RowChange → List Bool
  | [] => []
  | change :: rest =>
    match schema.accept? dialect c change with
    | some c' => true :: schema.answers dialect c' rest
    | none => false :: schema.answers dialect c rest

/-- Two indexes that ask for the same on a dialect, whatever they are called. -/
structure IndexesAlike (dialect : Dialect) (i j : Index) : Prop where
  table : i.table = j.table
  columns : i.columns = j.columns
  unique : i.unique = j.unique
  filter : i.filterOn dialect = j.filterOn dialect

/-- Two tables that ask for the same on a dialect; only of the values that a row gives its columns
does the first ask `asks` besides. -/
structure TablesAlike (dialect : Dialect) (asks : Row → Bool) (t t' : Table) : Prop where
  name : t.name = t'.name
  needed : ∀ row, hasNeeded dialect t row = (hasNeeded dialect t' row && asks row)
  primaryKey : t.primaryKey = t'.primaryKey
  uniqueKeys : t.uniqueKeys = t'.uniqueKeys
  checks : t.checks = t'.checks
  foreignKeys : t.foreignKeys = t'.foreignKeys

/-- A schema that asks for the same as another on a dialect, and `asks` of each row besides. -/
structure AsksOn (dialect : Dialect) (asks : Row → Bool) (schema schema' : Schema) : Prop where
  tables : List.Forall₂ (TablesAlike dialect asks) schema.tables schema'.tables
  indexes : List.Forall₂ (IndexesAlike dialect) schema.indexes schema'.indexes

variable {schema schema' : Schema} {c : Contents} {asks : Row → Bool}

theorem keepsIndex_alike {i j : Index} (h : IndexesAlike dialect i j) (rows : List Row)
    (row : Row) : keepsIndex dialect rows row i = keepsIndex dialect rows row j := by
  simp only [keepsIndex, holds, h.columns, h.unique, h.filter]

/-- What the indexes of a table ask for. -/
theorem all_keepsIndex {indexes indexes' : List Index}
    (h : List.Forall₂ (IndexesAlike dialect) indexes indexes') (name : String) (rows : List Row)
    (row : Row) :
    (indexes.filter (·.table = name)).all (keepsIndex dialect rows row) =
      (indexes'.filter (·.table = name)).all (keepsIndex dialect rows row) := by
  induction h with
  | nil => rfl
  | cons hij _ ih =>
    rw [List.filter_cons, List.filter_cons, hij.table]
    split
    · rw [List.all_cons, List.all_cons, ih, keepsIndex_alike hij]
    · exact ih

/-- Tables of one name are either in neither list, or are alike. -/
theorem find?_alike {tables tables' : List Table}
    (h : List.Forall₂ (TablesAlike dialect asks) tables tables') (name : String) :
    (tables.find? (·.name = name) = none ∧ tables'.find? (·.name = name) = none) ∨
      ∃ t t', tables.find? (·.name = name) = some t ∧ tables'.find? (·.name = name) = some t' ∧
        TablesAlike dialect asks t t' := by
  induction h with
  | nil => exact .inl ⟨rfl, rfl⟩
  | @cons t t' _ _ ht _ ih =>
    rw [List.find?_cons, List.find?_cons, ht.name]
    by_cases hname : t'.name = name
    · simp only [hname, decide_true]
      exact .inr ⟨t, t', rfl, rfl, ht⟩
    · simp only [hname, decide_false]
      exact ih

theorem flatMap_references {tables tables' : List Table}
    (h : List.Forall₂ (TablesAlike dialect asks) tables tables') (name : String) :
    (tables.flatMap fun t =>
        (t.foreignKeys.filter (·.table = name)).map fun key => (t.name, key)) =
      tables'.flatMap fun t =>
        (t.foreignKeys.filter (·.table = name)).map fun key => (t.name, key) := by
  induction h with
  | nil => rfl
  | cons ht _ ih => rw [List.flatMap_cons, List.flatMap_cons, ht.name, ht.foreignKeys, ih]

/-- A delete is answered by the tables alone. -/
theorem accept?_delete
    (h : List.Forall₂ (TablesAlike dialect asks) schema.tables schema'.tables) (c : Contents)
    (name : String) (id : Value) :
    schema.accept? dialect c (.delete name id) = schema'.accept? dialect c (.delete name id) := by
  have hknown : (schema.table? name).isSome = (schema'.table? name).isSome := by
    rw [table?, table?]
    rcases find?_alike h name with ⟨hnone, hnone'⟩ | ⟨t, t', ht, ht', -⟩
    · rw [hnone, hnone']
    · rw [ht, ht']
      rfl
  have hreferences (name : String) : schema.references name = schema'.references name :=
    flatMap_references h name
  have hdelete (depth : Nat) (name : String) (id : Value) (c : Contents) :
      schema.deleteRow depth name id c = schema'.deleteRow depth name id c := by
    induction depth generalizing name id c with
    | zero => rfl
    | succ depth ih => simp only [deleteRow, hreferences, ih]
  simp only [accept?, hknown, hdelete, h.length_eq]

namespace AsksOn

theorem admits_eq (h : AsksOn dialect asks schema schema') (c : Contents) (name : String)
    (row : Row) :
    schema.admits dialect c name row = (schema'.admits dialect c name row && asks row) := by
  rw [admits, admits, table?, table?]
  rcases find?_alike h.tables name with ⟨hnone, hnone'⟩ | ⟨t, t', ht, ht', halike⟩
  · rw [hnone, hnone', Bool.false_and]
  · simp only [ht, ht', halike.needed, keepsKeys, passesChecks, keepsReferences,
      halike.primaryKey, halike.uniqueKeys, halike.checks, halike.foreignKeys,
      all_keepsIndex h.indexes]
    cases asks row with
    | true => simp only [Bool.and_true]
    | false => simp only [Bool.and_false, Bool.false_and]

/-- Where nothing is asked besides, every run is answered alike. -/
theorem answers_eq (h : AsksOn dialect (fun _ => true) schema schema') (c : Contents)
    (changes : List RowChange) :
    schema.answers dialect c changes = schema'.answers dialect c changes := by
  have haccept (c : Contents) (change : RowChange) :
      schema.accept? dialect c change = schema'.accept? dialect c change := by
    cases change with
    | insert name row => simp only [accept?, h.admits_eq, Bool.and_true]
    | delete name id => exact accept?_delete h.tables c name id
  induction changes generalizing c with
  | nil => rfl
  | cons change rest ih => simp only [answers, haccept, ih]

end AsksOn

/-! ### A schema that refuses more -/

/-- Whether a run never has a change that a schema accepts although it is marked. -/
def neverAccepts (schema : Schema) (dialect : Dialect) (marked : Contents → RowChange → Bool)
    (c : Contents) : List RowChange → Bool
  | [] => true
  | change :: rest =>
    match schema.accept? dialect c change with
    | some c' => !marked c change && schema.neverAccepts dialect marked c' rest
    | none => schema.neverAccepts dialect marked c rest

theorem neverAccepts_congr {marked marked' : Contents → RowChange → Bool}
    {changes : List RowChange}
    (h : ∀ change ∈ changes, ∀ c, marked c change = marked' c change) (c : Contents) :
    schema.neverAccepts dialect marked c changes =
      schema.neverAccepts dialect marked' c changes := by
  induction changes generalizing c with
  | nil => rfl
  | cons change rest ih =>
    obtain ⟨hchange, hrest⟩ := List.forall_mem_cons.mp h
    simp only [neverAccepts, hchange, ih hrest]

/-- A schema that refuses the marked changes beside those that another refuses answers alike as long
as the other accepts no marked one. -/
theorem answers_eq_iff {marked : Contents → RowChange → Bool}
    (h : ∀ c change, schema'.accept? dialect c change =
      if marked c change then none else schema.accept? dialect c change)
    (c : Contents) (changes : List RowChange) :
    schema'.answers dialect c changes = schema.answers dialect c changes ↔
      schema.neverAccepts dialect marked c changes = true := by
  induction changes generalizing c with
  | nil => simp [answers, neverAccepts]
  | cons change rest ih =>
    rw [answers, answers, neverAccepts, h]
    cases schema.accept? dialect c change with
    | none => simp [ih]
    | some c' =>
      cases marked c change with
      | true => simp
      | false => simp [ih]

end Schema

end Multifiling
