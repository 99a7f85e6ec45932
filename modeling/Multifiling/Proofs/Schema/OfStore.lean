import Multifiling.Proofs.Store.Constraints
import Multifiling.Schema.Repository
import Multifiling.Schema.Rows

/-!
The rows of a store under the schema of a repository. As far as constraints look at them, the rows
stand in tables; the schema then accepts an association if the store does (`admits_association`), on
every dialect.
-/

namespace Multifiling

open Database (Dialect)
open Schema

/-- A reference as it stands in a column. -/
def Uuid.reference : Option Uuid → Value
  | none => .null
  | some id => .identifier id.value

def User.row (u : User) : Row :=
  ⟨[("id", .identifier u.id.value), ("username", .text u.username)]⟩

def Node.row (n : Node) : Row :=
  ⟨[("id", .identifier n.id.value), ("name", .text n.name), ("node_type", .text n.type),
    ("is_root", .bool n.isRoot), ("created_by_id", Uuid.reference n.createdBy),
    ("modified_by_id", Uuid.reference n.modifiedBy)]⟩

/-- An association as it is inserted: the times are left to the database. -/
def Association.row (a : Association) : Row :=
  ⟨[("id", .identifier a.id), ("parent_id", .identifier a.parent.value),
    ("child_id", .identifier a.child.value), ("type_qname", .text a.type), ("qname", .text a.name),
    ("is_primary", .bool a.isPrimary)]⟩

/-- A row with the times of its insert. -/
def Schema.Row.stamped (row : Row) (time : String) : Row :=
  ⟨row.values ++ [("created_at", .text time), ("updated_at", .text time)]⟩

/-- The rows of a store in their tables. -/
def Store.contents (s : Store) : Contents :=
  ⟨[("users", s.users.map User.row), ("nodes", s.nodes.map Node.row),
    ("child_associations", s.associations.map Association.row)]⟩

namespace Association

variable (a : Association)

theorem value_id : a.row.value "id" = .identifier a.id := rfl
theorem value_parent : a.row.value "parent_id" = .identifier a.parent.value := rfl
theorem value_child : a.row.value "child_id" = .identifier a.child.value := rfl
theorem value_type : a.row.value "type_qname" = .text a.type := rfl
theorem value_name : a.row.value "qname" = .text a.name := rfl
theorem value_isPrimary : a.row.value "is_primary" = .bool a.isPrimary := rfl

end Association

@[simp] theorem Uuid.value_inj {x y : Uuid} : x.value = y.value ↔ x = y := by
  cases x
  cases y
  simp

theorem Node.value_id (n : Node) : n.row.value "id" = .identifier n.id.value := rfl

namespace Schema

variable {s : Store} {a : Association}

/-! ### What two associations have in common -/

theorem agreesOn_id (a b : Association) : a.row.agreesOn ["id"] b.row = decide (a.id = b.id) := by
  simp [Row.agreesOn, Association.value_id]

theorem agreesOn_link (a b : Association) :
    a.row.agreesOn ["parent_id", "child_id", "type_qname"] b.row =
      (a.parent = b.parent && a.child = b.child && a.type = b.type) := by
  simp [Row.agreesOn, Association.value_parent, Association.value_child, Association.value_type,
    Bool.and_assoc]

theorem agreesOn_name (a b : Association) :
    a.row.agreesOn ["parent_id", "type_qname", "qname"] b.row =
      (a.parent = b.parent && a.type = b.type && a.name = b.name) := by
  simp [Row.agreesOn, Association.value_parent, Association.value_type, Association.value_name,
    Bool.and_assoc]

theorem agreesOn_child (a b : Association) :
    a.row.agreesOn ["child_id"] b.row = decide (a.child = b.child) := by
  simp [Row.agreesOn, Association.value_child]

theorem compatible_eq (a b : Association) :
    Store.compatible b a =
      (!a.row.agreesOn ["parent_id", "child_id", "type_qname"] b.row &&
        !a.row.agreesOn ["parent_id", "type_qname", "qname"] b.row &&
        !(a.isPrimary && b.isPrimary && a.row.agreesOn ["child_id"] b.row)) := by
  rw [agreesOn_link, agreesOn_name, agreesOn_child, Store.compatible]
  simp only [@eq_comm _ b.parent, @eq_comm _ b.child, @eq_comm _ b.type, @eq_comm _ b.name,
    Bool.and_comm b.isPrimary]

/-! ### Accepting an association -/

theorem keepsKeys_association (hid : ∀ b ∈ s.associations, a.id ≠ b.id) :
    keepsKeys childAssociations (s.associations.map Association.row) a.row =
      s.associations.all fun b =>
        !a.row.agreesOn ["parent_id", "child_id", "type_qname"] b.row &&
          !a.row.agreesOn ["parent_id", "type_qname", "qname"] b.row := by
  rw [keepsKeys, Bool.eq_iff_iff]
  simp only [childAssociations, List.map_cons, List.map_nil, List.all_cons, List.all_nil,
    List.all_map, Bool.and_true, Bool.and_eq_true, List.all_eq_true, Function.comp_apply]
  constructor
  · intro h b hb
    exact ⟨h.2.1 b hb, h.2.2 b hb⟩
  · intro h
    refine ⟨fun b hb => ?_, fun b hb => (h b hb).1, fun b hb => (h b hb).2⟩
    rw [agreesOn_id, decide_eq_false (hid b hb)]
    rfl

theorem keepsReferences_association :
    keepsReferences childAssociations s.contents a.row =
      ((s.node? a.parent).isSome && (s.node? a.child).isSome) := by
  have hrows : s.contents.rows "nodes" = s.nodes.map Node.row := rfl
  rw [Bool.eq_iff_iff]
  simp only [keepsReferences, childAssociations, List.all_cons, List.all_nil, hrows,
    Association.value_parent, Association.value_child, Bool.and_true, Bool.and_eq_true,
    Store.node?_isSome, Store.HasNode]
  simp [Node.value_id]

theorem keepsIndexes_association (dialect : Dialect) :
    (repository.indexes.filter (·.table = "child_associations")).all
        (keepsIndex dialect (s.associations.map Association.row) a.row) =
      s.associations.all fun b =>
        !(a.isPrimary && b.isPrimary && a.row.agreesOn ["child_id"] b.row) := by
  have hindexes : repository.indexes.filter (·.table = "child_associations") =
      [childIndex, parentIndex, primaryChildIndex] := rfl
  have hholds (b : Association) : holds dialect primaryChildIndex b.row = b.isPrimary := by
    have h : holds dialect primaryChildIndex b.row =
        decide (b.row.value "is_primary" = .bool true) := by
      cases dialect <;> rfl
    rw [h, Association.value_isPrimary]
    simp
  have hunique : primaryChildIndex.unique = true := rfl
  have hcolumns : primaryChildIndex.columns = ["child_id"] := rfl
  have hfinds (index : Index) (h : index.unique = false) (rows : List Row) (row : Row) :
      keepsIndex dialect rows row index = true := by
    simp [keepsIndex, h]
  rw [hindexes, List.all_cons, List.all_cons, List.all_cons, List.all_nil, hfinds childIndex rfl,
    hfinds parentIndex rfl, keepsIndex, hunique, hcolumns, hholds, List.all_map]
  cases hp : a.isPrimary with
  | false => simp
  | true => simp [hholds, Function.comp_def]

/-- The schema of a repository accepts an association that has a number of its own just if the
store does, whatever the dialect. -/
theorem admits_association (henforces : s.enforces = true)
    (hid : ∀ b ∈ s.associations, a.id ≠ b.id) (dialect : Dialect) :
    repository.admits dialect s.contents "child_associations" a.row = s.admitsAssociation a := by
  have htable : repository.table? "child_associations" = some childAssociations := rfl
  have hrows : s.contents.rows "child_associations" = s.associations.map Association.row := rfl
  have hneeded : hasNeeded dialect childAssociations a.row = true := by cases dialect <;> rfl
  have hcheck : passesChecks childAssociations a.row = decide (a.parent ≠ a.child) := by
    simp [passesChecks, childAssociations, Association.value_parent, Association.value_child]
  rw [admits, htable]
  simp only [hrows, hneeded, hcheck, keepsKeys_association hid, keepsReferences_association,
    keepsIndexes_association]
  rw [Store.admitsAssociation, henforces]
  rw [Bool.eq_iff_iff]
  simp only [compatible_eq, Bool.and_eq_true, List.all_eq_true, Bool.not_true, Bool.false_or]
  constructor
  · rintro ⟨⟨⟨⟨-, hkeys⟩, hself⟩, hends⟩, hindex⟩
    exact ⟨⟨⟨hself, hends.1⟩, hends.2⟩, fun b hb => ⟨hkeys b hb, hindex b hb⟩⟩
  · rintro ⟨⟨⟨hself, hparent⟩, hchild⟩, hall⟩
    exact ⟨⟨⟨⟨trivial, fun b hb => (hall b hb).1⟩, hself⟩, hparent, hchild⟩,
      fun b hb => (hall b hb).2⟩

/-- To the schema of a repository it makes no difference whether the times are given. -/
theorem admits_stamped (c : Contents) (time : String) (dialect : Dialect) :
    repository.admits dialect c "child_associations" (a.row.stamped time) =
      repository.admits dialect c "child_associations" a.row := by
  cases dialect <;> rfl

end Schema

end Multifiling
