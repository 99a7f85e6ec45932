import Multifiling.Proofs.Api.UnitOfWork

/-!
Databases in service: what is there after any units of work, commands for the sample content and
requests, in any order. None of them leaves a node out of its place under a root (`Served.changes`),
and none touches the tables themselves.
-/

namespace Multifiling
open Store

variable {s : Store}

namespace Api

/-- The rows that a database can hold after units of work, commands for the sample content and
requests under any configuration, from an empty one on. -/
inductive Served : Store → Prop where
  | empty : Served {}
  | work {s : Store} (h : Served s) (calls : List Call) : Served (Session.workUnit calls s)
  | seed {s : Store} (h : Served s) (command : Seed.Command) :
    Served (command.operation.transact s).2
  | request {s : Store} (h : Served s) (config : Config) (r : Request) :
    Served (serve config r s).2

namespace Served

theorem changes (h : Served s) : Changes Kind.tidy {} s := by
  have hsound {t : Store} (ht : Changes Kind.tidy {} t) : t.Sound := ht.sound (.empty true)
  induction h with
  | empty => exact .refl _
  | work _ calls ih => exact ih.trans (Session.workUnit_changes (hsound ih) calls)
  | seed _ command ih => exact ih.trans (Seed.transact_changes (hsound ih) command)
  | request _ config r ih => exact ih.trans ((serve_changes config r _).mono (by decide))

theorem sound (h : Served s) : s.Sound := h.changes.sound (.empty true)

theorem forest (h : Served s) : s.Forest := h.changes.forest (.empty true) (.empty true)

theorem hasTables (h : Served s) : s.hasTables = true := h.changes.hasTables

theorem enforces (h : Served s) : s.enforces = true := h.changes.enforces

end Served

end Api

end Multifiling
