import Multifiling.Proofs.Api.UnitOfWork
import Multifiling.Proofs.Settings

/-!
Databases that are only filled by making nodes and by requests, under one configuration. Every
secondary association in them is of a known type (`Reached.typed`), so its type can be shown.
-/

namespace Multifiling

variable {s t : Store} {registry : Registry}

/-- Every secondary association is of a known type. -/
def Store.Typed (s : Store) (registry : Registry) : Prop :=
  ∀ a ∈ s.associations, a.isPrimary = false → ∃ q ∈ registry.types, a.type = q.fullForm

/-- What is there after a unit of work was there before, or the operation has left it. -/
theorem Operation.mem_transact {α : Type} {x : Operation α} {a : Association}
    (ha : a ∈ (x.transact s).2.associations) :
    a ∈ s.associations ∨ a ∈ (x.after s).associations := by
  rw [transact] at ha
  rw [after]
  cases hx : x.run s with
  | ok b t => rw [hx] at ha; exact .inr ha
  | error e t => rw [hx] at ha; exact .inl ha

namespace Api
open Store

variable {config : Config}

/-- The rows that a database can hold when it is only filled by units of work that make users and
nodes, and by requests. -/
inductive Reached (config : Config) : Store → Prop where
  | empty : Reached config {}
  | work {s : Store} (h : Reached config s) {calls : List Call}
    (hcalls : ∀ c ∈ calls, c.creates = true) : Reached config (Session.workUnit calls s)
  | request {s : Store} (h : Reached config s) (r : Request) :
    Reached config (serve config r s).2

/-- Requests only file children by known types. -/
theorem serve_typed (r : Request) (hs : s.Typed config.registry) :
    (serve config r s).2.Typed config.registry := by
  rw [serve_store]
  rcases respond_cases config r s with ⟨parent, -, -, hr⟩ | ⟨parent, child, -, -, hr⟩ | ⟨_, hr⟩
  · rw [hr, create_answered]
    cases readBody r.body with
    | error response => exact hs
    | ok body =>
      intro a ha hp
      rcases Operation.mem_transact ha with ha | ha
      · exact hs a ha hp
      rcases Filing.mem_create ha with ha | ⟨parent, item, htype, hbecame⟩
      · exact hs a ha hp
      · exact ⟨item.2, Filing.requiredType_mem htype, hbecame.type_eq⟩
  · rw [hr, delete_answered, answered_store]
    intro a ha hp
    rcases Operation.mem_transact ha with ha | ha
    · exact hs a ha hp
    · exact hs a ((Filing.delete_after ..).mem_secondary (by decide) ha hp) hp
  · rw [hr]
    exact hs

namespace Reached

theorem sound (h : Reached config s) : s.Sound := by
  induction h with
  | empty => exact .empty true
  | work _ _ ih => exact (Session.workUnit_changes ih _).sound ih
  | request _ r ih => exact (serve_changes config r _).sound ih

theorem typed (h : Reached config s) : s.Typed config.registry := by
  induction h with
  | empty => exact nofun
  | work h hcalls ih =>
    exact fun a ha hp => ih a (Session.workUnit_secondary h.sound hcalls ha hp) hp
  | request _ r ih => exact serve_typed r ih

end Reached

/-! ### Configurations -/

/-- A configuration that could be built from settings. -/
structure Config.Usable (config : Config) : Prop where
  built : config.registry.Built
  tidy : config.registry.Tidy
  defaultPageSize : 1 ≤ config.defaultPageSize
  maxPageSize : 1 ≤ config.maxPageSize

theorem builtIn_trimmed : ∀ entry ∈ ContentModel.namespaces, Text.Trimmed entry.1 := by
  have h : ∀ entry ∈ ContentModel.namespaces, entry.1 ≠ "" ∧
      Text.strip Text.isBlank entry.1.toList = entry.1.toList := by decide
  exact fun entry hentry => ⟨(h entry hentry).1, Text.strip_eq_self_iff.mp (h entry hentry).2⟩

/-- Whatever the environment held, the configuration of a process can be used. -/
theorem ofSettings_usable {settings : Settings} (hs : settings.Usable)
    (h : Config.ofSettings settings = .ok config) : config.Usable := by
  obtain ⟨registry, hbuild, rfl⟩ := map_eq_ok.mp h
  obtain ⟨hentries, hbuilt⟩ := Registry.build_ok hbuild
  refine ⟨hbuilt, fun entry hentry => ?_, hs.defaultPageSize, hs.maxPageSize⟩
  rw [hentries] at hentry
  rcases Entries.mem_putAll hentry with hentry | hentry
  · exact builtIn_trimmed entry ((Entries.mem_putAll hentry).resolve_left (List.not_mem_nil))
  · exact hs.namespaces entry hentry

end Api

end Multifiling
