import Mathlib.Data.List.Forall2

/-!
Reading the elements of a list one by one, where the first failure counts: what a reading that
succeeds says of every element, and what one that fails says of some element.
-/

namespace Multifiling

variable {ε α β γ : Type} {f : α → Except ε β} {xs : List α} {ys : List β} {x : α} {e : ε}

theorem forall₂_of_mem_right {R : α → β → Prop} {y : β} (h : List.Forall₂ R xs ys) (hy : y ∈ ys) :
    ∃ x ∈ xs, R x y := by
  induction h with
  | nil => cases hy
  | @cons x z _ _ hR _ ih =>
    rcases List.mem_cons.mp hy with rfl | hy
    · exact ⟨x, List.mem_cons_self, hR⟩
    · obtain ⟨w, hw, hR⟩ := ih hy
      exact ⟨w, List.mem_cons_of_mem x hw, hR⟩

/-- Pairs that are related stay so if some are taken out. -/
theorem forall₂_filter {R : α → β → Prop} (p : α → Bool) (h : List.Forall₂ R xs ys) :
    List.Forall₂ R (xs.filter p) (((xs.zip ys).filter fun pair => p pair.1).map Prod.snd) := by
  induction h with
  | nil => exact .nil
  | @cons x y _ _ hR _ ih =>
    cases hx : p x with
    | true =>
      simp only [List.zip_cons_cons, List.filter_cons, hx, if_true, List.map_cons]
      exact .cons hR ih
    | false =>
      simp only [List.zip_cons_cons, List.filter_cons, hx, Bool.false_eq_true, if_false]
      exact ih

theorem exists_ok_of_isOk {r : Except ε α} (h : r.isOk = true) : ∃ x, r = .ok x := by
  cases r with
  | error e => cases h
  | ok x => exact ⟨x, rfl⟩

theorem map_eq_ok {g : α → β} {r : Except ε α} {y : β} :
    r.map g = .ok y ↔ ∃ x, r = .ok x ∧ g x = y := by
  cases r with
  | error e => exact ⟨nofun, nofun⟩
  | ok x => simp [Except.map]

theorem bind_eq_ok {r : Except ε α} {y : β} : r >>= f = .ok y ↔ ∃ x, r = .ok x ∧ f x = .ok y := by
  cases r with
  | error e => exact ⟨nofun, nofun⟩
  | ok x => exact ⟨fun h => ⟨x, rfl, h⟩, by rintro ⟨_, hx, h⟩; cases hx; exact h⟩

theorem mapM_cons_of_ok {y : β} (h : f x = .ok y) :
    (x :: xs).mapM f = (xs.mapM f).map (y :: ·) := by
  rw [List.mapM_cons, h]
  rfl

theorem mapM_cons_of_error (h : f x = .error e) : (x :: xs).mapM f = .error e := by
  rw [List.mapM_cons, h]
  rfl

/-- A list is read if its elements are, one to one. -/
theorem mapM_ok_iff : xs.mapM f = .ok ys ↔ List.Forall₂ (fun x y => f x = .ok y) xs ys := by
  induction xs generalizing ys with
  | nil =>
    rw [List.mapM_nil, List.forall₂_nil_left_iff]
    exact ⟨fun h => by cases h; rfl, fun h => by rw [h]; rfl⟩
  | cons x rest ih =>
    rw [List.forall₂_cons_left_iff]
    cases hx : f x with
    | error e => simp [mapM_cons_of_error hx]
    | ok y =>
      rw [mapM_cons_of_ok hx]
      constructor
      · intro h
        cases hr : rest.mapM f with
        | error e => rw [hr] at h; cases h
        | ok later =>
          rw [hr] at h
          cases h
          exact ⟨y, later, rfl, ih.mp hr, rfl⟩
      · rintro ⟨z, later, hz, hr, rfl⟩
        cases hz
        rw [ih.mpr hr]
        rfl

/-- What is done to every result can be done where it is read. -/
theorem map_mapM (f : α → Except ε β) (g : β → γ) (xs : List α) :
    (xs.mapM f).map (List.map g) = xs.mapM fun x => (f x).map g := by
  induction xs with
  | nil => rfl
  | cons x rest ih =>
    cases hx : f x with
    | error e => rw [mapM_cons_of_error hx, mapM_cons_of_error (by rw [hx]; rfl)]; rfl
    | ok y =>
      rw [mapM_cons_of_ok hx, mapM_cons_of_ok (y := g y) (by rw [hx]; rfl), ← ih]
      cases rest.mapM f <;> rfl

/-- A list that cannot be read fails at the first element that cannot. -/
theorem mapM_error_first (h : xs.mapM f = .error e) :
    ∃ before x after, xs = before ++ x :: after ∧ (∀ w ∈ before, ∃ y, f w = .ok y) ∧
      f x = .error e := by
  induction xs with
  | nil => cases h
  | cons x rest ih =>
    cases hx : f x with
    | error e' =>
      rw [mapM_cons_of_error hx] at h
      cases h
      exact ⟨[], x, rest, rfl, nofun, hx⟩
    | ok y =>
      rw [mapM_cons_of_ok hx] at h
      cases hr : rest.mapM f with
      | ok later => rw [hr] at h; cases h
      | error e' =>
        rw [hr] at h
        cases h
        obtain ⟨before, z, after, rfl, hbefore, hz⟩ := ih hr
        refine ⟨x :: before, z, after, rfl, fun w hw => ?_, hz⟩
        rcases List.mem_cons.mp hw with rfl | hw
        · exact ⟨y, hx⟩
        · exact hbefore w hw

theorem mapM_of_error_first {before after : List α} (hbefore : ∀ w ∈ before, ∃ y, f w = .ok y)
    (hx : f x = .error e) : (before ++ x :: after).mapM f = .error e := by
  induction before with
  | nil => exact mapM_cons_of_error hx
  | cons w rest ih =>
    obtain ⟨⟨y, hy⟩, hrest⟩ := List.forall_mem_cons.mp hbefore
    rw [List.cons_append, mapM_cons_of_ok hy, ih hrest]
    rfl

theorem mapM_error (h : xs.mapM f = .error e) : ∃ x ∈ xs, f x = .error e := by
  obtain ⟨before, x, after, rfl, -, hx⟩ := mapM_error_first h
  exact ⟨x, by simp, hx⟩

/-- A list can be read if each of its elements can. -/
theorem exists_mapM_ok_iff : (∃ ys, xs.mapM f = .ok ys) ↔ ∀ x ∈ xs, ∃ y, f x = .ok y := by
  constructor
  · rintro ⟨ys, h⟩ x hx
    obtain ⟨i, hi, rfl⟩ := List.getElem_of_mem hx
    have hall := mapM_ok_iff.mp h
    exact ⟨_, hall.get hi (hall.length_eq ▸ hi)⟩
  · intro hall
    cases h : xs.mapM f with
    | ok ys => exact ⟨ys, rfl⟩
    | error e =>
      obtain ⟨x, hx, he⟩ := mapM_error h
      obtain ⟨y, hy⟩ := hall x hx
      rw [hy] at he
      cases he

end Multifiling
