import Multifiling.Proofs.Operation.Change

/-!
Insert counts only rise. This holds of every operation that is put together from the operations on
the store, on any rows and also where it fails, so undoing its work never makes an identifier come
up twice.
-/

namespace Multifiling.Operation
open Store

variable {α β : Type} {x : Operation α}

/-- An operation that takes back no insert count, whether it succeeds or fails. -/
def Counts (x : Operation α) : Prop := ∀ s, s.issued ≤ (x.after s).issued

namespace Counts

theorem pure (a : α) : Counts (pure a : Operation α) := fun s => s.issued.le_refl

theorem fail (e : Failure) : Counts (throw e : Operation α) := fun s => s.issued.le_refl

theorem read (f : Store → Except Failure α) : Counts (read f) := by
  intro s
  rw [after, run_read]
  cases f s <;> exact s.issued.le_refl

theorem get : Counts (get : Operation Store) := fun s => s.issued.le_refl

theorem bind {f : α → Operation β} (hx : Counts x) (hf : ∀ a, Counts (f a)) :
    Counts (x >>= f) := by
  intro s
  have h := hx s
  rw [after_bind]
  rw [after] at h
  cases hrun : x.run s with
  | ok a t =>
    rw [hrun] at h
    exact Issued.le_trans h (hf a t)
  | error e t =>
    rw [hrun] at h
    exact h

end Counts

theorem insertUser_counts (draft : UserDraft) : Counts (insertUser draft) :=
  fun s => (insertUser_after draft s).issued_le

theorem addChild_counts (parent child : Node) (type name : QName) (isPrimary : Bool)
    (atHand : AtHand) : Counts (addChild parent child type name isPrimary atHand) := by
  intro s
  have hlinking := addChild_linking s parent child type name isPrimary atHand
  rw [after]
  generalize (addChild parent child type name isPrimary atHand).run s = r at hlinking ⊢
  cases hlinking with
  | itself | linked | taken => exact s.issued.le_refl
  | refused | made => exact ⟨Nat.le_refl _, Nat.le_refl _, Nat.le_succ _⟩

theorem createNode_counts (new : NewNode) (parent : Option Node) (parentAtHand : Bool) :
    Counts (createNode new parent parentAtHand) := by
  -- `createNode_cases` does not help: it asks for a sound store
  intro s
  have hcreation := createNode_creation s new parent parentAtHand
  have hnode (n : Node) : s.issued ≤ (s.addNode n).issued :=
    ⟨Nat.le_refl _, Nat.le_succ _, Nat.le_refl _⟩
  have hboth (n : Node) : s.issued ≤ (s.addNode n).countAssociation.issued :=
    ⟨Nat.le_refl _, Nat.le_succ _, Nat.le_succ _⟩
  rw [after]
  generalize (createNode new parent parentAtHand).run s = r at hcreation ⊢
  cases hcreation with
  | noParent | misnamed => exact s.issued.le_refl
  | refused => exact ⟨Nat.le_refl _, Nat.le_succ _, Nat.le_refl _⟩
  | top => exact hnode _
  | linked _ _ h =>
    cases h with
    | made => exact hboth _
  | unlinked _ _ h =>
    cases h with
    | itself | linked | taken => exact hnode _
    | refused => exact hboth _

end Multifiling.Operation
