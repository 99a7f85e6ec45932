import Multifiling.Proofs.Text

/-!
Patterns of characters, matched with a whole text. A piece of a pattern takes one character of a
class, or a run of them: the longest one behind which the rest of the pattern matches, so that a run
gives characters back where it has to. A text counts as ended in front of a last line feed too.

Neither rule is felt in a pattern whose runs are followed by a character that they cannot hold:
there is nothing to give back (`match?_run_one`), and a last run that may hold line feeds takes the
one at the end as well (`match?_run`, `match?_one_run`).
-/

namespace Multifiling.Text

/-- A piece of a pattern: one character of a class, or a run of such characters. -/
inductive Piece where
  | one (p : Char → Bool)
  | run (p : Char → Bool)

/-- Whether a text is at its end: nothing is left of it but a line feed. -/
def atEnd (cs : List Char) : Bool := cs = [] || cs = ['\n']

/-- The longest run at the front of a text behind which `next` succeeds, with what `next` gives. -/
def longestRun {α : Type} (p : Char → Bool) (next : List Char → Option α) :
    List Char → Option (List Char × α)
  | [] => (next []).map ([], ·)
  | c :: cs =>
    if p c then
      match longestRun p next cs with
      | some (run, a) => some (c :: run, a)
      -- no longer run will do, so the character is given back
      | none => (next (c :: cs)).map ([], ·)
    else (next (c :: cs)).map ([], ·)

/-- What each piece of a pattern takes of a text, if the pattern matches it. -/
def match? : List Piece → List Char → Option (List (List Char))
  | [], cs => if atEnd cs then some [] else none
  | .one _ :: _, [] => none
  | .one p :: pieces, c :: cs => if p c then (match? pieces cs).map ([c] :: ·) else none
  | .run p :: pieces, cs =>
    (longestRun p (match? pieces) cs).map fun (run, parts) => run :: parts

variable {α : Type} {p q : Char → Bool} {next : List Char → Option α} {pieces : List Piece}

/-- A run that never has to be given back goes on up to the first other character. -/
theorem longestRun_of_ended (h : ∀ c cs, p c = true → next (c :: cs) = none) (cs : List Char) :
    longestRun p next cs = (next (cs.dropWhile p)).map (cs.takeWhile p, ·) := by
  induction cs with
  | nil => rfl
  | cons c cs ih =>
    rw [longestRun]
    cases hc : p c with
    | false =>
      rw [List.dropWhile_cons_of_neg (by simp [hc]), List.takeWhile_cons_of_neg (by simp [hc])]
      rfl
    | true =>
      rw [List.dropWhile_cons_of_pos hc, List.takeWhile_cons_of_pos hc, ih, if_pos rfl]
      cases next (cs.dropWhile p) with
      | none => simp [h c cs hc]
      | some a => rfl

theorem match?_one_cons (c : Char) (cs : List Char) :
    match? (.one q :: pieces) (c :: cs) =
      if q c then (match? pieces cs).map ([c] :: ·) else none := rfl

/-- A run in front of a character that it cannot hold ends there. -/
theorem match?_run_one (hsep : ∀ c, p c = true → q c = false) (cs : List Char) :
    match? (.run p :: .one q :: pieces) cs =
      (match? (.one q :: pieces) (cs.dropWhile p)).map (cs.takeWhile p :: ·) := by
  rw [match?, longestRun_of_ended]
  · cases match? (.one q :: pieces) (cs.dropWhile p) <;> rfl
  · intro c cs hc
    rw [match?_one_cons, hsep c hc, if_neg Bool.false_ne_true]

/-- A last run that may hold line feeds matches just what it can hold as a whole. -/
theorem match?_run (hfeed : p '\n' = true) (cs : List Char) :
    match? [.run p] cs = if cs.all p then some [cs] else none := by
  have hrun : longestRun p (match? []) cs = if cs.all p then some (cs, []) else none := by
    induction cs with
    | nil => rfl
    | cons c cs ih =>
      rw [longestRun, List.all_cons, ih]
      cases hc : p c with
      | false =>
        -- the text does not end here, since a line feed would belong to the run
        have hne : c ≠ '\n' := by
          rintro rfl
          rw [hfeed] at hc
          cases hc
        simp [match?, atEnd, hne]
      | true =>
        cases hall : cs.all p with
        | true => rfl
        | false =>
          have hne : cs ≠ [] := by
            rintro rfl
            cases hall
          simp [match?, atEnd, hne]
  rw [match?, hrun]
  split <;> rfl

/-- What a pattern takes of characters that are not empty: the first of them, and the rest. -/
def firstAndRest (cs : List Char) : List (List Char) := [cs.take 1, cs.drop 1]

theorem firstAndRest_inj {cs ds : List Char} : firstAndRest cs = firstAndRest ds ↔ cs = ds := by
  constructor
  · intro h
    simp only [firstAndRest, List.cons.injEq, and_true] at h
    rw [← List.take_append_drop 1 cs, h.1, h.2, List.take_append_drop]
  · rintro rfl
    rfl

theorem match?_one_run (hfeed : p '\n' = true) (cs : List Char) :
    match? [.one q, .run p] cs =
      if cs.head?.any q && cs.tail.all p then some (firstAndRest cs) else none := by
  cases cs with
  | nil => rfl
  | cons c cs =>
    rw [match?_one_cons, match?_run hfeed]
    cases hc : q c <;> cases hcs : cs.all p <;> simp [hc, hcs, firstAndRest]

/-- The last line feed, which a run of other characters leaves, does not keep a pattern from
matching. -/
example : match? [.run (· ≠ '\n')] "ab\n".toList = some ["ab".toList] := by decide

end Multifiling.Text
