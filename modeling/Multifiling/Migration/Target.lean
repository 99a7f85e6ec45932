import Multifiling.Migration
import Multifiling.Text.Numeral
import Multifiling.Text.Pieces
import Multifiling.Text.Word

/-!
Texts for stages. A name is `base`, `head`, `heads`, or a beginning of the revision's identifier; a
label before an `@` may say which branch is meant. Signed numbers of steps lead on from a name, or
from where the database stands. The base is no revision: steps up from it lead to the head, and
steps down from it begin at the head as well.
-/

namespace Multifiling.Migration

/-- Why a text leads to no stage. -/
inductive TargetError where
  /-- There is no such revision, or steps lead past the base or the head. -/
  | unknown
  /-- The text is understood, but stands for nothing where a revision has to be. -/
  | noRevision
  /-- A number of steps is too long to be read. -/
  | tooManyDigits
  deriving DecidableEq, Repr

/-- Checks that a text is a beginning of the revision's identifier. -/
def findRevision (beginning : String) : Except TargetError Unit :=
  if beginning = "" then .error .noRevision
  else if beginning.toList.isPrefixOf revision.toList then .ok ()
  else .error .unknown

/-- A name with the label in front of it. -/
structure Labelled where
  label : Option String
  name : String
  deriving DecidableEq, Repr

namespace Labelled

/-- Reads a name; the label ends at the first `@`. -/
def parse (text : String) : Labelled :=
  match Text.cutAt? '@' text.toList with
  | none => ⟨none, text⟩
  | some (label, name) => ⟨some (String.ofList label), String.ofList name⟩

/-- The label, unless it is empty. -/
def branch? (t : Labelled) : Option String := t.label.filter (· ≠ "")

/-- The identifier that a name gives a beginning of, none for the base. -/
def identifier? (t : Labelled) : Except TargetError (Option String) :=
  if t.name = "base" then .ok none
  else if t.name = "head" ∨ t.name = "heads" then do
    -- the head is looked for on the branch of the label, for which a word for a stage may stand too
    if let some branch := t.branch? then
      unless ["base", "head", "heads"].contains branch do findRevision branch
    return some revision
  else .ok (some t.name)

/-- The stage of a name. Name and label have to belong to revisions that are there. -/
def stage (t : Labelled) : Except TargetError Stage := do
  let identifier ← t.identifier?
  if let some branch := t.branch? then findRevision branch
  match identifier with
  | none => return .base
  | some beginning =>
    findRevision beginning
    return .head

end Labelled

/-- Where steps lead: to the revision, to right below it, or past either end. The base, if no step
is taken from it, is nowhere on the way. -/
inductive Landing where
  | revision
  | below
  | nowhere
  deriving DecidableEq, Repr

/-- Where steps down from a stage lead. -/
def walkDown (start : Stage) (steps : Nat) : Landing :=
  match start, steps with
  | .base, 0 => .nowhere
  | .head, 0 | .base, 1 => .revision
  | .head, 1 | .base, 2 => .below
  | _, _ => .nowhere

/-- Where steps up from a stage lead. A label is looked at by every step. -/
def walkUp (label : Option String) (start : Stage) (steps : Nat) : Except TargetError Landing := do
  match start, steps with
  | .base, 0 => return .nowhere
  | .head, 0 => return .revision
  | .base, n + 1 =>
    -- the label has to belong to the revision that the step reaches
    if let some label := label then discard (Labelled.parse label).stage
    return if n = 0 then .revision else .nowhere
  | .head, _ + 1 =>
    -- a step that reaches none only reads it
    if let some label := label then discard (Labelled.parse label).identifier?
    return .nowhere

/-- Where an absolute text leads, none if that is the base. In place of a name there may be a number
below zero. -/
def Labelled.landing? (t : Labelled) : Except TargetError (Option Landing) := do
  match ← t.identifier? with
  | none => return none
  | some beginning =>
    match Text.integer? beginning.toList with
    -- the number counts from the heads of the branch, and a labelled branch has none
    | some (.negSucc n) => return if t.label.isSome then none else some (walkDown .head (n + 1))
    | _ => (fun _ => some .revision) <$> t.stage

/-- A number of steps from a named stage, or from where the database stands. -/
structure RelativeTarget where
  label : Option String
  origin : Option String
  negative : Bool
  digits : List Char
  deriving DecidableEq, Repr

namespace RelativeTarget

/-- Reads a name if there is one, a sign and digits; what follows is passed over. -/
def parseSteps? (label : Option String) (cs : List Char) : Option RelativeTarget :=
  let name := cs.takeWhile Text.isWord
  let origin := if name.isEmpty then none else some (String.ofList name)
  match cs.dropWhile Text.isWord with
  | [] => none
  | sign :: rest =>
    let digits := rest.takeWhile Text.isDecimal
    if (sign = '+' ∨ sign = '-') ∧ !digits.isEmpty then some ⟨label, origin, sign = '-', digits⟩
    else none

/-- Reads a label, the shortest that steps follow; `label` is what is before, in reverse. A label is
not empty and stays on one line. -/
def parseLabelled? (label : List Char) : List Char → Option RelativeTarget
  | [] => none
  | c :: cs =>
    if c = '\n' then none
    else if c = '@' ∧ !label.isEmpty then
      parseSteps? (some (String.ofList label.reverse)) cs <|> parseLabelled? (c :: label) cs
    else parseLabelled? (c :: label) cs

/-- Reads a relative target, with or without a label. -/
def parse? (text : String) : Option RelativeTarget :=
  parseLabelled? [] text.toList <|> parseSteps? none text.toList

def steps (t : RelativeTarget) : Except TargetError Nat :=
  match Text.integer? t.digits with
  | some n => .ok n.toNat
  | none => .error .tooManyDigits

/-- The stage of the origin, on the branch of the label. -/
def originStage (t : RelativeTarget) (origin : String) : Except TargetError Stage :=
  (Labelled.parse (t.label.elim origin (· ++ "@" ++ origin))).stage

end RelativeTarget

/-- The revision, where it has to be. -/
def needRevision : Landing → Except TargetError Stage
  | .revision => .ok .head
  | .below | .nowhere => .error .noRevision

/-- The stage that so many steps lead up to. Without steps, or with steps down, there has to be a
name to count from. -/
def RelativeTarget.up (current : Stage) (t : RelativeTarget) : Except TargetError Stage := do
  let steps ← t.steps
  match t.origin, t.negative || steps = 0 with
  | none, true => throw .unknown
  | some origin, true => needRevision (walkDown (← t.originStage origin) steps)
  | some origin, false =>
    needRevision (← walkUp t.label (← (Labelled.parse origin).stage) steps)
  | none, false =>
    if let some label := t.label then discard (Labelled.parse label).stage
    if current = .base ∧ steps = 1 then return .head else throw .unknown

/-- The stage that a text leads up to from where the database stands. -/
def upgradeTarget (current : Stage) (text : String) : Except TargetError Stage := do
  match RelativeTarget.parse? text with
  | some t => t.up current
  | none =>
    match ← (Labelled.parse text).landing? with
    | none => return .base
    | some landing => needRevision landing

/-- The stage that so many steps lead down to. Steps up have to have a name to count from. -/
def RelativeTarget.down (current : Stage) (t : RelativeTarget) : Except TargetError Stage := do
  let steps ← t.steps
  let landing ← match t.origin, !t.negative || steps = 0 with
    | none, true => throw .unknown
    | some origin, true => walkUp t.label (← (Labelled.parse origin).stage) steps
    | some origin, false => pure (walkDown (← t.originStage origin) steps)
    | none, false =>
      match t.label, current with
      | none, .base => throw .unknown
      | none, .head => pure (walkDown .head steps)
      | some label, .base =>
        discard (Labelled.parse label).identifier?
        throw .noRevision
      | some label, .head =>
        discard (Labelled.parse label).stage
        pure (walkDown (← t.originStage revision) steps)
  match landing with
  | .revision => return .head
  | .below => return .base
  | .nowhere => throw .unknown

/-- The stage that a text leads down to from where the database stands. -/
def downgradeTarget (current : Stage) (text : String) : Except TargetError Stage := do
  let target ← match RelativeTarget.parse? text with
    | some t => t.down current
    | none =>
      -- of an absolute text only the name after the last `@` counts
      let name := (text.toList.reverse.takeWhile (· ≠ '@')).reverse
      (Labelled.mk none (String.ofList name)).stage
  -- the head is only there if the database stands at it
  if target = .head ∧ current = .base then throw .unknown else return target

/-- The stage that a stamp leads to. -/
def stampTarget (current : Stage) (text : String) : Except TargetError Stage := do
  let t := Labelled.parse text
  -- at the head the text has to belong to the revision
  if current = .head then discard t.stage
  match ← t.landing? with
  | none | some .nowhere => return .base
  | some .revision => return .head
  | some .below => throw .noRevision

/-- The stage that a text leads to; a database that stands there or further on stays as it is. -/
def target (action : Action) (current : Stage) (text : String) : Except TargetError Stage :=
  match action with
  | .upgrade => (upgradeTarget current text).map fun target =>
    if target = .base then current else target
  | .downgrade => downgradeTarget current text
  | .stamp => stampTarget current text

/-- The step that an action takes, none if the database stands at the target. -/
def plan (action : Action) (current : Stage) (text : String) : Except TargetError (Option Step) :=
  (target action current text).map fun target =>
    if target = current then none else some ⟨action, target⟩

end Multifiling.Migration
