import Registrar.Criterion.Basic

/-!
Covers. A query may bind a bounded number of values only. A cover of a criterion is a list of
criteria that each stay within the bound and together match at least the records of the criterion.
A disjunction is covered part by part. A conjunction is weakened: the parts that fit are kept, and
where none fits whole, the shortest cover of a single part will do.
-/

namespace Registrar.Criterion

/-- The parts of a conjunction that fit into what is left of the budget, taken greedily. -/
def within : Nat → List Criterion → List Criterion
  | _, [] => []
  | budget, c :: cs =>
    if c.size ≤ budget then c :: within (budget - c.size) cs else within budget cs

/-- The first of the shortest lists. -/
def shortest {α : Type} : List (List α) → Option (List α)
  | [] => none
  | l :: ls =>
    match shortest ls with
    | some m => if m.length < l.length then some m else some l
    | none => some l

mutual

/-- Criteria of at most `budget` values each that together match what the criterion matches; none,
where not even one equation fits. -/
def cover (budget : Nat) : Criterion → Option (List Criterion)
  | never => some [never]
  | equals f v => if 1 ≤ budget then some [equals f v] else none
  | any parts =>
    if (any parts).size ≤ budget then some [any parts]
    else coverEach budget parts
  | all parts =>
    if (all parts).size ≤ budget then some [all parts]
    else match within budget parts with
      | [] => shortest (coverSome budget parts)
      | kept => some [conjoin kept]

def coverEach (budget : Nat) : List Criterion → Option (List Criterion)
  | [] => some []
  | c :: cs =>
    match cover budget c, coverEach budget cs with
    | some first, some rest => some (first ++ rest)
    | _, _ => none

def coverSome (budget : Nat) : List Criterion → List (List Criterion)
  | [] => []
  | c :: cs =>
    match cover budget c with
    | some first => first :: coverSome budget cs
    | none => coverSome budget cs

end

theorem coverSome_eq (budget : Nat) (cs : List Criterion) :
    coverSome budget cs = cs.filterMap (cover budget) := by
  induction cs with
  | nil => rfl
  | cons c cs ih =>
    rw [coverSome, List.filterMap_cons]
    cases cover budget c <;> simp [ih]

/-- What fits is its own cover. -/
theorem cover_of_size_le {budget : Nat} {c : Criterion} (h : c.size ≤ budget) :
    cover budget c = some [c] := by
  cases c with
  | never => simp [cover]
  | equals f v => simp only [size_equals] at h; simp [cover, h]
  | any parts => rw [cover, if_pos h]
  | all parts => rw [cover, if_pos h]

end Registrar.Criterion
