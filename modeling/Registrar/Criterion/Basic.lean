import Registrar.Record
import Registrar.Selection

/-!
A criterion says which records count as duplicates of one candidate: an equation between a field
and a value of the candidate, or criteria joined by all or any. A candidate that lacks what a part
asks for makes that part match nothing, and an empty part matches nothing either, so that no rule
ever matches everything.
-/

namespace Registrar

/-- What a record has to satisfy. -/
inductive Criterion
  /-- No record. -/
  | never
  /-- The records whose field, in normal form, is the value, and not empty. -/
  | equals (field : Field) (value : String)
  /-- The records that one of the parts matches. -/
  | any (parts : List Criterion)
  /-- The records that every part matches, if there is a part. -/
  | all (parts : List Criterion)
  deriving Repr, BEq

namespace Criterion

/-- The criterion without records. -/
def isNever : Criterion → Bool
  | never => true
  | _ => false

mutual

def holds (r : Record) : Criterion → Bool
  | never => false
  | equals f v => r.normalValue? f == some v
  | any parts => holdsAny r parts
  | all parts => !parts.isEmpty && holdsAll r parts

def holdsAny (r : Record) : List Criterion → Bool
  | [] => false
  | c :: cs => holds r c || holdsAny r cs

def holdsAll (r : Record) : List Criterion → Bool
  | [] => true
  | c :: cs => holds r c && holdsAll r cs

end

theorem holdsAny_eq (r : Record) (cs : List Criterion) : holdsAny r cs = cs.any (holds r) := by
  induction cs with
  | nil => rfl
  | cons c cs ih => simp [holdsAny, ih]

theorem holdsAll_eq (r : Record) (cs : List Criterion) : holdsAll r cs = cs.all (holds r) := by
  induction cs with
  | nil => rfl
  | cons c cs ih => simp [holdsAll, ih]

@[simp] theorem holds_never (r : Record) : holds r never = false := by simp [holds]

@[simp] theorem holds_equals (r : Record) (f : Field) (v : String) :
    holds r (equals f v) = (r.normalValue? f == some v) := by simp [holds]

@[simp] theorem holds_any (r : Record) (cs : List Criterion) :
    holds r (any cs) = cs.any (holds r) := by rw [holds, holdsAny_eq]

@[simp] theorem holds_all (r : Record) (cs : List Criterion) :
    holds r (all cs) = (!cs.isEmpty && cs.all (holds r)) := by rw [holds, holdsAll_eq]

mutual

/-- The values that the equations of a criterion name, from left to right. -/
def values : Criterion → List String
  | never => []
  | equals _ v => [v]
  | any parts | all parts => valuesList parts

def valuesList : List Criterion → List String
  | [] => []
  | c :: cs => values c ++ valuesList cs

end

theorem valuesList_eq (cs : List Criterion) : valuesList cs = cs.flatMap values := by
  induction cs with
  | nil => rfl
  | cons c cs ih => simp [valuesList, ih]

/-- How many values a query for the criterion binds. -/
def size (c : Criterion) : Nat := c.values.length

@[simp] theorem size_never : size never = 0 := by simp [size, values]

@[simp] theorem size_equals (f : Field) (v : String) : size (equals f v) = 1 := by
  simp [size, values]

/-! ### Joining -/

/-- The parts that a criterion contributes to a conjunction. -/
def conjuncts : Criterion → List Criterion
  | all parts => parts
  | c => [c]

/-- The parts that a criterion contributes to a disjunction. -/
def alternatives : Criterion → List Criterion
  | never => []
  | any parts => parts
  | c => [c]

/-- The conjunction of criteria, nested ones opened. One part that matches nothing makes the whole
match nothing. -/
def conjoin (cs : List Criterion) : Criterion :=
  if cs.isEmpty || cs.any isNever then never
  else match cs.flatMap conjuncts with
    | [c] => c
    | parts => all parts

/-- The disjunction of criteria, nested ones opened and those that match nothing left out. -/
def disjoin (cs : List Criterion) : Criterion :=
  match cs.flatMap alternatives with
  | [] => never
  | [c] => c
  | parts => any parts

def join : Connective → List Criterion → Criterion
  | .all => conjoin
  | .any => disjoin

/-- Equality with the candidate in one field; nothing, where the candidate has no value. -/
def ofField (candidate : Record) (f : Field) : Criterion :=
  match candidate.normalValue? f with
  | some v => equals f v
  | none => never

def ofGroup (candidate : Record) (g : FieldGroup) : Criterion :=
  join g.connective (g.fields.map (ofField candidate))

/-- The rule "this record is a duplicate of the candidate" under a selection. -/
def ofCandidate (selection : Selection) (candidate : Record) : Criterion :=
  join selection.connective (selection.groups.map (ofGroup candidate))

/-- The parts of a criterion that can be asked for one by one. -/
def disjuncts : Criterion → List Criterion
  | any parts => parts
  | c => [c]

end Criterion

/-- The second record is a duplicate of the first one. -/
def isDuplicate (selection : Selection) (a b : Record) : Bool :=
  (Criterion.ofCandidate selection a).holds b

end Registrar
