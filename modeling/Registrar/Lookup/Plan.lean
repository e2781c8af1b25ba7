import Registrar.Criterion.Cover
import Registrar.Registry.Basic

/-!
What a lookup asks the registry. Each candidate that can have duplicates gets probes: its whole
criterion, if one query can bind its values, and else a cover of each of its disjuncts. What a
probe asks for may be weaker than the rule; what it keeps is the rule itself, so that a weakened
query widens no result. The plan depends on the candidates alone, never on an answer.
-/

namespace Registrar.Lookup

/-- A part of what is asked for one candidate. -/
structure Probe where
  /-- The place of the candidate in the batch. -/
  candidate : Nat
  /-- What the registry is asked for. -/
  ask : Criterion
  /-- What an answer has to satisfy. -/
  keep : Criterion

/-- How many values a query may bind beside the country. -/
def budget (limit : Nat) : Nat := limit - 1

/-- The probes for one disjunct of a candidate's criterion. -/
def probesOfPart (limit index : Nat) (part : Criterion) : Except StoreError (List Probe) :=
  match part.cover (budget limit) with
  | some queries => .ok (queries.map fun query => ⟨index, query, part⟩)
  | none => .error (.overLimit (part.size + 1) limit)

def probesOfParts (limit index : Nat) : List Criterion → Except StoreError (List Probe)
  | [] => .ok []
  | part :: parts =>
    match probesOfPart limit index part with
    | .error e => .error e
    | .ok probes => (probesOfParts limit index parts).map (probes ++ ·)

/-- The probes of a candidate with the given criterion. A criterion that had to be split is
noted. -/
def probesOf (limit index : Nat) (c : Criterion) : Noted (Except StoreError (List Probe)) :=
  if c.isNever then .quiet (.ok [])
  else if c.size ≤ budget limit then .quiet (.ok [⟨index, c, c⟩])
  else
    match probesOfParts limit index c.disjuncts with
    | .error e => .quiet (.error e)
    | .ok probes => ⟨[.candidateSplit index probes.length], .ok probes⟩

/-- The probes of candidates that stand in the batch from `index` on. -/
def planFrom (limit : Nat) : (index : Nat) → List Criterion →
    Noted (Except StoreError (List Probe))
  | _, [] => .quiet (.ok [])
  | index, c :: cs =>
    (probesOf limit index c).andThen fun
      | .error e => .quiet (.error e)
      | .ok probes => (planFrom limit (index + 1) cs).map fun rest => rest.map (probes ++ ·)

def plan (limit : Nat) (selection : Selection) (batch : List Record) :
    Noted (Except StoreError (List Probe)) :=
  planFrom limit 0 (batch.map (Criterion.ofCandidate selection))

/-- What the registry is asked for a chunk of probes. -/
def request (chunk : List Probe) : Criterion := Criterion.disjoin (chunk.map (·.ask))

end Registrar.Lookup
