import Registrar.Journal

/-!
Cutting work into chunks that each stay within a limit, and doing the chunks one after another. A
list is cut greedily: an item goes into the current chunk unless it would make it too heavy.
Weights, the limit and the running total are words of 64 bits, and a sum that is no word is the end
of the program.
-/

namespace Registrar

/-- Why a list was not cut. -/
inductive CutError
  /-- The limit leaves room for nothing. -/
  | noRoom
  | tooHeavy (weight limit : Nat)
  /-- A sum is past the last word. No caller gets to see this one: the program stops. -/
  | overflow
  deriving DecidableEq, Repr

def CutError.message : CutError → String
  | noRoom => "chunk limit must be greater than 0"
  | tooHeavy weight limit =>
    s!"a single item weighs {weight}, more than the chunk limit of {limit}"
  | overflow => "attempt to add with overflow"

namespace Chunks

variable {α β ε : Type}

/-! ### Cutting -/

/-- Cuts on, the current chunk weighing `total` already: what the current chunk still takes, and
the chunks after it. -/
def cutFrom (limit : Nat) (weight : α → Nat) :
    (total : Nat) → List α → Except CutError (List α × List (List α))
  | _, [] => .ok ([], [])
  | total, x :: xs =>
    if limit < weight x then .error (.tooHeavy (weight x) limit)
    else if UInt64.size ≤ total + weight x then .error .overflow
    else if limit < total + weight x then
      (cutFrom limit weight (weight x) xs).map fun (taken, later) => ([], (x :: taken) :: later)
    else
      (cutFrom limit weight (total + weight x) xs).map fun (taken, later) => (x :: taken, later)

/-- Cuts a list into chunks of at most the limit, in order. -/
def cut (limit : Nat) (weight : α → Nat) (items : List α) : Except CutError (List (List α)) :=
  if limit = 0 then .error .noRoom
  else (cutFrom limit weight 0 items).map fun (taken, later) =>
    if taken.isEmpty then later else taken :: later

/-! ### Doing the chunks -/

/-- Takes the steps one after another and stops behind the first one that fails. Each is told the
results of those before it, which begin with `done`. -/
def inTurn {m : Type → Type} [Monad m] {ι : Type} (step : List β → ι → m (Noted (Except ε β))) :
    (done : List β) → List ι → m (List (Noted (Except ε β)))
  | _, [] => pure []
  | done, i :: is => do
    let answer ← step done i
    match answer.value with
    | .error _ => return [answer]
    | .ok b => return answer :: (← inTurn step (done ++ [b]) is)

/-- The results of the steps, or the failure of the one that failed. -/
def results : List (Noted (Except ε β)) → Except ε (List β)
  | [] => .ok []
  | answer :: answers =>
    match answer.value with
    | .error e => .error e
    | .ok b => (results answers).map (b :: ·)

def events (answers : List (Noted (Except ε β))) : List Event := answers.flatMap (·.events)

/-- Cuts the items and takes a step for each chunk; a step is told the results before it and the
number of its chunk, from zero on. Nothing is done where the items cannot be cut. -/
def run {m : Type → Type} [Monad m] (limit : Nat) (weight : α → Nat)
    (step : List β → Nat → List α → m (Noted (Except ε β))) (items : List α) :
    m (Except CutError (List (Noted (Except ε β)))) :=
  match cut limit weight items with
  | .error e => pure (.error e)
  | .ok chunks => do
    return .ok (← inTurn (fun done (chunk, n) => step done n chunk) [] chunks.zipIdx)

end Chunks

end Registrar
