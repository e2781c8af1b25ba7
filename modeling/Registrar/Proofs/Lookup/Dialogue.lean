import Registrar.Proofs.Lookup.Run
import Registrar.Proofs.Registry.Dialogue

/-!
A lookup as a dialogue with the registry. The chunks that a lookup goes through are known before the
first query; what it asks is one query for each of them, in their order, until one fails
(`exchanges_eq`), and its outcome is what the answers make of the chunks (`value_run_eq`). That the
exchanges are told at all changes nothing about the lookup (`run_watched`).
-/

namespace Registrar.Lookup

/-- The chunks that a lookup goes through, or why it goes through none. -/
def chunks (limit : Nat) (s : Selection) (batch : List Record) :
    Except StoreError (List (List Probe)) :=
  match (plan limit s batch).value with
  | .error e => .error e
  | .ok [] => .ok []
  | .ok probes =>
    match Chunks.cut (budget limit) (·.ask.size) probes with
    | .error cause => .error (.chunking cause)
    | .ok chunks => .ok chunks

theorem chunks_eq (limit : Nat) (s : Selection) (batch : List Record) :
    chunks limit s batch = cutPlan limit (plan limit s batch).value := by
  unfold chunks cutPlan
  rfl

theorem chunks_eq_ok {limit : Nat} {s : Selection} {batch : List Record} {cs : List (List Probe)}
    (h : chunks limit s batch = .ok cs) :
    ∃ probes, (plan limit s batch).value = .ok probes ∧ cs.flatten = probes ∧
      (cs ≠ [] → Chunks.cut (budget limit) (·.ask.size) probes = .ok cs) := by
  unfold chunks at h
  split at h
  · cases h
  · next hplan =>
    cases h
    exact ⟨[], hplan, rfl, fun h => absurd rfl h⟩
  · next probes _ hplan =>
    split at h
    · cases h
    · next cs' hcut =>
      cases h
      exact ⟨probes, hplan, Chunks.flatten_cut hcut, fun _ => hcut⟩

/-- What is asked for chunks, one query for each. -/
def queriesOf (country : String) (chunks : List (List Probe)) : List Query :=
  chunks.map fun chunk => ⟨country, request chunk⟩

/-- What a lookup asks as long as no query fails. -/
def queries (limit : Nat) (s : Selection) (country : String) (batch : List Record) : List Query :=
  match chunks limit s batch with
  | .error _ => []
  | .ok chunks => queriesOf country chunks

variable {σ : Type}

/-- What a lookup asks, with the answers. -/
def exchanges (registry : Registry (StateM σ)) (s : Selection) (country : String)
    (batch : List Record) (st : σ) : List Exchange :=
  ((run registry.watched s country batch).run (st, [])).2.2

/-- Asks for a chunk with its number, whatever was answered before. -/
def turn (registry : Registry (StateM σ)) (country : String)
    (_ : List (List Probe × List Record)) (i : List Probe × Nat) :
    StateM σ (Noted (Except StoreError (List Probe × List Record))) :=
  askChunk registry country i.2 i.1

variable (registry : Registry (StateM σ)) (country : String) (s : Selection) (batch : List Record)
  (st : σ) (past : List Exchange) (done : List (List Probe × List Record))

/-! ### Chunks in turn -/

theorem run_turn (i : List Probe × Nat) :
    ((turn registry country done i).run st).1.value =
        (registry.reply ⟨country, request i.1⟩ st).1.map (i.1, ·) ∧
      ((turn registry country done i).run st).2 =
        (registry.reply ⟨country, request i.1⟩ st).2 := by
  unfold turn askChunk Registry.reply
  simp only [StateT.run_bind]
  rcases (registry.find country (request i.1)).run st with ⟨⟨events, answer⟩, st'⟩
  cases answer <;> exact ⟨rfl, rfl⟩

theorem run_turn_watched (i : List Probe × Nat) :
    (turn registry.watched country done i).run (st, past) =
      (((turn registry country done i).run st).1, ((turn registry country done i).run st).2,
        past ++ [⟨⟨country, request i.1⟩, (registry.reply ⟨country, request i.1⟩ st).1⟩]) := by
  unfold turn askChunk Registry.reply Registry.watched
  simp only [StateT.run_bind]
  rcases h : (registry.find country (request i.1)).run st with ⟨⟨events, answer⟩, st'⟩
  cases answer <;> simp [h] <;> rfl

/-- The results of chunks in turn are the rows of the dialogue, with the chunks. -/
theorem results_inTurn (is : List (List Probe × Nat)) :
    Chunks.results ((Chunks.inTurn (turn registry country) done is).run st).1 =
      (Exchange.outcome (registry.dialogue (queriesOf country (is.map (·.1))) st)).map
        ((is.map (·.1)).zip ·) := by
  induction is generalizing st done with
  | nil => rfl
  | cons i is ih =>
    obtain ⟨hvalue, hstate⟩ := run_turn registry country st done i
    rw [List.map_cons, queriesOf, List.map_cons, ← queriesOf, Registry.dialogue]
    cases hr : (registry.reply ⟨country, request i.1⟩ st).1 with
    | error e =>
      rw [hr] at hvalue
      rw [Chunks.run_inTurn_error hvalue, Chunks.results_cons_error hvalue]
      rfl
    | ok rows =>
      rw [hr] at hvalue
      rw [Chunks.run_inTurn_ok hvalue, Chunks.results_cons_ok hvalue, hstate, ih]
      dsimp only
      rw [Exchange.outcome_cons_ok rfl]
      cases Exchange.outcome (registry.dialogue (queriesOf country (is.map (·.1)))
        (registry.reply ⟨country, request i.1⟩ st).2) <;> rfl

theorem run_inTurn_watched (is : List (List Probe × Nat)) :
    (Chunks.inTurn (turn registry.watched country) done is).run (st, past) =
      (((Chunks.inTurn (turn registry country) done is).run st).1,
        ((Chunks.inTurn (turn registry country) done is).run st).2,
        past ++ registry.dialogue (queriesOf country (is.map (·.1))) st) := by
  induction is generalizing st past done with
  | nil => simp only [List.map_nil, queriesOf, Registry.dialogue, List.append_nil]; rfl
  | cons i is ih =>
    obtain ⟨hvalue, hstate⟩ := run_turn registry country st done i
    have hw := run_turn_watched registry country st past done i
    have hsame : ((turn registry.watched country done i).run (st, past)).1 =
        ((turn registry country done i).run st).1 := by rw [hw]
    rw [List.map_cons, queriesOf, List.map_cons, ← queriesOf, Registry.dialogue]
    cases hr : (registry.reply ⟨country, request i.1⟩ st).1 with
    | error e =>
      rw [hr] at hvalue hw
      rw [Chunks.run_inTurn_error hvalue, Chunks.run_inTurn_error (hsame ▸ hvalue), hw]
    | ok rows =>
      rw [hr] at hvalue hw
      rw [Chunks.run_inTurn_ok hvalue, Chunks.run_inTurn_ok (hsame ▸ hvalue), hw, ih, hstate,
        List.append_assoc]
      rfl

/-! ### Lookups -/

theorem value_run_eq :
    ((run registry s country batch).run st).1.value =
      match chunks registry.limit s batch with
      | .error e => .error e
      | .ok chunks =>
        (Exchange.outcome (registry.dialogue (queriesOf country chunks) st)).map fun rowss =>
          shareOut batch (chunks.zip rowss) := by
  unfold run chunks
  dsimp only
  cases (plan registry.limit s batch).value with
  | error e => rfl
  | ok probes =>
    cases probes with
    | nil => rfl
    | cons p probes =>
      dsimp only
      unfold Chunks.run
      cases Chunks.cut (budget registry.limit) (·.ask.size) (p :: probes) with
      | error cause => rfl
      | ok chunks =>
        have hresults := results_inTurn registry country st [] chunks.zipIdx
        rw [List.zipIdx_map_fst] at hresults
        show (Chunks.results
          ((Chunks.inTurn (turn registry country) [] chunks.zipIdx).run st).1).map
            (shareOut batch) = _
        rw [hresults]
        dsimp only
        cases Exchange.outcome (registry.dialogue (queriesOf country chunks) st) <;> rfl

/-- Watching a lookup changes nothing; what is seen is its dialogue. -/
theorem run_watched :
    (run registry.watched s country batch).run (st, past) =
      (((run registry s country batch).run st).1, ((run registry s country batch).run st).2,
        past ++ registry.dialogue (queries registry.limit s country batch) st) := by
  have hlimit : registry.watched.limit = registry.limit := rfl
  unfold run queries chunks
  rw [hlimit]
  dsimp only
  cases (plan registry.limit s batch).value with
  | error e => simp [Registry.dialogue]; rfl
  | ok probes =>
    cases probes with
    | nil => simp [queriesOf, Registry.dialogue]; rfl
    | cons p probes =>
      dsimp only
      unfold Chunks.run
      cases Chunks.cut (budget registry.limit) (·.ask.size) (p :: probes) with
      | error cause => simp [Registry.dialogue]; rfl
      | ok chunks =>
        have hturns := run_inTurn_watched registry country st past [] chunks.zipIdx
        rw [List.zipIdx_map_fst] at hturns
        unfold turn at hturns
        simp only [StateT.run_bind]
        rw [hturns]
        rfl

theorem exchanges_eq : exchanges registry s country batch st =
    registry.dialogue (queries registry.limit s country batch) st := by
  rw [exchanges, run_watched]
  rfl

end Registrar.Lookup
