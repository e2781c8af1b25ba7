import Registrar.Proofs.Criterion.Outline
import Registrar.Proofs.Lookup.Dialogue

/-!
Plans without values. What a lookup asks is planned from criteria, and a plan of outlines is the
outline of the plan, with the same events: the same candidates are split, in the same places
(`plan_outline`), and the same probes go into one chunk (`outline_chunks_congr`).
-/

namespace Registrar.Lookup

/-- The probe with the values blanked out. -/
def Probe.outline (p : Probe) : Probe := ⟨p.candidate, p.ask.outline, p.keep.outline⟩

variable {limit index : Nat} {c : Criterion} {cs : List Criterion}

theorem probesOfPart_outline (limit index : Nat) (part : Criterion) :
    probesOfPart limit index part.outline =
      (probesOfPart limit index part).map (List.map Probe.outline) := by
  rw [probesOfPart, probesOfPart, Criterion.cover_outline, Criterion.size_outline]
  cases part.cover (budget limit) with
  | none => rfl
  | some queries => simp [Except.map, Probe.outline, Function.comp_def]

theorem probesOfParts_outline (limit index : Nat) (parts : List Criterion) :
    probesOfParts limit index (parts.map Criterion.outline) =
      (probesOfParts limit index parts).map (List.map Probe.outline) := by
  induction parts with
  | nil => rfl
  | cons part parts ih =>
    rw [List.map_cons, probesOfParts, probesOfParts, probesOfPart_outline, ih]
    cases probesOfPart limit index part with
    | error e => rfl
    | ok probes => cases probesOfParts limit index parts <;> simp [Except.map]

theorem probesOf_outline (limit index : Nat) (c : Criterion) :
    probesOf limit index c.outline =
      (probesOf limit index c).map (Except.map (List.map Probe.outline)) := by
  rw [probesOf, probesOf, Criterion.isNever_outline, Criterion.size_outline,
    Criterion.disjuncts_outline, probesOfParts_outline]
  split
  · rfl
  · split
    · rfl
    · cases probesOfParts limit index c.disjuncts with
      | error e => rfl
      | ok probes => simp [Except.map, Noted.map]

/-- Planning from outlines notes the same events, and plans the outlines of the probes. -/
theorem planFrom_outline (limit index : Nat) (cs : List Criterion) :
    planFrom limit index (cs.map Criterion.outline) =
      (planFrom limit index cs).map (Except.map (List.map Probe.outline)) := by
  induction cs generalizing index with
  | nil => rfl
  | cons c cs ih =>
    rw [List.map_cons, planFrom, planFrom, probesOf_outline]
    simp only [Noted.andThen, Noted.map]
    cases (probesOf limit index c).value with
    | error e => rfl
    | ok probes =>
      simp only [Except.map, Noted.map, ih]
      cases (planFrom limit (index + 1) cs).value <;> simp

/-- The outline of the plan of a batch is the plan of its outlines. -/
theorem plan_outline (limit : Nat) (s : Selection) (batch : List Record) :
    (plan limit s batch).map (Except.map (List.map Probe.outline)) =
      planFrom limit 0 (batch.map fun a => (Criterion.ofCandidate s a).outline) := by
  rw [plan, ← planFrom_outline, List.map_map]
  rfl

theorem cutPlan_outline (limit : Nat) (planned : Except StoreError (List Probe)) :
    cutPlan limit (planned.map (List.map Probe.outline)) =
      (cutPlan limit planned).map (List.map (List.map Probe.outline)) := by
  match planned with
  | .error e => rfl
  | .ok [] => rfl
  | .ok (p :: probes) =>
    have hcut : Chunks.cut (budget limit) (·.ask.size) ((p :: probes).map Probe.outline) =
        (Chunks.cut (budget limit) (·.ask.size) (p :: probes)).map
          (List.map (List.map Probe.outline)) := by
      rw [Chunks.cut_map]
      simp only [Probe.outline, Criterion.size_outline]
    rw [List.map_cons] at hcut
    simp only [Except.map, List.map_cons, cutPlan, hcut]
    cases Chunks.cut (budget limit) (·.ask.size) (p :: probes) <;> rfl

/-- Batches whose criteria have the same outlines are cut into chunks of the same outlines. -/
theorem outline_chunks_congr (limit : Nat) {s : Selection} {batch batch' : List Record}
    (h : batch.map (fun a => (Criterion.ofCandidate s a).outline) =
      batch'.map fun a => (Criterion.ofCandidate s a).outline) :
    (chunks limit s batch).map (List.map (List.map Probe.outline)) =
      (chunks limit s batch').map (List.map (List.map Probe.outline)) := by
  have hplan : ∀ batch, (plan limit s batch).value.map (List.map Probe.outline) =
      (planFrom limit 0 (batch.map fun a => (Criterion.ofCandidate s a).outline)).value :=
    fun batch => congrArg Noted.value (plan_outline limit s batch)
  rw [chunks_eq, chunks_eq, ← cutPlan_outline, ← cutPlan_outline, hplan, hplan, h]

theorem request_map_outline (chunk : List Probe) :
    request (chunk.map Probe.outline) = (request chunk).outline := by
  rw [request, request, ← Criterion.disjoin_map_outline, List.map_map, List.map_map]
  rfl

end Registrar.Lookup
