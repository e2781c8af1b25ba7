import Registrar.Proofs.Chunks
import Registrar.Proofs.Lookup.Answers

/-!
What a lookup ensures, whatever the registry is: if it ends with lists, then these share out answers
to the chunks of its plan, one for each chunk (`ensures_run_answers`), so that all probes are
answered, and each answer is one that the registry gave (`ensures_run`). The weights that the chunks
are cut by are the sizes of the requests (`size_request`), and no request is larger than the budget
(`size_request_le`).
-/

namespace Registrar.Lookup

theorem size_request (chunk : List Probe) :
    (request chunk).size = (chunk.map (·.ask.size)).sum := by
  simp [request, Function.comp_def]

theorem size_request_le {limit : Nat} {probes : List Probe} {chunks : List (List Probe)}
    (hcut : Chunks.cut (budget limit) (·.ask.size) probes = .ok chunks) {chunk : List Probe}
    (hchunk : chunk ∈ chunks) : (request chunk).size ≤ budget limit := by
  rw [size_request]
  exact Chunks.sum_le_of_cut hcut chunk hchunk

/-- A plan that can be afforded one by one is cut, if all values together fit a word. -/
theorem exists_cut_plan {limit : Nat} {s : Selection} {batch : List Record} {probes : List Probe}
    (hb : budget limit ≠ 0) (hplan : (plan limit s batch).value = .ok probes)
    (hsize : (batch.map fun a => (Criterion.ofCandidate s a).size).sum < UInt64.size) :
    ∃ chunks, Chunks.cut (budget limit) (·.ask.size) probes = .ok chunks := by
  refine Chunks.exists_cut hb (fun p hp => size_le_of_mem_plan hplan hp) (.inl ?_)
  refine Nat.lt_of_le_of_lt (sum_planFrom_le hplan) ?_
  simpa [Function.comp_def] using hsize

variable {σ : Type} {registry : Registry (StateM σ)} {country : String} {s : Selection}
  {batch : List Record} {probes : List Probe}

def cutPlan (limit : Nat) : Except StoreError (List Probe) → Except StoreError (List (List Probe))
  | .error e => .error e
  | .ok [] => .ok []
  | .ok probes =>
    match Chunks.cut (budget limit) (·.ask.size) probes with
    | .error cause => .error (.chunking cause)
    | .ok chunks => .ok chunks

theorem flatten_cutPlan {limit : Nat} {chunks : List (List Probe)}
    (h : cutPlan limit (.ok probes) = .ok chunks) : chunks.flatten = probes := by
  unfold cutPlan at h
  split at h
  · cases h
  · next e =>
    cases e
    cases h
    rfl
  · next e =>
    cases e
    split at h
    · cases h
    · next hcut =>
      cases h
      exact Chunks.flatten_cut hcut

theorem cutPlan_of_cut {limit : Nat} {chunks : List (List Probe)} (hne : probes ≠ [])
    (hcut : Chunks.cut (budget limit) (·.ask.size) probes = .ok chunks) :
    cutPlan limit (.ok probes) = .ok chunks := by
  cases probes with
  | nil => exact absurd rfl hne
  | cons p probes =>
    unfold cutPlan
    dsimp only
    rw [hcut]

theorem ensures_askChunk {P : σ → Prop} {Q : List Record → σ → Prop} {F : StoreError → σ → Prop}
    {chunk : List Probe} (n : Nat)
    (h : Ensures P (registry.find country (request chunk)) fun answer st =>
      (∀ rows, answer.value = .ok rows → Q rows st) ∧ ∀ e, answer.value = .error e → F e st) :
    Ensures P (askChunk registry country n chunk) fun answer st =>
      (∀ b, answer.value = .ok b → b.1 = chunk ∧ Q b.2 st) ∧
        ∀ e, answer.value = .error e → F e st := by
  refine Ensures.bind h fun answer => ?_
  obtain ⟨events, value⟩ := answer
  cases value with
  | error e =>
    refine Ensures.pure fun st hst => ⟨fun b hb => by simp at hb, fun e' he' => ?_⟩
    cases he'
    exact hst.2 e rfl
  | ok rows =>
    refine Ensures.pure fun st hst => ⟨fun b hb => ?_, fun e he => by simp at he⟩
    cases hb
    exact ⟨rfl, hst.1 rows rfl⟩

/-- A lookup without a plan asks nothing and has no lists. -/
theorem run_of_plan_eq_error {e : StoreError}
    (hplan : (plan registry.limit s batch).value = .error e) :
    ∃ events, run registry s country batch = pure ⟨events, .error e⟩ := by
  unfold run
  dsimp only
  rw [hplan]
  exact ⟨_, rfl⟩

theorem state_run_of_single (hplan : (plan registry.limit s batch).value = .ok probes)
    (hne : probes ≠ [])
    (hcut : Chunks.cut (budget registry.limit) (·.ask.size) probes = .ok [probes]) (st : σ) :
    ((run registry s country batch).run st).2 =
      ((registry.find country (request probes)).run st).2 := by
  have hask : ((askChunk registry country 0 probes).run st).2 =
      ((registry.find country (request probes)).run st).2 := by
    unfold askChunk
    dsimp only
    rw [StateT.run_bind]
    rcases (registry.find country (request probes)).run st with ⟨⟨events, value⟩, st'⟩
    cases value <;> rfl
  unfold run
  dsimp only
  rw [hplan]
  split
  · next e => cases e
  · next e => exact absurd (Except.ok.inj e) hne
  · next probes' _ e =>
    cases e
    rw [StateT.run_bind, Chunks.run_of_cut_singleton hcut]
    exact hask

/-- A lookup. `P` tells the states after the chunks that were answered, with the answers, and `F`
the states after a failure. -/
theorem ensures_run_answers {P : List (List Probe × List Record) → σ → Prop}
    {F : StoreError → σ → Prop} (hplan : (plan registry.limit s batch).value = .ok probes)
    (hfind : ∀ chunks, Chunks.cut (budget registry.limit) (·.ask.size) probes = .ok chunks →
      ∀ done, ∀ chunk ∈ chunks,
        Ensures (P done) (registry.find country (request chunk)) fun answer st =>
          (∀ rows, answer.value = .ok rows → P (done ++ [(chunk, rows)]) st) ∧
            ∀ e, answer.value = .error e → F e st) :
    Ensures (P []) (run registry s country batch) fun found st =>
      (∀ lists, found.value = .ok lists → ∃ answers, P answers st ∧ lists = shareOut batch answers ∧
        cutPlan registry.limit (.ok probes) = .ok (answers.map (·.1))) ∧
      ∀ e, found.value = .error e → F e st ∨ P [] st ∧ ∃ cause, e = .chunking cause ∧
        Chunks.cut (budget registry.limit) (·.ask.size) probes = .error cause := by
  unfold run
  dsimp only
  rw [hplan]
  split
  · next e => cases e
  · next e =>
    cases e
    refine Ensures.pure fun st hst => ⟨fun lists hl => ?_, fun e he => by simp at he⟩
    cases hl
    exact ⟨[], hst, rfl, rfl⟩
  · next probes' hne e =>
    cases e
    -- an answer carries its chunk, so that the chunks need not be told beside the answers
    have chunks := @Chunks.ensures_run_zip _ _ _ _ (budget registry.limit) (·.ask.size) probes
      (fun done st => P (done.map (·.2)) st ∧ ∀ d ∈ done, d.2.1 = d.1) F
      (fun _ => askChunk registry country)
      (by
        intro chunks hc done n chunk hbefore st hst
        have hmem : chunk ∈ chunks := hbefore.subset (by simp)
        obtain ⟨hok, herr⟩ := ensures_askChunk n (hfind chunks hc (done.map (·.2)) chunk hmem) st
          hst.1
        refine ⟨fun b hb => ?_, herr⟩
        obtain ⟨rfl, hP⟩ := hok b hb
        rw [List.map_append]
        refine ⟨hP, fun d hd => ?_⟩
        rcases List.mem_append.1 hd with hd | hd
        · exact hst.2 d hd
        · rw [List.mem_singleton.1 hd])
    refine Ensures.bind (chunks.mono (fun st hst => ⟨hst, by simp⟩) fun _ _ h => h) fun outcome => ?_
    cases outcome with
    | error cause =>
      refine Ensures.pure fun st hst => ⟨fun lists hl => by simp at hl, fun e he => ?_⟩
      cases he
      obtain ⟨hP, hcut⟩ := hst.1 cause rfl
      exact .inr ⟨hP.1, cause, rfl, hcut⟩
    | ok answers =>
      refine Ensures.pure fun st hst => ?_
      obtain ⟨chunks, hcut, hok, herr⟩ := hst.2 answers rfl
      cases hr : Chunks.results answers with
      | error e =>
        refine ⟨fun lists hl => by simp [Except.map] at hl, fun e' he' => ?_⟩
        cases he'
        exact .inl (herr e hr)
      | ok bs =>
        refine ⟨fun lists hl => ?_, fun e' he' => by simp [Except.map] at he'⟩
        cases hl
        obtain ⟨hlength, hP, hchunk⟩ := hok bs hr
        have hsnd := List.map_snd_zip (Nat.le_of_eq hlength.symm)
        have hmap : bs.map (·.1) = chunks :=
          calc bs.map (·.1) = ((chunks.zip bs).map (·.2)).map (·.1) := by rw [hsnd]
            _ = (chunks.zip bs).map (·.2.1) := List.map_map
            _ = (chunks.zip bs).map (·.1) := List.map_congr_left hchunk
            _ = chunks := List.map_fst_zip (Nat.le_of_eq hlength)
        rw [hsnd] at hP
        exact ⟨bs, hP, rfl, hmap ▸ cutPlan_of_cut hne hcut⟩

/-- A lookup. `P` tells the states that the registry keeps to, `A` the answers that it gives to the
chunks, and `F` the states after a failure. -/
theorem ensures_run {P : σ → Prop} {A : List Probe → List Record → Prop}
    {F : StoreError → σ → Prop} (hplan : (plan registry.limit s batch).value = .ok probes)
    (hfind : ∀ chunks, Chunks.cut (budget registry.limit) (·.ask.size) probes = .ok chunks →
      ∀ chunk ∈ chunks, Ensures P (registry.find country (request chunk)) fun answer st =>
        (∀ rows, answer.value = .ok rows → P st ∧ A chunk rows) ∧
          ∀ e, answer.value = .error e → F e st) :
    Ensures P (run registry s country batch) fun found st =>
      (∀ lists, found.value = .ok lists → P st ∧ ∃ answers, lists = shareOut batch answers ∧
        answers.flatMap (·.1) = probes ∧ ∀ a ∈ answers, A a.1 a.2) ∧
      ∀ e, found.value = .error e → F e st ∨ P st ∧ ∃ cause, e = .chunking cause ∧
        Chunks.cut (budget registry.limit) (·.ask.size) probes = .error cause := by
  have answered := @ensures_run_answers σ registry country s batch probes
    (fun done st => P st ∧ ∀ a ∈ done, A a.1 a.2) F hplan
    (by
      intro chunks hc done chunk hmem st hst
      obtain ⟨hok, herr⟩ := hfind chunks hc chunk hmem st hst.1
      refine ⟨fun rows hrows => ?_, herr⟩
      obtain ⟨hP, hA⟩ := hok rows hrows
      refine ⟨hP, fun a ha => ?_⟩
      rcases List.mem_append.1 ha with ha | ha
      · exact hst.2 a ha
      · rw [List.mem_singleton.1 ha]
        exact hA)
  refine answered.mono (fun st hst => ⟨hst, by simp⟩) fun found st hst => ⟨fun lists hl => ?_, ?_⟩
  · obtain ⟨answers, ⟨hP, hA⟩, hlists, hcut⟩ := hst.1 lists hl
    refine ⟨hP, answers, hlists, ?_, hA⟩
    rw [List.flatMap_def]
    exact flatten_cutPlan hcut
  · exact fun e he => (hst.2 e he).imp_right fun h => ⟨h.1.1, h.2⟩

end Registrar.Lookup
