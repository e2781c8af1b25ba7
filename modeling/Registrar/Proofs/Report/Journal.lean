import Registrar.Proofs.Registry.Texts

/-!
What a search notes above the level of debugging. Warnings and announcements tell how many
candidates and probes there are, which candidates were split into how many parts, and how much was
found; they tell no value. How candidates are split is settled by which fields are filled in. So two
searches of held records that look for batches with the same fields filled in, and that find as
much, announce the same lines (`raisedLines_congr`).
-/

namespace Registrar

variable {σ ε ι β : Type}

/-- The events above the level of debugging. -/
def raised (events : List Event) : List Event := events.filter fun e => e.level != .debug

theorem raised_append (events events' : List Event) :
    raised (events ++ events') = raised events ++ raised events' := List.filter_append _ _

/-- The lines above the level of debugging, with their levels; `elapsed` gives the seconds that have
gone by at each line. -/
def raisedLines (elapsed : Nat → String) (events : List Event) : List (Level × String) :=
  (raised events).mapIdx fun i e => (e.level, e.line (elapsed i))

/-! ### Registries that announce nothing -/

/-- Whatever the registry is asked, it notes nothing above the level of debugging. -/
def Registry.Discreet (registry : Registry (StateM σ)) : Prop :=
  ∀ country c st, raised ((registry.find country c).run st).1.events = []

theorem Held.discreet_registry (held : Held) : held.registry.Discreet := by
  intro country c asked
  rw [run_find]
  unfold answer
  dsimp only
  split
  · rfl
  · rfl

/-! ### Lookups -/

namespace Chunks

/-- Steps that announce nothing announce nothing in turn. -/
theorem raised_events_inTurn {step : List β → ι → StateM σ (Noted (Except ε β))}
    (h : ∀ done i st, raised ((step done i).run st).1.events = []) (done : List β) (is : List ι)
    (st : σ) : raised (events ((inTurn step done is).run st).1) = [] := by
  induction is generalizing done st with
  | nil => rfl
  | cons i is ih =>
    cases hv : ((step done i).run st).1.value with
    | error e =>
      rw [run_inTurn_error hv]
      simpa [events] using h done i st
    | ok b =>
      have hrest := ih (done ++ [b]) ((step done i).run st).2
      rw [run_inTurn_ok hv]
      unfold events at hrest ⊢
      rw [List.flatMap_cons, raised_append, h done i st, hrest]
      rfl

end Chunks

namespace Lookup

variable {registry : Registry (StateM σ)} {limit : Nat} {s : Selection} {country : String}
  {batch batch' : List Record}

/-- What a lookup announces of its plan. -/
def announced (limit : Nat) (planned : Noted (Except StoreError (List Probe))) : List Event :=
  raised planned.events ++
    match planned.value with
    | .error _ | .ok [] => []
    | .ok probes => [.lookupPlanned probes.length (budget limit)]

/-- What is announced does not depend on the values that are asked for. -/
theorem announced_map_outline (limit : Nat) (planned : Noted (Except StoreError (List Probe))) :
    announced limit (planned.map (Except.map (List.map Probe.outline))) =
      announced limit planned := by
  obtain ⟨events, value⟩ := planned
  match value with
  | .error e => rfl
  | .ok [] => rfl
  | .ok (p :: probes) => simp [announced, Noted.map, Except.map]

theorem announced_plan_congr (limit : Nat) (h : SameFilled s batch batch') :
    announced limit (plan limit s batch) = announced limit (plan limit s batch') := by
  rw [← announced_map_outline, plan_outline, outlines_congr h, ← plan_outline,
    announced_map_outline]

theorem raised_events_askChunk (hregistry : registry.Discreet) (country : String) (n : Nat)
    (chunk : List Probe) (st : σ) :
    raised ((askChunk registry country n chunk).run st).1.events = [] := by
  have hfind := hregistry country (request chunk) st
  unfold askChunk
  dsimp only
  rw [StateT.run_bind]
  rcases hanswer : (registry.find country (request chunk)).run st with ⟨⟨events, value⟩, st'⟩
  rw [hanswer] at hfind
  cases value with
  | error e => exact hfind
  | ok rows =>
    show raised (events ++ _) = []
    rw [raised_append, hfind]
    rfl

theorem ensures_run_discreet (hregistry : registry.Discreet) (country : String)
    (probes : List Probe) :
    Ensures (fun _ => True)
      (Chunks.run (budget registry.limit) (·.ask.size) (fun _ => askChunk registry country) probes)
      fun outcome _ => ∀ answers, outcome = .ok answers → raised (Chunks.events answers) = [] := by
  unfold Chunks.run
  split
  · exact Ensures.pure fun _ _ _ h => by cases h
  · refine Ensures.bind (Q := fun answers _ => raised (Chunks.events answers) = [])
      (fun st _ => ?_) fun answers => Ensures.pure fun _ h answers' e => ?_
    · exact Chunks.raised_events_inTurn
        (fun _ (i : List Probe × Nat) => raised_events_askChunk hregistry country i.2 i.1) _ _ st
    · cases e
      exact h

theorem raised_events_run (hregistry : registry.Discreet) (st : σ) :
    raised ((run registry s country batch).run st).1.events =
      announced registry.limit (plan registry.limit s batch) := by
  have hrun : Ensures (fun _ => True) (run registry s country batch) fun found _ =>
      raised found.events = announced registry.limit (plan registry.limit s batch) := by
    unfold run announced
    dsimp only
    generalize plan registry.limit s batch = planned
    obtain ⟨events, value⟩ := planned
    match value with
    | .error e => exact Ensures.pure fun _ _ => (List.append_nil _).symm
    | .ok [] => exact Ensures.pure fun _ _ => (List.append_nil _).symm
    | .ok (p :: rest) =>
      refine Ensures.bind (ensures_run_discreet hregistry country (p :: rest)) fun outcome => ?_
      cases outcome with
      | error cause => exact Ensures.pure fun _ _ => raised_append _ _
      | ok answers =>
        refine Ensures.pure fun _ h => ?_
        rw [raised_append, h answers rfl, raised_append, List.append_nil]
        rfl
  exact hrun st trivial

end Lookup

/-! ### Searches -/

namespace Report

variable {registry : Registry (StateM σ)} {s : Selection} {country : String}
  {batch batch' : List Record} {st : σ} {report : Report}

theorem raised_events_search (hregistry : registry.Discreet)
    (h : ((search registry s country batch).run st).1.value = .ok report) :
    raised ((search registry s country batch).run st).1.events =
      [.checkStarted batch.length country s.ids s.connective.word, .phaseEntered "Batch scan" none] ++
        raised [.pairsFound report.pairCount] ++ [.phaseEntered "Persisted lookup" none] ++
        Lookup.announced registry.limit (Lookup.plan registry.limit s batch) ++
        [.checkDone report.pairCount report.storedCount] := by
  have hlookup := @Lookup.raised_events_run _ registry s country batch hregistry st
  unfold search at h ⊢
  dsimp only at h ⊢
  rw [StateT.run_bind] at h ⊢
  rcases hfound : (Lookup.run registry s country batch).run st with ⟨⟨events, value⟩, st'⟩
  rw [hfound] at h hlookup
  rw [← hlookup]
  cases value with
  | error e => cases h
  | ok stored =>
    cases h
    -- whether the number of pairs is announced depends on that number
    have hpairs : ∀ n, raised [.pairsFound n, .phaseEntered "Persisted lookup" none] =
        raised [.pairsFound n] ++ [.phaseEntered "Persisted lookup" none] :=
      fun n => raised_append [.pairsFound n] [.phaseEntered "Persisted lookup" none]
    show raised (_ ++ _ ++ [.pairsFound _, .phaseEntered _ _] ++ events ++ [_]) = _
    simp only [raised_append, hpairs, List.append_assoc]
    rfl

theorem exists_search_held {held : Held} (hl : 2 ≤ held.limit)
    (hsize : (batch.map fun a => (Criterion.ofCandidate s a).size).sum < UInt64.size)
    (country : String) (asked : Nat) :
    ∃ report, ((search held.registry s country batch).run asked).1.value = .ok report := by
  obtain ⟨found, hfound⟩ := @Held.exists_value_run batch country s held hl hsize asked
  rw [value_search, hfound]
  exact ⟨_, rfl⟩

/-- **No value shows above the level of debugging.** Let two registries hold any records, with one
limit, and let two batches be searched that fill in the same fields of the chosen groups, row by
row, with any values. If both searches find as many pairs, and stored duplicates for as many rows,
then they note the same warnings and announcements, line by line and at any times. With a limit from
2 on both searches return reports, if all values of a batch together fit a word. -/
theorem raisedLines_congr {held held' : Held} (hlimit : held.limit = held'.limit)
    (hl : 2 ≤ held.limit) {s : Selection} {batch batch' : List Record}
    (h : SameFilled s batch batch') (country : String) (asked asked' : Nat) :
    ((batch.map fun a => (Criterion.ofCandidate s a).size).sum < UInt64.size →
      (∃ report, ((search held.registry s country batch).run asked).1.value = .ok report) ∧
        ∃ report', ((search held'.registry s country batch').run asked').1.value = .ok report') ∧
    ∀ report report',
      ((search held.registry s country batch).run asked).1.value = .ok report →
      ((search held'.registry s country batch').run asked').1.value = .ok report' →
      report.pairCount = report'.pairCount → report.storedCount = report'.storedCount →
      ∀ elapsed,
        raisedLines elapsed ((search held.registry s country batch).run asked).1.events =
          raisedLines elapsed ((search held'.registry s country batch').run asked').1.events := by
  refine ⟨fun hsize => ⟨exists_search_held hl hsize country asked, ?_⟩,
    fun report report' hreport hreport' hpairs hstored elapsed => ?_⟩
  · exact exists_search_held (hlimit ▸ hl) (sizes_congr h ▸ hsize) country asked'
  · have hplan : Lookup.announced held.registry.limit (Lookup.plan held.registry.limit s batch) =
        Lookup.announced held'.registry.limit (Lookup.plan held'.registry.limit s batch') := by
      show Lookup.announced held.limit (Lookup.plan held.limit s batch) =
        Lookup.announced held'.limit (Lookup.plan held'.limit s batch')
      rw [← hlimit]
      exact Lookup.announced_plan_congr held.limit h
    have hraised : raised ((search held.registry s country batch).run asked).1.events =
        raised ((search held'.registry s country batch').run asked').1.events := by
      rw [raised_events_search held.discreet_registry hreport,
        raised_events_search held'.discreet_registry hreport', hplan, hpairs, hstored, h.length_eq]
    rw [raisedLines, raisedLines, hraised]

/-- A registry with two people, of whom one is asked for. -/
def twoHeld : Held := ⟨[Held.named "a" "NL" "Ann" "Poe", Held.named "b" "NL" "Ann" "Lee"], 2⟩

/-- A registry with one person, whose name tries to be a line of its own. -/
def noisyHeld : Held := ⟨[Held.named "x" "NL" "Eve\nWARN" "Poe"], 2⟩

/-- The two names are looked up with the same lines; the warning that the candidate was split is
among them. -/
theorem raisedLines_congr_noisyHeld :
    ((search twoHeld.registry Held.bothNames "NL" [Held.named "" "" "Ann" "Lee"]).run 0).1.value =
      .ok ⟨[[]], [[Held.named "b" "NL" "Ann" "Lee"]]⟩ ∧
    ((search noisyHeld.registry Held.bothNames "NL"
        [Held.named "" "" "Eve\nWARN" "Poe"]).run 7).1.value =
      .ok ⟨[[]], [[Held.named "x" "NL" "Eve\nWARN" "Poe"]]⟩ ∧
    raised ((search noisyHeld.registry Held.bothNames "NL"
        [Held.named "" "" "Eve\nWARN" "Poe"]).run 7).1.events =
      [.checkStarted 1 "NL" ["Names"] "OR", .phaseEntered "Batch scan" none,
        .phaseEntered "Persisted lookup" none, .candidateSplit 0 1, .lookupPlanned 1 1,
        .checkDone 0 1] ∧
    ∀ elapsed, raisedLines elapsed ((search twoHeld.registry Held.bothNames "NL"
        [Held.named "" "" "Ann" "Lee"]).run 0).1.events =
      raisedLines elapsed ((search noisyHeld.registry Held.bothNames "NL"
        [Held.named "" "" "Eve\nWARN" "Poe"]).run 7).1.events := by
  have hsearch : ((search twoHeld.registry Held.bothNames "NL"
      [Held.named "" "" "Ann" "Lee"]).run 0).1.value =
        .ok ⟨[[]], [[Held.named "b" "NL" "Ann" "Lee"]]⟩ := by decide
  have hsearch' : ((search noisyHeld.registry Held.bothNames "NL"
      [Held.named "" "" "Eve\nWARN" "Poe"]).run 7).1.value =
        .ok ⟨[[]], [[Held.named "x" "NL" "Eve\nWARN" "Poe"]]⟩ := by decide
  have hfilled : SameFilled Held.bothNames [Held.named "" "" "Ann" "Lee"]
      [Held.named "" "" "Eve\nWARN" "Poe"] := .cons (by decide) .nil
  obtain ⟨-, hlines⟩ := @raisedLines_congr twoHeld noisyHeld rfl (by decide) Held.bothNames _ _
    hfilled "NL" 0 7
  exact ⟨hsearch, hsearch', by decide, hlines _ _ hsearch hsearch' rfl rfl⟩

end Report

end Registrar
