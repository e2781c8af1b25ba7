import Registrar.Proofs.Lookup.Dialogue
import Registrar.Proofs.Lookup.Held
import Registrar.Report.Basic

/-!
Searches that the registry cannot finish. What a search asks is settled before the first answer
comes. If a query fails, its failure is the outcome of the search, and nothing is asked after it: of
what the queries before it found there is no report (`search_all_or_nothing`).
-/

namespace Registrar.Report

variable {σ : Type}

/-- What a search asks the registry, in order. -/
def asked (registry : Registry (StateM σ)) (s : Selection) (country : String)
    (batch : List Record) (st : σ) : List Query :=
  ((search registry.watched s country batch).run (st, [])).2.2.map (·.query)

variable (registry : Registry (StateM σ)) (s : Selection) (country : String) (batch : List Record)
  (st : σ)

theorem state_search : ((search registry s country batch).run st).2 =
    ((Lookup.run registry s country batch).run st).2 := by
  unfold search
  dsimp only
  rw [StateT.run_bind]
  rcases (Lookup.run registry s country batch).run st with ⟨⟨events, value⟩, st'⟩
  cases value <;> rfl

theorem asked_eq : asked registry s country batch st =
    (registry.dialogue (Lookup.queries registry.limit s country batch) st).map (·.query) := by
  rw [asked, state_search, Lookup.run_watched]
  rfl

theorem value_search : ((search registry s country batch).run st).1.value =
    ((Lookup.run registry s country batch).run st).1.value.map fun stored =>
      ⟨Batch.scan s batch, stored⟩ := by
  unfold search
  dsimp only
  rw [StateT.run_bind]
  rcases (Lookup.run registry s country batch).run st with ⟨⟨events, value⟩, st'⟩
  cases value <;> rfl

/-- The outcome of a search that asks something is that of its dialogue. -/
theorem value_search_of_queries
    (h : Lookup.queries registry.limit s country batch ≠ []) :
    ∃ report : List (List Record) → Report, ((search registry s country batch).run st).1.value =
      (Exchange.outcome (registry.dialogue (Lookup.queries registry.limit s country batch) st)).map
        report := by
  rw [value_search, Lookup.value_run_eq]
  unfold Lookup.queries at h ⊢
  cases hchunks : Lookup.chunks registry.limit s batch with
  | error e =>
    rw [hchunks] at h
    exact absurd rfl h
  | ok cs =>
    refine ⟨fun rowss => ⟨Batch.scan s batch, Lookup.shareOut batch (cs.zip rowss)⟩, ?_⟩
    dsimp only
    cases Exchange.outcome (registry.dialogue (Lookup.queriesOf country cs) st) <;> rfl

/-- **All or nothing.** The queries of a search are settled by the limit, the selection, the country
and the batch. A registry that answers all of them is asked all of them, and there is a report. If
it answers the first `n` and fails the next with `e`, then `e` is the outcome, and exactly these
`n + 1` queries were asked. -/
theorem search_all_or_nothing (registry : Registry (StateM σ)) (s : Selection) (country : String)
    (batch : List Record) (st : σ) :
    ((∀ answer ∈ registry.answers (Lookup.queries registry.limit s country batch) st,
        ∃ rows, answer = .ok rows) →
      asked registry s country batch st = Lookup.queries registry.limit s country batch ∧
        (Lookup.queries registry.limit s country batch ≠ [] →
          ∃ report, ((search registry s country batch).run st).1.value = .ok report)) ∧
    ∀ n e,
      (registry.answers (Lookup.queries registry.limit s country batch) st)[n]? =
        some (.error e) →
      (∀ k < n, ∃ rows,
        (registry.answers (Lookup.queries registry.limit s country batch) st)[k]? =
          some (.ok rows)) →
      ((search registry s country batch).run st).1.value = .error e ∧
        asked registry s country batch st =
          (Lookup.queries registry.limit s country batch).take (n + 1) := by
  rw [asked_eq]
  refine ⟨fun hok => ?_, fun n e hn hbefore => ?_⟩
  · obtain ⟨hasked, rowss, houtcome⟩ := Registry.dialogue_of_ok hok
    refine ⟨hasked, fun hne => ?_⟩
    obtain ⟨report, hvalue⟩ := value_search_of_queries registry s country batch st hne
    exact ⟨report rowss, by rw [hvalue, houtcome]; rfl⟩
  · obtain ⟨hasked, houtcome⟩ := Registry.dialogue_of_failure hn hbefore
    have hne : Lookup.queries registry.limit s country batch ≠ [] := by
      intro hnil
      rw [hnil] at hn
      simp [Registry.answers] at hn
    obtain ⟨report, hvalue⟩ := value_search_of_queries registry s country batch st hne
    exact ⟨by rw [hvalue, houtcome]; rfl, hasked⟩

/-- Two people, of whom one name each can be asked. -/
def twoNamed : List Record := [Held.named "" "" "Ann" "Lee", Held.named "" "" "Bob" "Poe"]

/-- The second of two queries fails, and the match that the first one found is not reported. -/
theorem search_all_or_nothing_second :
    (Registry.lasting 2 1 Held.threeNamed).answers
        (Lookup.queries 2 Held.bothNames "NL" twoNamed) 0 =
          [.ok Held.threeNamed, .error (.database "no answer")] ∧
      ((search (.lasting 2 1 Held.threeNamed) Held.bothNames "NL" twoNamed).run 0).1.value =
        .error (.database "no answer") ∧
      asked (.lasting 2 1 Held.threeNamed) Held.bothNames "NL" twoNamed 0 =
        [⟨"NL", .equals .firstName "Ann"⟩, ⟨"NL", .equals .firstName "Bob"⟩] := by
  have hanswers : (Registry.lasting 2 1 Held.threeNamed).answers
      (Lookup.queries 2 Held.bothNames "NL" twoNamed) 0 =
        [.ok Held.threeNamed, .error (.database "no answer")] := rfl
  refine ⟨hanswers, (search_all_or_nothing (.lasting 2 1 Held.threeNamed) Held.bothNames "NL"
    twoNamed 0).2 1 (.database "no answer") (congrArg (·[1]?) hanswers) fun k hk => ?_⟩
  obtain rfl : k = 0 := by omega
  exact ⟨Held.threeNamed, congrArg (·[0]?) hanswers⟩

end Registrar.Report
