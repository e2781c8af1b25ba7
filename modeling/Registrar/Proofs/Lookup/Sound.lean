import Registrar.Proofs.Fallible
import Registrar.Proofs.Lookup.Dialogue
import Registrar.Proofs.Lookup.Held

/-!
What a lookup finds in a registry that may answer anything. The rows of a query are held against the
rule of each candidate that the query was for, so that rows which are wrong, repeated or unsorted
make no false duplicate, nor one that is found twice (`found_of_run_eq_ok`).
-/

namespace Registrar.Lookup

variable {σ : Type} {registry : Registry (StateM σ)} {s : Selection} {country : String}
  {batch : List Record} {st : σ} {limit : Nat}

theorem forall₂_shareOut {answers : List (List Probe × List Record)}
    {P : Record → List Record → Prop}
    (h : ∀ i a, batch[i]? = some a → P a (byId (received i a answers))) :
    List.Forall₂ P batch (shareOut batch answers) := by
  have hlength : batch.length = (shareOut batch answers).length := by simp [shareOut]
  refine List.forall₂_iff_get.2 ⟨hlength, fun i hi hi' => ?_⟩
  have hget := getElem?_shareOut batch answers i
  rw [List.getElem?_eq_getElem hi, List.getElem?_eq_getElem hi'] at hget
  have heq : (shareOut batch answers)[i] = byId (received i batch[i] answers) :=
    Option.some.inj hget
  show P batch[i] (shareOut batch answers)[i]
  rw [heq]
  exact h i batch[i] (List.getElem?_eq_getElem hi)

/-- What a candidate receives, whatever the answers are. -/
theorem of_mem_received {cs : List (List Probe)} (hchunks : chunks limit s batch = .ok cs)
    {rowss : List (List Record)} {i : Nat} {candidate r : Record}
    (hi : batch[i]? = some candidate) (hr : r ∈ received i candidate (cs.zip rowss)) :
    (∃ rows ∈ rowss, r ∈ rows) ∧ isDuplicate s candidate r = true ∧ isOwn candidate r = false := by
  obtain ⟨probes, hplan, hflat, -⟩ := chunks_eq_ok hchunks
  obtain ⟨⟨chunk, rows⟩, hzip, hrow, p, hp, hpi, htakes⟩ := mem_received.1 hr
  obtain ⟨hchunk, hrows⟩ := List.of_mem_zip hzip
  have hmem : p ∈ probes := hflat ▸ List.mem_flatten_of_mem hchunk hp
  have hserves : p ∈ probes.filter (·.candidate == i) :=
    List.mem_filter.2 ⟨hmem, by simpa using hpi⟩
  simp only [takes, Bool.and_eq_true, Bool.not_eq_true'] at htakes
  exact ⟨⟨rows, hrows, hrow⟩, (plan_serves hplan hi).sound p hserves r htakes.2, htakes.1⟩

/-- If a lookup ends with lists, they are one for each candidate, and hold duplicates of it that do
not carry its id. -/
theorem forall₂_duplicates_of_run_eq_ok {found : List (List Record)}
    (h : ((run registry s country batch).run st).1.value = .ok found) :
    List.Forall₂ (fun candidate rows => ∀ r ∈ rows,
      isDuplicate s candidate r = true ∧ isOwn candidate r = false) batch found := by
  rw [value_run_eq] at h
  cases hchunks : chunks registry.limit s batch with
  | error e =>
    rw [hchunks] at h
    cases h
  | ok cs =>
    rw [hchunks] at h
    obtain ⟨rowss, -, rfl⟩ := map_eq_ok_iff.1 h
    refine forall₂_shareOut fun i candidate hi r hr => ?_
    exact (of_mem_received hchunks hi (mem_of_mem_byId hr)).2

/-- **No registry makes a false duplicate.** Whatever the registry answers: if a lookup ends with
lists, then every record that is listed for a candidate came back in the answer to one of the
queries of this lookup, is a duplicate of the candidate and does not carry its id; and every list is
strictly ascending by id. -/
theorem found_of_run_eq_ok {found : List (List Record)}
    (h : ((run registry s country batch).run st).1.value = .ok found) :
    List.Forall₂ (fun candidate rows => Ascending rows ∧ ∀ r ∈ rows,
      (∃ x ∈ exchanges registry s country batch st, ∃ answer, x.answer = .ok answer ∧ r ∈ answer) ∧
      isDuplicate s candidate r = true ∧
      ¬ (Text.trim candidate.id ≠ "" ∧
        Text.sameIgnoringCase (Text.trim candidate.id) r.id = true)) batch found := by
  rw [value_run_eq] at h
  rw [exchanges_eq, queries]
  cases hchunks : chunks registry.limit s batch with
  | error e =>
    rw [hchunks] at h
    cases h
  | ok cs =>
    rw [hchunks] at h
    dsimp only at h ⊢
    cases houtcome : Exchange.outcome (registry.dialogue (queriesOf country cs) st) with
    | error e =>
      rw [houtcome] at h
      cases h
    | ok rowss =>
      rw [houtcome] at h
      obtain rfl : shareOut batch (cs.zip rowss) = found := Except.ok.inj h
      refine forall₂_shareOut fun i candidate hi => ⟨ascending_byId _, fun r hr => ?_⟩
      obtain ⟨⟨rows, hrows, hmem⟩, hdup, hown⟩ := of_mem_received hchunks hi (mem_of_mem_byId hr)
      obtain ⟨x, hx, hanswer⟩ := Exchange.exists_of_outcome_eq_ok houtcome hrows
      exact ⟨⟨x, hx, rows, hanswer, hmem⟩, hdup, isOwn_eq_false_iff.1 hown⟩

/-- Rows that nobody asked for: in no order, one of them twice, two under one id, one of a person
with another name and one under the id of the candidate. -/
def stray : List Record :=
  [Held.named "c" "BE" "Ann" "Lee", Held.named "b" "NL" "Ann" "Lee",
    Held.named "d" "NL" "Ann" "Poe", Held.named "b" "BE" "ANN" "lee",
    Held.named "a" "NL" "Ann" "Lee", Held.named "c" "BE" "Ann" "Lee"]

/-- A candidate for whom one name alone can be asked. -/
def annLee : Record := Held.named " A" "" "Ann " "Lee"

/-- Of stray rows a candidate gets two. -/
theorem found_of_run_eq_ok_stray :
    ((run (.lasting 2 1 stray) Held.bothNames "NL" [annLee]).run 0).1.value =
        .ok [[Held.named "b" "NL" "Ann" "Lee", Held.named "c" "BE" "Ann" "Lee"]] ∧
      ∀ r ∈ [Held.named "b" "NL" "Ann" "Lee", Held.named "c" "BE" "Ann" "Lee"],
        (∃ x ∈ exchanges (.lasting 2 1 stray) Held.bothNames "NL" [annLee] 0,
          ∃ answer, x.answer = .ok answer ∧ r ∈ answer) ∧
        isDuplicate Held.bothNames annLee r = true ∧
        ¬ (Text.trim annLee.id ≠ "" ∧
          Text.sameIgnoringCase (Text.trim annLee.id) r.id = true) := by
  have hrun : ((run (.lasting 2 1 stray) Held.bothNames "NL" [annLee]).run 0).1.value =
      .ok [[Held.named "b" "NL" "Ann" "Lee", Held.named "c" "BE" "Ann" "Lee"]] := by decide
  refine ⟨hrun, fun r hr => ?_⟩
  obtain ⟨rows, rest, ⟨-, hrows⟩, -, e⟩ := List.forall₂_cons_left_iff.1 (found_of_run_eq_ok hrun)
  obtain ⟨rfl, -⟩ := List.cons.inj e
  exact hrows r hr

end Registrar.Lookup
