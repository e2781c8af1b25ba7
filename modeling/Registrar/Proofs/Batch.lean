import Registrar.Batch.Scan
import Registrar.Report.Findings
import Mathlib.Data.List.Pairwise

/-!
The scan of a batch misses no pair: where no row has a duplicate in the batch, no row is a duplicate
of an earlier one. Findings are clean only if the scan and the lookup both found nothing.
-/

namespace Registrar

namespace Batch

theorem scan_eq (s : Selection) (batch : List Record) : scan s batch =
    (entries s batch).map fun a => ((entries s batch).filter (matched a)).map (·.index) := rfl

def entryAt (s : Selection) (i : Nat) (r : Record) : Entry := ⟨i, r, Criterion.ofCandidate s r⟩

theorem getElem?_entries (s : Selection) (batch : List Record) (i : Nat) :
    (entries s batch)[i]? = batch[i]?.map (entryAt s i) := by
  unfold entries entryAt
  rw [List.getElem?_map, List.getElem?_zipIdx]
  simp [Function.comp_def]

theorem mem_entries {s : Selection} {batch : List Record} {e : Entry} :
    e ∈ entries s batch ↔ ∃ i r, batch[i]? = some r ∧ entryAt s i r = e := by
  simp [List.mem_iff_getElem?, getElem?_entries, entryAt]

theorem matched_entryAt (s : Selection) (i j : Nat) (a b : Record) :
    matched (entryAt s i a) (entryAt s j b) =
      if i < j then isDuplicate s a b else decide (j < i) && isDuplicate s b a := rfl

theorem pairwise_of_scan {s : Selection} {batch : List Record}
    (h : (scan s batch).any (!·.isEmpty) = false) :
    batch.Pairwise fun a b => isDuplicate s a b = false := by
  have hempty : ∀ a ∈ entries s batch, ∀ b ∈ entries s batch, matched a b = false := by
    intro a ha b hb
    rw [scan_eq, List.any_map, List.any_eq_false] at h
    have hrow := h a ha
    simp only [Function.comp_apply, Bool.not_eq_true', Bool.not_eq_false, List.isEmpty_iff,
      List.map_eq_nil_iff, List.filter_eq_nil_iff] at hrow
    simpa using hrow b hb
  refine List.pairwise_iff_getElem.2 fun i j hi hj hij => ?_
  have ha : entryAt s i batch[i] ∈ entries s batch :=
    mem_entries.2 ⟨i, _, List.getElem?_eq_getElem hi, rfl⟩
  have hb : entryAt s j batch[j] ∈ entries s batch :=
    mem_entries.2 ⟨j, _, List.getElem?_eq_getElem hj, rfl⟩
  have hm := hempty _ ha _ hb
  rw [matched_entryAt, if_pos hij] at hm
  exact hm

end Batch

theorem Findings.of_clean {s : Selection} {batch : List Record} {report : Report}
    (h : (Findings.ofReport s batch report).clean = true) :
    (Batch.sharedIds batch).isEmpty = true ∧ report.inBatch.any (!·.isEmpty) = false ∧
      report.stored.any (!·.isEmpty) = false := by
  simpa [Findings.ofReport, Report.hasDuplicates, and_assoc] using h

end Registrar
