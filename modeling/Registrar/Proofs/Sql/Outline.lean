import Registrar.Proofs.Criterion.Outline
import Registrar.Sql

/-!
Texts without values. The text of a criterion is the text of its outline (`clause_outline`), so that
two queries of one outline have one text and as many values (`select_congr`). The text of an insert
depends only on the number of its records (`text_insert_congr`).
-/

namespace Registrar.Sql

theorem clauses_map_outline {cs : List Criterion}
    (h : ∀ c ∈ cs, ∀ first, clause first c.outline = clause first c) (first : Nat) :
    clauses first (cs.map Criterion.outline) = clauses first cs := by
  induction cs generalizing first with
  | nil => rfl
  | cons c cs ih =>
    obtain ⟨hc, hcs⟩ := List.forall_mem_cons.1 h
    rw [List.map_cons, clauses, clauses, hc, Criterion.size_outline, ih hcs]

theorem clause_outline (first : Nat) (c : Criterion) : clause first c.outline = clause first c := by
  induction c using Criterion.ind generalizing first with
  | never => rfl
  | equals f v => rfl
  | any ps ih => rw [Criterion.outline_any, clause, clause, clauses_map_outline ih]
  | all ps ih => rw [Criterion.outline_all, clause, clause, clauses_map_outline ih]

/-- Queries of one outline have one text and as many values. -/
theorem select_congr {c d : Criterion} (h : c.outline = d.outline) :
    (select c).text = (select d).text ∧ (select c).values.length = (select d).values.length := by
  have htext : (ofCriterion 2 c).text = (ofCriterion 2 d).text := by
    show clause 2 c = clause 2 d
    rw [← clause_outline, h, clause_outline]
  have hsize : c.size = d.size := by rw [← Criterion.size_outline c, h, Criterion.size_outline]
  refine ⟨?_, hsize⟩
  unfold select
  dsimp only
  rw [htext]

theorem text_insert_congr {records records' : List Record} (h : records.length = records'.length) :
    (insert records).text = (insert records').text := by
  unfold insert
  dsimp only
  rw [h]

end Registrar.Sql
