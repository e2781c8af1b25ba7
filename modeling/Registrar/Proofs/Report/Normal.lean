import Registrar.Proofs.Batch
import Registrar.Proofs.Criterion.Join
import Registrar.Proofs.Record
import Registrar.Registry.Table
import Registrar.Report.Basic

/-!
A search cannot tell a batch from its normal form. Normal values, and the ids without the blanks
around them, are all that a search looks at, and both are the same in a record and in its normal
form: the scan, the plan and the sharing out of answers do not notice the difference, nor does the
search as a whole (`search_normalize`).
-/

namespace Registrar

namespace Criterion

theorem holds_normalize (r : Record) (c : Criterion) : c.holds r.normalize = c.holds r := by
  induction c using ind with
  | never => rw [holds_never, holds_never]
  | equals f v => rw [holds_equals, holds_equals, Record.normalValue?_normalize]
  | any ps ih =>
    rw [holds_any, holds_any, Bool.eq_iff_iff, List.any_eq_true, List.any_eq_true]
    exact exists_congr fun c => and_congr_right fun hc => by rw [ih c hc]
  | all ps ih =>
    have hall : ps.all (holds r.normalize) = ps.all (holds r) := by
      rw [Bool.eq_iff_iff, List.all_eq_true, List.all_eq_true]
      exact forall₂_congr fun c hc => by rw [ih c hc]
    rw [holds_all, holds_all, hall]

theorem ofCandidate_normalize (s : Selection) (a : Record) :
    ofCandidate s a.normalize = ofCandidate s a := by
  have hfield : ofField a.normalize = ofField a := by
    funext f
    rw [ofField, ofField, Record.normalValue?_normalize]
  have hgroup : ofGroup a.normalize = ofGroup a := by
    funext g
    rw [ofGroup, ofGroup, hfield]
  rw [ofCandidate, ofCandidate, hgroup]

end Criterion

variable (s : Selection) (batch : List Record)

namespace Batch

/-- The entry with its record in normal form. -/
def Entry.normalize (e : Entry) : Entry := { e with record := e.record.normalize }

theorem entries_normalize :
    entries s (batch.map Record.normalize) = (entries s batch).map Entry.normalize := by
  rw [entries, entries, List.zipIdx_map, List.map_map, List.map_map]
  refine List.map_congr_left fun entry _ => ?_
  simp only [Function.comp_apply, Prod.map, id, Entry.normalize, Criterion.ofCandidate_normalize]

theorem matched_normalize (a b : Entry) : matched a.normalize b.normalize = matched a b := by
  unfold matched Entry.normalize
  dsimp only
  rw [Criterion.holds_normalize, Criterion.holds_normalize]

theorem scan_normalize : scan s (batch.map Record.normalize) = scan s batch := by
  rw [scan_eq, scan_eq, entries_normalize, List.map_map]
  refine List.map_congr_left fun a _ => ?_
  rw [Function.comp_apply, List.filter_map, List.map_map]
  have hmatched : (matched a.normalize ∘ Entry.normalize) = matched a :=
    funext fun b => matched_normalize a b
  rw [hmatched]
  rfl

end Batch

namespace Lookup

theorem plan_normalize (limit : Nat) :
    plan limit s (batch.map Record.normalize) = plan limit s batch := by
  rw [plan, plan, List.map_map]
  have hcriterion : Criterion.ofCandidate s ∘ Record.normalize = Criterion.ofCandidate s :=
    funext fun a => Criterion.ofCandidate_normalize s a
  rw [hcriterion]

theorem isOwn_normalize (candidate row : Record) :
    isOwn candidate.normalize row = isOwn candidate row := by
  have htrim : Text.trim candidate.normalize.id = Text.trim candidate.id := Text.trim_unpad _
  rw [isOwn, isOwn, htrim]

theorem shareOut_normalize :
    shareOut (batch.map Record.normalize) = shareOut batch := by
  funext answers
  rw [shareOut, shareOut, List.zipIdx_map, List.map_map]
  refine List.map_congr_left fun entry _ => ?_
  simp only [Function.comp_apply, Prod.map, id, share, takes, isOwn_normalize]

variable {m : Type → Type} [Monad m]

theorem run_normalize (registry : Registry m) (country : String) :
    run registry s country (batch.map Record.normalize) = run registry s country batch := by
  unfold run
  rw [plan_normalize, shareOut_normalize]

end Lookup

/-- An insert writes normal forms, whether or not it is given them. -/
theorem Database.insert_normalize {m : Type → Type} [Monad m] (db : Database m) (limit : Nat) :
    db.insert limit (batch.map Record.normalize) = db.insert limit batch := by
  have hnormalize : Record.normalize ∘ Record.normalize = Record.normalize :=
    funext Record.normalize_normalize
  unfold insert
  rw [List.isEmpty_map, List.map_map, hnormalize]

/-- **Normal forms are settled and not seen.** The normal form of a normal form is itself, it keeps
the moment of withdrawal, and its normal values are those of the record. So a search asks the same
and comes to the same outcome for a batch and for the normal forms of its records, by any registry,
and an insert sends the same. -/
theorem search_normalize :
    (∀ r : Record, r.normalize.normalize = r.normalize ∧ r.normalize.deletedAt = r.deletedAt ∧
      ∀ f, r.normalize.normalValue? f = r.normalValue? f) ∧
    ∀ (m : Type → Type) [Monad m],
      (∀ (registry : Registry m) (s : Selection) (country : String) (batch : List Record),
        Report.search registry s country (batch.map Record.normalize) =
          Report.search registry s country batch) ∧
      ∀ (db : Database m) (limit : Nat) (records : List Record),
        db.insert limit (records.map Record.normalize) = db.insert limit records := by
  refine ⟨fun r => ?_, fun m _ => ⟨fun registry s country batch => ?_, fun db limit records => ?_⟩⟩
  · exact ⟨r.normalize_normalize, r.deletedAt_normalize, r.normalValue?_normalize⟩
  · unfold Report.search Batch.scanNoted
    rw [Batch.scan_normalize, Lookup.run_normalize, List.length_map]
  · exact Database.insert_normalize records db limit

end Registrar
