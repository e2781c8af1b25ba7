import Registrar.Proofs.Lookup.Held

/-!
The criterion of a candidate, and what is planned from it, in canonical form: it is reduced and asks
for what the candidate itself holds (`Canonical`). Such a criterion matches the candidate
(`Canonical.holds_self`), so that the one without records, by which scans and plans leave a
candidate out, stands for no other criterion that matches nothing (`ofCandidate_canonical`).
-/

namespace Registrar.Lookup

open Criterion

/-- The criterion is reduced, and each of its equations asks for what the candidate holds in its
field, in normal form and not empty. -/
structure Canonical (a : Record) (c : Criterion) : Prop where
  reduced : c.Reduced
  own : c.Each fun f v => f.normalize (a.value f) = v ∧ v ≠ ""

variable {a : Record} {c : Criterion} {s : Selection}

theorem canonical_ofCandidate (s : Selection) (a : Record) :
    ofCandidate s a = .never ∨ Canonical a (ofCandidate s a) :=
  (reduced_ofCandidate s a).imp_right fun hc =>
    ⟨hc, (each_ofCandidate s a).mono fun _ _ hv => (Record.normalValue?_eq_some_iff.1 hv).symm⟩

/-- Taking the disjuncts apart and covering them keeps the form. -/
theorem inherited_canonical (a : Record) : Inherited (Canonical a) where
  disjunct hc hd := ⟨reduced_of_mem_disjuncts hc.reduced hd, each_of_mem_disjuncts hc.own hd⟩
  cover hc h hq := ⟨reduced_of_mem_cover h hc.reduced hq, each_of_mem_cover h hc.own hq⟩

/-- A canonical criterion matches the candidate. -/
theorem Canonical.holds_self (h : Canonical a c) : c.holds a = true := by
  obtain ⟨hreduced, hown⟩ := h
  have hfilled := hreduced.filled
  clear hreduced
  induction hfilled with
  | equals f v =>
    cases hown with
    | equals h =>
      rw [holds_equals, beq_iff_eq]
      exact Record.normalValue?_eq_some_iff.2 h.symm
  | any hne _ ih =>
    cases hown with
    | any hparts =>
      obtain ⟨p, ps, rfl⟩ := List.exists_cons_of_ne_nil hne
      rw [holds_any]
      exact List.any_eq_true.2 ⟨p, List.mem_cons_self, ih p List.mem_cons_self
        (hparts p List.mem_cons_self)⟩
  | all hne _ ih =>
    cases hown with
    | all hparts =>
      rw [holds_all, Bool.and_eq_true, List.all_eq_true]
      exact ⟨by simpa using hne, fun p hp => ih p hp (hparts p hp)⟩

theorem isNever_of_not_holds_self (h : isDuplicate s a a = false) :
    (ofCandidate s a).isNever = true := by
  rcases canonical_ofCandidate s a with hnever | hc
  · rw [hnever]
    rfl
  · rw [isDuplicate, hc.holds_self] at h
    cases h

/-- **A candidate's criterion is canonical, or there is none.** It is the criterion without records,
or every node joins two parts or more, none of them joined in the same way, and every equation asks
for a value of the candidate. The same holds of all that is asked for the candidate and of all that
is kept, whatever the budget. So the criterion is the one without records exactly when no record is
a duplicate of the candidate, which is when the candidate is no duplicate of itself. -/
theorem ofCandidate_canonical (s : Selection) (a : Record) :
    (ofCandidate s a = .never ∨ Canonical a (ofCandidate s a)) ∧
      (∀ limit, 1 ≤ budget limit → ∀ batch, ∃ probes, (plan limit s batch).value = .ok probes ∧
        ∀ p ∈ probes, ∃ b, batch[p.candidate]? = some b ∧ Canonical b p.ask ∧ Canonical b p.keep) ∧
      ((ofCandidate s a).isNever = true ↔ ∀ b, isDuplicate s a b = false) ∧
      ((ofCandidate s a).isNever = true ↔ isDuplicate s a a = false) := by
  have hnone : (ofCandidate s a).isNever = true → ∀ b, isDuplicate s a b = false :=
    fun h b => holds_eq_false_of_isNever h
  refine ⟨canonical_ofCandidate s a, fun limit hb batch => ?_,
    ⟨hnone, fun h => isNever_of_not_holds_self (h a)⟩,
    ⟨fun h => hnone h a, isNever_of_not_holds_self⟩⟩
  obtain ⟨probes, hplan⟩ := exists_planFrom hb 0 (batch.map (ofCandidate s))
  refine ⟨probes, hplan, fun p hp => ?_⟩
  obtain ⟨b, hb, -⟩ := serves_of_mem_plan hplan hp
  exact ⟨b, hb,
    inherits_of_mem_plan (inherited_canonical b) hplan hp hb (canonical_ofCandidate s b)⟩

/-- Under a rule for both names nobody is a duplicate of one who has no surname. Both names do not
fit a budget of one value, so that one of them is asked for, and both are kept. -/
theorem ofCandidate_canonical_named :
    1 ≤ budget 2 ∧
      (∀ b, isDuplicate Held.bothNames (Held.named "" "" "Ann" " ") b = false) ∧
      isDuplicate Held.bothNames (Held.named "" "" "Ann" "Lee") (Held.named "" "" "Ann" "Lee") =
        true ∧
      ∃ probes, (plan 2 Held.bothNames [Held.named "" "" "Ann" "Lee"]).value = .ok probes ∧
        probes.length = 1 ∧
        ∀ p ∈ probes, ∃ b, [Held.named "" "" "Ann" "Lee"][p.candidate]? = some b ∧
          Canonical b p.ask ∧ Canonical b p.keep := by
  obtain ⟨-, -, hnone, -⟩ := ofCandidate_canonical Held.bothNames (Held.named "" "" "Ann" " ")
  obtain ⟨-, hplan, -, hself⟩ := ofCandidate_canonical Held.bothNames (Held.named "" "" "Ann" "Lee")
  have hasked : (plan 2 Held.bothNames [Held.named "" "" "Ann" "Lee"]).value =
      .ok [⟨0, .equals .firstName "Ann", .all [.equals .firstName "Ann", .equals .lastName "Lee"]⟩] :=
    rfl
  obtain ⟨probes, hprobes, hcanonical⟩ :=
    hplan 2 (by decide) [Held.named "" "" "Ann" "Lee"]
  refine ⟨by decide, hnone.1 (by decide), ?_, probes, hprobes, ?_, hcanonical⟩
  · refine Bool.eq_true_of_not_eq_false fun h => ?_
    have hnever := hself.2 h
    revert hnever
    decide
  · obtain rfl := Except.ok.inj (hprobes.symm.trans hasked)
    rfl

end Registrar.Lookup
