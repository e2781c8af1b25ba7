import Registrar.Proofs.Batch.Graph
import Registrar.Proofs.Report.Monotone

/-!
Searches for rows with fewer values. Emptying a field takes a clause out of a group where one field
is enough and makes a group without a rule where each field has to agree, and it may change what the
whole batch asks for. None of this makes a duplicate: two records agree in a field only where both
have a value, and more agreement is never fewer duplicates. So a search of held records reports
nothing for the emptied rows that it does not report for the rows (`search_emptied`).
-/

namespace Registrar

/-- The second record is the first one, with values that are empty in normal form in some of its
fields. -/
structure Record.Emptied (a b : Record) : Prop where
  id : b.id = a.id
  country : b.country = a.country
  deletedAt : b.deletedAt = a.deletedAt
  value : ∀ f, b.value f = a.value f ∨ f.normalize (b.value f) = ""

variable {s : Selection} {a a' b b' r : Record} {batch batch' : List Record}

theorem Record.Emptied.refl (a : Record) : a.Emptied a := ⟨rfl, rfl, rfl, fun _ => .inl rfl⟩

/-! ### The rule -/

theorem Field.agrees_of_emptied (ha : a.Emptied a') (hb : b.Emptied b') (f : Field)
    (h : f.agrees a' b' = true) : f.agrees a b = true := by
  have hfilled : f.normalize (a'.value f) ≠ "" ∧ f.normalize (b'.value f) ≠ "" := by
    unfold agrees at h
    simp only [Bool.and_eq_true, bne_iff_ne] at h
    exact h.1
  have hva : a'.value f = a.value f := (ha.value f).resolve_right hfilled.1
  have hvb : b'.value f = b.value f := (hb.value f).resolve_right hfilled.2
  unfold agrees at h ⊢
  rwa [hva, hvb] at h

theorem isDuplicate_of_emptied (ha : a.Emptied a') (hb : b.Emptied b')
    (h : isDuplicate s a' b' = true) : isDuplicate s a b = true :=
  isDuplicate_mono s (Field.agrees_of_emptied ha hb) h

/-! ### The scan and held records -/

namespace Batch

theorem duplicates_of_emptied (h : List.Forall₂ Record.Emptied batch batch') {i j : Nat}
    (hdup : Duplicates s batch' i j) : Duplicates s batch i j := by
  have hrow : ∀ {k : Nat} {r' : Record}, batch'[k]? = some r' →
      ∃ r : Record, batch[k]? = some r ∧ r.Emptied r' := by
    intro k r' hk
    obtain ⟨hk', rfl⟩ := List.getElem?_eq_some_iff.1 hk
    have hlt : k < batch.length := h.length_eq ▸ hk'
    exact ⟨batch[k], List.getElem?_eq_getElem hlt, h.get hlt hk'⟩
  obtain ⟨hne, a', b', ha', hb', hmatch⟩ := hdup
  obtain ⟨a, ha, hemptied⟩ := hrow ha'
  obtain ⟨b, hb, hemptied'⟩ := hrow hb'
  exact ⟨hne, a, b, ha, hb, isDuplicate_of_emptied hemptied hemptied' hmatch⟩

theorem scan_emptied (h : List.Forall₂ Record.Emptied batch batch') :
    List.Forall₂ (· ⊆ ·) (scan s batch') (scan s batch) :=
  forall₂_scan_subset h.length_eq.symm fun _ _ => duplicates_of_emptied h

end Batch

theorem Held.duplicates_emptied {held : Held} {country : String} (h : a.Emptied a') :
    held.duplicates s country a' ⊆ held.duplicates s country a := by
  intro r hr
  obtain ⟨hlive, hdup, hown⟩ := mem_duplicates.1 hr
  have hown' : Lookup.isOwn a r = false := by
    unfold Lookup.isOwn at hown ⊢
    rwa [h.id] at hown
  exact mem_duplicates.2 ⟨hlive, isDuplicate_of_emptied h (.refl r) hdup, hown'⟩

/-! ### Searches -/

namespace Report

theorem expected_emptied (h : List.Forall₂ Record.Emptied batch batch') (records : List Record)
    (country : String) :
    (expected records s country batch').Within (expected records s country batch) := by
  refine ⟨Batch.scan_emptied h, ?_⟩
  unfold expected
  dsimp only
  rw [List.forall₂_map_left_iff, List.forall₂_map_right_iff]
  exact h.flip.imp fun _ _ hrow => Held.duplicates_emptied hrow

/-- **Emptying a field never makes a duplicate.** Let some rows of a batch have, in some of their
fields, values that are empty in normal form in place of their own. Then row by row, under any
selection and whatever the limits are, a search of held records reports for the emptied batch no
place and no stored record that it does not report for the batch. There are reports, if all values
together fit a word. -/
theorem search_emptied {batch batch' : List Record} (h : List.Forall₂ Record.Emptied batch batch')
    {records : List Record} (hids : (records.map fun r => r.normalize.id).Nodup)
    {limit limit' : Nat} (hl : 2 ≤ limit) (hl' : 2 ≤ limit') (s : Selection) (country : String)
    (asked asked' : Nat) :
    ((batch.map fun a => (Criterion.ofCandidate s a).size).sum < UInt64.size →
      ∃ report, ofHeld limit records s country batch asked = .ok report) ∧
    ((batch'.map fun a => (Criterion.ofCandidate s a).size).sum < UInt64.size →
      ∃ report', ofHeld limit' records s country batch' asked' = .ok report') ∧
    ∀ report report', ofHeld limit records s country batch asked = .ok report →
      ofHeld limit' records s country batch' asked' = .ok report' → report'.Within report := by
  refine ⟨exists_ofHeld hids hl, exists_ofHeld hids hl', fun report report' hreport hreport' => ?_⟩
  rw [eq_expected hids hl hreport, eq_expected hids hl' hreport']
  exact expected_emptied h records country

/-- Three rows of one person, the last one with the given first name. -/
def threeRows (first : String) : List Record :=
  [Held.named "" "" "Ann" "Lee", Held.named "" "" " Ann" "Lee", Held.named "" "" first "Lee"]

/-- With the first name of the last row emptied, the other two rows are still duplicates of each
other, and the last one has none left. -/
theorem search_emptied_threeRows :
    List.Forall₂ Record.Emptied (threeRows "Ann ") (threeRows "\t") ∧
      ∃ report report',
        ofHeld 2 Held.threeNamed Held.bothNames "NL" (threeRows "Ann ") 0 = .ok report ∧
        ofHeld 3 Held.threeNamed Held.bothNames "NL" (threeRows "\t") 5 = .ok report' ∧
        report'.Within report ∧ report.inBatch = [[1, 2], [0, 2], [0, 1]] ∧
        report'.inBatch = [[1], [0], []] := by
  have hrows : List.Forall₂ Record.Emptied (threeRows "Ann ") (threeRows "\t") := by
    have hlast : (Held.named "" "" "Ann " "Lee").Emptied (Held.named "" "" "\t" "Lee") := by
      refine ⟨rfl, rfl, rfl, fun f => ?_⟩
      cases f with
      | firstName => exact .inr (by decide)
      | _ => exact .inl (by simp [Record.value, Held.named])
    exact .cons (.refl _) (.cons (.refl _) (.cons hlast .nil))
  obtain ⟨hreport, hreport', hwithin⟩ := @search_emptied _ _ hrows Held.threeNamed (by decide) 2 3
    (by decide) (by decide) Held.bothNames "NL" 0 5
  obtain ⟨report, h⟩ := hreport (by decide)
  obtain ⟨report', h'⟩ := hreport' (by decide)
  refine ⟨hrows, report, report', h, h', hwithin report report' h h', ?_, ?_⟩
  · rw [eq_expected (by decide) (by decide) h]
    decide
  · rw [eq_expected (by decide) (by decide) h']
    decide

end Report

end Registrar
