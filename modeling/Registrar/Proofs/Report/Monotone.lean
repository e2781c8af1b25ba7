import Registrar.Proofs.Batch.Graph
import Registrar.Proofs.Lookup.Held
import Registrar.Proofs.Report
import Registrar.Proofs.Selection

/-!
Searches under more groups. What a search of held records reports is settled by the rule, not by how
the rule is split, weakened and asked for. So where more groups are chosen a report gets more
duplicates if one group is enough, and fewer if each of them has to agree, and the order of the
groups does not matter (`search_mono`).
-/

namespace Registrar

variable {s t : Selection} {batch : List Record}

/-! ### The scan -/

namespace Batch

theorem scan_mono (h : ∀ a b, isDuplicate s a b = true → isDuplicate t a b = true)
    (batch : List Record) : List.Forall₂ (· ⊆ ·) (scan s batch) (scan t batch) := by
  refine forall₂_scan_subset rfl fun i j hdup => ?_
  obtain ⟨hne, a, b, ha, hb, hmatch⟩ := hdup
  exact ⟨hne, a, b, ha, hb, h a b hmatch⟩

/-- The places in a batch that match a row. -/
def placesFor (s : Selection) (batch : List Record) (row : Record × Nat) : List Nat :=
  (batch.zipIdx.filter fun other =>
    matched (entryAt s row.2 row.1) (entryAt s other.2 other.1)).map (·.2)

theorem scan_eq_map_placesFor (s : Selection) (batch : List Record) :
    scan s batch = batch.zipIdx.map (placesFor s batch) := by
  rw [scan_eq, entries, List.map_map]
  refine List.map_congr_left fun row _ => ?_
  rw [Function.comp_apply, List.filter_map, List.map_map]
  rfl

theorem scan_congr (h : ∀ a b, isDuplicate s a b = isDuplicate t a b) (batch : List Record) :
    scan s batch = scan t batch := by
  rw [scan_eq_map_placesFor, scan_eq_map_placesFor]
  refine List.map_congr_left fun row _ => ?_
  unfold placesFor
  simp only [matched_entryAt, h]

end Batch

/-! ### Held records -/

namespace Held

variable {held : Held} {country : String} {candidate : Record}

theorem duplicates_mono (h : ∀ a b, isDuplicate s a b = true → isDuplicate t a b = true) :
    held.duplicates s country candidate ⊆ held.duplicates t country candidate := by
  intro r hr
  obtain ⟨hlive, hdup, hown⟩ := mem_duplicates.1 hr
  exact mem_duplicates.2 ⟨hlive, h _ _ hdup, hown⟩

theorem duplicates_congr (h : ∀ a b, isDuplicate s a b = isDuplicate t a b) :
    held.duplicates s country candidate = held.duplicates t country candidate := by
  unfold duplicates
  simp only [h]

end Held

/-! ### Searches -/

namespace Report

variable {records : List Record} {country : String} {limit asked : Nat}

/-- The outcome of a search of held records. -/
def ofHeld (limit : Nat) (records : List Record) (s : Selection) (country : String)
    (batch : List Record) (asked : Nat) : Except StoreError Report :=
  ((search (Held.ofRecords limit records).registry s country batch).run asked).1.value

/-- Row by row, every duplicate in the one report is one in the other. -/
structure Within (report report' : Report) : Prop where
  inBatch : List.Forall₂ (· ⊆ ·) report.inBatch report'.inBatch
  stored : List.Forall₂ (· ⊆ ·) report.stored report'.stored

/-- What a search of held records is expected to report. -/
def expected (records : List Record) (s : Selection) (country : String) (batch : List Record) :
    Report :=
  ⟨Batch.scan s batch, batch.map ((Held.ofRecords 0 records).duplicates s country)⟩

/-- A report on held records is the expected one, whatever the limit. -/
theorem eq_expected (hids : (records.map fun r => r.normalize.id).Nodup) (hl : 2 ≤ limit)
    {report : Report} (h : ofHeld limit records s country batch asked = .ok report) :
    report = expected records s country batch := by
  rw [ofHeld, value_search] at h
  obtain ⟨found, hv, rfl⟩ := map_eq_ok_iff.1 h
  -- what is held does not depend on the limit
  rw [Held.eq_of_value_run hids hl hv]
  rfl

theorem exists_ofHeld (hids : (records.map fun r => r.normalize.id).Nodup) (hl : 2 ≤ limit)
    (hsize : (batch.map fun a => (Criterion.ofCandidate s a).size).sum < UInt64.size) :
    ∃ report, ofHeld limit records s country batch asked = .ok report := by
  rw [ofHeld, value_search, Held.value_run hids hl hsize]
  exact ⟨_, rfl⟩

theorem expected_mono (h : ∀ a b, isDuplicate s a b = true → isDuplicate t a b = true) :
    (expected records s country batch).Within (expected records t country batch) := by
  refine ⟨Batch.scan_mono h batch, ?_⟩
  unfold expected
  dsimp only
  rw [List.forall₂_map_left_iff, List.forall₂_map_right_iff, List.forall₂_same]
  exact fun candidate _ => Held.duplicates_mono h

theorem expected_congr (h : ∀ a b, isDuplicate s a b = isDuplicate t a b) :
    expected records s country batch = expected records t country batch := by
  unfold expected
  rw [Batch.scan_congr h]
  exact congrArg _ (List.map_congr_left fun candidate _ => Held.duplicates_congr h)

/-- **More groups, another report.** Let two selections be made from one catalog, so that each name
of the first one is a name of the second. If one group is enough, then a search of held records
under the first selection reports no duplicate that the second one does not report, and if each
group has to agree, it is the other way round. Names of the same groups, in any order and however
often, make the same report. There are reports whatever the limits are, if all values together fit a
word. -/
theorem search_mono {catalog : Catalog} {names names' : List String} {connective : Connective}
    (hs : Selection.ofNames catalog names connective = .ok s)
    (ht : Selection.ofNames catalog names' connective = .ok t)
    (hnames : ∀ name ∈ names, Text.trim name ∈ names'.map Text.trim) {records : List Record}
    (hids : (records.map fun r => r.normalize.id).Nodup) {limit limit' : Nat} (hl : 2 ≤ limit)
    (hl' : 2 ≤ limit') (country : String) (batch : List Record) (asked asked' : Nat) :
    ((batch.map fun a => (Criterion.ofCandidate s a).size).sum < UInt64.size →
      ∃ report, ofHeld limit records s country batch asked = .ok report) ∧
    ((batch.map fun a => (Criterion.ofCandidate t a).size).sum < UInt64.size →
      ∃ report', ofHeld limit' records t country batch asked' = .ok report') ∧
    ∀ report report', ofHeld limit records s country batch asked = .ok report →
      ofHeld limit' records t country batch asked' = .ok report' →
      (connective = .any → report.Within report') ∧
      (connective = .all → report'.Within report) ∧
      ((∀ name ∈ names', Text.trim name ∈ names.map Text.trim) → report = report') := by
  refine ⟨exists_ofHeld hids hl, exists_ofHeld hids hl', fun report report' hreport hreport' => ?_⟩
  rw [eq_expected hids hl hreport, eq_expected hids hl' hreport']
  refine ⟨?_, ?_, fun hback => expected_congr (isDuplicate_of_same_names hs ht hnames hback)⟩
  · rintro rfl
    exact expected_mono fun a b => isDuplicate_of_names_any hs ht hnames
  · rintro rfl
    exact expected_mono fun a b => isDuplicate_of_names_all hs ht hnames

/-- Three rows of one surname; the first two share the first name as well. -/
def lees : List Record :=
  [Held.named "" "" "Ann" " Lee", Held.named "" "" "Ann " "Lee", Held.named "" "" "Bob" "Lee"]

/-- The first two rows are duplicates of each other and of a held record. -/
def fewer : Report :=
  ⟨[[1], [0], []], [[Held.named "b" "NL" "Ann" "Lee"], [Held.named "b" "NL" "Ann" "Lee"], []]⟩

/-- So is the last row. -/
def more : Report :=
  ⟨[[1, 2], [0, 2], [0, 1]], List.replicate 3 [Held.named "b" "NL" "Ann" "Lee"]⟩

/-- The names make a selection under which a search for the rows ends with the report. -/
def Tells (names : List String) (connective : Connective) (limit asked : Nat) (report : Report) :
    Prop :=
  ∃ s, Selection.ofNames .overlapping names connective = .ok s ∧
    ofHeld limit Held.threeNamed s "NL" lees asked = .ok report

def threeHeld : Held where
  records := [Held.named "a" "NL" "Ann" "Poe", Held.named "b" "NL" "Ann" "Lee",
    Held.named "c" "BE" "Ann" "Lee"]
  limit := 0

theorem ofRecords_threeNamed : Held.ofRecords 0 Held.threeNamed = threeHeld := by
  have hrecords : (Held.ofRecords 0 Held.threeNamed).records = threeHeld.records := by
    refine Lookup.Ascending.ext (Held.ascending_ofRecords 0 (by decide))
      (by unfold Lookup.Ascending; decide) fun r => ?_
    have hperm : (Held.threeNamed.map Record.normalize).Perm threeHeld.records := by decide
    rw [Held.mem_ofRecords, ← hperm.mem_iff, List.mem_map]
  exact congrArg (Held.mk · 0) hrecords

theorem tells_of_duplicates {names : List String} {k : Connective} {report : Report}
    (hs : Selection.ofNames .overlapping names k = .ok s) (hl : 2 ≤ limit)
    (hsize : (lees.map fun a => (Criterion.ofCandidate s a).size).sum < UInt64.size)
    (h : ⟨Batch.scan s lees, lees.map (threeHeld.duplicates s "NL")⟩ = report) :
    Tells names k limit asked report := by
  have hids : (Held.threeNamed.map fun r => r.normalize.id).Nodup := by decide
  obtain ⟨report', hreport⟩ := @exists_ofHeld _ _ _ "NL" _ asked hids hl hsize
  refine ⟨s, hs, hreport.trans ?_⟩
  rw [eq_expected hids hl hreport, expected, ofRecords_threeNamed, h]

/-- The names come in another order, with blanks, and one comes twice. If one group is enough, they
tell more than the first group alone; if each group has to agree, they tell less than the other one.
With all groups there is no difference. The limits are different throughout. -/
theorem search_mono_overlapping :
    (Tells ["Names"] .any 2 0 fewer ∧ Tells ["Contact", " Names", "Names"] .any 3 5 more ∧
      fewer.Within more) ∧
    (Tells ["Contact"] .all 2 0 more ∧ Tells ["Contact", " Names", "Names"] .all 3 5 fewer ∧
      fewer.Within more) ∧
    ∃ report, Tells ["Names", "Contact "] .all 2 0 report ∧
      Tells ["Contact", " Names", "Names"] .all 3 5 report := by
  have hids : (Held.threeNamed.map fun r => r.normalize.id).Nodup := by decide
  have hmono {names : List String} {k : Connective} {s t : Selection}
      (hs : Selection.ofNames .overlapping names k = .ok s)
      (ht : Selection.ofNames .overlapping ["Contact", " Names", "Names"] k = .ok t) hnames :=
    search_mono hs ht hnames hids (by decide : 2 ≤ 2) (by decide : 2 ≤ 3) "NL" lees 0 5
  have hother (k : Connective) (report : Report) :=
    @tells_of_duplicates _ 3 5 ["Contact", " Names", "Names"] k report rfl (by decide)
  refine ⟨?_, ?_, ?_⟩
  · have hfewer : Tells ["Names"] .any 2 0 fewer :=
      tells_of_duplicates rfl (by decide) (by decide) (by decide)
    have hmore := hother .any more (by decide) (by decide)
    obtain ⟨⟨s, hs, h⟩, t, ht, h'⟩ := And.intro hfewer hmore
    exact ⟨hfewer, hmore, ((hmono hs ht (by decide)).2.2 _ _ h h').1 rfl⟩
  · have hmore : Tells ["Contact"] .all 2 0 more :=
      tells_of_duplicates rfl (by decide) (by decide) (by decide)
    have hfewer := hother .all fewer (by decide) (by decide)
    obtain ⟨⟨s, hs, h⟩, t, ht, h'⟩ := And.intro hmore hfewer
    exact ⟨hmore, hfewer, ((hmono hs ht (by decide)).2.2 _ _ h h').2.1 rfl⟩
  · obtain ⟨hreport, hreport', hsame⟩ := @hmono ["Names", "Contact "] .all _ _ rfl rfl (by decide)
    obtain ⟨report, h⟩ := hreport (by decide)
    obtain ⟨report', h'⟩ := hreport' (by decide)
    obtain rfl := (hsame report report' h h').2.2 (by decide)
    exact ⟨report, ⟨_, rfl, h⟩, ⟨_, rfl, h'⟩⟩

end Report

end Registrar
