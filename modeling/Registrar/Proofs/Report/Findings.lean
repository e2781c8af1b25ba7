import Registrar.Command.Run
import Registrar.Proofs.Batch.Graph
import Registrar.Proofs.Lookup.Sound
import Registrar.Proofs.Report
import Registrar.Proofs.Report.Printed

/-!
What is printed about a report. The messages of the pairs come from the later places in each row's
list, places outside the batch are passed over, the number of pairs is half of a sum, and the
verdict asks other questions again. On a report that a search returned all of them agree, whatever
the registry answered: the scan is symmetric and stays inside the batch, and the lookup gives every
row one list. So each shared id, each pair and each stored duplicate is told once and in order, the
counts are exact, and a batch is clean exactly when nothing is told (`messages_tell_report`).
-/

namespace Registrar

namespace Report

/-! ### The entries of all rows -/

/-- The entries of all rows, each with the place of its row. -/
def listed {α : Type} (rows : List (List α)) : List (Nat × α) :=
  rows.zipIdx.flatMap fun (row, i) => row.map (i, ·)

section Listed

variable {α : Type} {rows : List (List α)} {i : Nat} {x : α}

theorem mem_listed : (i, x) ∈ listed rows ↔ ∃ row, rows[i]? = some row ∧ x ∈ row := by
  unfold listed
  rw [List.mem_flatMap]
  constructor
  · rintro ⟨⟨row, k⟩, hrow, hmem⟩
    obtain ⟨y, hy, heq⟩ := List.mem_map.1 hmem
    cases heq
    exact ⟨row, List.mk_mem_zipIdx_iff_getElem?.1 hrow, hy⟩
  · rintro ⟨row, hrow, hx⟩
    exact ⟨(row, i), List.mk_mem_zipIdx_iff_getElem?.2 hrow, List.mem_map_of_mem hx⟩

theorem length_listed (rows : List (List α)) :
    (listed rows).length = (rows.map List.length).sum := by
  have hrow : ∀ p : List α × Nat, (p.1.map (p.2, ·)).length = p.1.length := by simp
  have hrows : rows.zipIdx.map (fun p => p.1.length) = rows.map List.length := by
    rw [← congrArg (List.map List.length) (List.zipIdx_map_fst 0 rows), List.map_map]
    rfl
  unfold listed
  rw [List.length_flatMap]
  simp only [hrow, hrows]

theorem listed_eq_nil_iff : listed rows = [] ↔ rows.any (!·.isEmpty) = false := by
  constructor
  · intro hnil
    rw [List.any_eq_false]
    intro row hrow hne
    obtain ⟨i, hi⟩ := List.mem_iff_getElem?.1 hrow
    cases row with
    | nil => exact absurd hne (by simp)
    | cons x xs =>
      have hx : (i, x) ∈ listed rows := mem_listed.2 ⟨_, hi, List.mem_cons_self⟩
      rw [hnil] at hx
      cases hx
  · intro hempty
    refine List.eq_nil_iff_forall_not_mem.2 fun ⟨i, x⟩ hx => ?_
    obtain ⟨row, hrow, hmem⟩ := mem_listed.1 hx
    have hnil := List.any_eq_false.1 hempty row (List.mem_of_getElem? hrow)
    cases row with
    | nil => cases hmem
    | cons y ys => exact hnil rfl

theorem pairwise_listed {places : List (List Nat)} (h : ∀ row ∈ places, row.Pairwise (· < ·)) :
    (listed places).Pairwise (Prod.Lex (· < ·) (· < ·)) := by
  have hindex : places.zipIdx.Pairwise fun p q => p.2 < q.2 := by
    have hrange : (places.zipIdx.map Prod.snd).Pairwise (· < ·) := by
      rw [List.zipIdx_map_snd]
      exact List.pairwise_lt_range'
    exact List.pairwise_map.1 hrange
  refine List.pairwise_flatMap.2 ⟨fun ⟨row, i⟩ hrow => ?_, hindex.imp fun {p q} hpq => ?_⟩
  · have hmem : row ∈ places := List.mem_of_getElem? (List.mk_mem_zipIdx_iff_getElem?.1 hrow)
    exact List.pairwise_map.2 ((h row hmem).imp fun hxy => Prod.Lex.right i hxy)
  · intro x hx y hy
    obtain ⟨a, -, rfl⟩ := List.mem_map.1 hx
    obtain ⟨b, -, rfl⟩ := List.mem_map.1 hy
    exact Prod.Lex.left a b hpq

/-- What a filter makes of a list that it keeps all of. -/
theorem forall₂_filterMap {β γ : Type} {f : β → Option γ} {xs : List β}
    (h : ∀ x ∈ xs, ∃ y, f x = some y) :
    List.Forall₂ (fun x y => f x = some y) xs (xs.filterMap f) := by
  induction xs with
  | nil => exact .nil
  | cons x xs ih =>
    obtain ⟨⟨y, hy⟩, hxs⟩ := List.forall_mem_cons.1 h
    rw [List.filterMap_cons_some hy]
    exact .cons hy (ih hxs)

end Listed

/-! ### The pairs of a report -/

/-- The pairs that a report tells, the earlier place first. -/
def pairs (report : Report) : List (Nat × Nat) :=
  (listed report.inBatch).filter fun p => p.1 < p.2

/-- The message of a pair, if both places are in the batch. -/
def pairMessage? (batch : List Record) (fields : List Field) (p : Nat × Nat) : Option Message :=
  match batch[p.1]?, batch[p.2]? with
  | some a, some b => some (pairMessage fields p.1 p.2 a b)
  | _, _ => none

/-- The message of a stored duplicate, if the place is in the batch. -/
def storedMessage? (batch : List Record) (fields : List Field) (p : Nat × Record) :
    Option Message :=
  batch[p.1]?.map fun a => storedMessage fields p.1 a p.2

variable (report : Report) (batch : List Record) (fields : List Field)

theorem pairMessages_eq :
    report.pairMessages batch fields = report.pairs.filterMap (pairMessage? batch fields) := by
  unfold pairMessages pairs listed
  rw [List.filter_flatMap, List.filterMap_flatMap]
  refine List.flatMap_congr fun ⟨others, i⟩ _ => ?_
  dsimp only
  rw [List.filter_map, List.filterMap_map]
  rfl

theorem storedMessages_eq : report.storedMessages batch fields =
    (listed report.stored).filterMap (storedMessage? batch fields) := by
  unfold storedMessages listed
  rw [List.filterMap_flatMap]
  refine List.flatMap_congr fun ⟨records, i⟩ _ => ?_
  dsimp only
  rw [List.filterMap_map]
  cases hi : batch[i]? with
  | none => simp [storedMessage?, Function.comp_def, hi]
  | some a => simp [storedMessage?, Function.comp_def, hi]

end Report

namespace Batch

variable {s : Selection} {batch : List Record} {i j : Nat}

theorem mem_listed_scan : (i, j) ∈ Report.listed (scan s batch) ↔ Duplicates s batch i j :=
  Report.mem_listed.trans adjacent_iff

/-- Each pair is listed with both of its rows, so half of what is listed is one end of each. -/
theorem length_listed_scan (s : Selection) (batch : List Record) :
    (Report.listed (scan s batch)).length =
      2 * ((Report.listed (scan s batch)).filter fun p => p.1 < p.2).length := by
  have hnodup : (Report.listed (scan s batch)).Nodup :=
    (Report.pairwise_listed fun row => pairwise_of_mem_scan).imp fun {p q} hpq heq => by
      subst heq
      rcases Prod.lex_def.1 hpq with h | ⟨-, h⟩
      · exact Nat.lt_irrefl _ h
      · exact Nat.lt_irrefl _ h
  -- the entries that point backwards are those that point forwards, turned round
  have hturn : (((Report.listed (scan s batch)).filter fun p => p.1 < p.2).map Prod.swap).Perm
      ((Report.listed (scan s batch)).filter fun p => !decide (p.1 < p.2)) := by
    refine (List.perm_ext_iff_of_nodup ((hnodup.filter _).map Prod.swap_injective)
      (hnodup.filter _)).2 fun ⟨i, j⟩ => ?_
    simp only [List.mem_map, List.mem_filter, Prod.exists, Prod.swap_prod_mk, Prod.mk.injEq,
      mem_listed_scan, decide_eq_true_eq, Bool.not_eq_true', decide_eq_false_iff_not, not_lt]
    constructor
    · rintro ⟨j, i, ⟨hdup, hlt⟩, rfl, rfl⟩
      exact ⟨hdup.symm, hlt.le⟩
    · rintro ⟨hdup, hle⟩
      exact ⟨j, i, ⟨hdup.symm, lt_of_le_of_ne hle hdup.1.symm⟩, rfl, rfl⟩
  have hback := hturn.length_eq
  rw [List.length_map] at hback
  rw [List.length_eq_length_filter_add (fun p => decide (p.1 < p.2)), ← hback]
  omega

end Batch

namespace Report

/-! ### What a search returned -/

variable {σ : Type} {registry : Registry (StateM σ)} {s : Selection} {country : String}
  {batch : List Record} {st : σ} {report : Report}

/-- A search that returns a report gives every row of the batch its two lists. -/
theorem of_search_eq_ok (h : ((search registry s country batch).run st).1.value = .ok report) :
    report.inBatch = Batch.scan s batch ∧ report.stored.length = batch.length := by
  rw [value_search] at h
  cases hfound : ((Lookup.run registry s country batch).run st).1.value with
  | error e =>
    rw [hfound] at h
    cases h
  | ok stored =>
    rw [hfound] at h
    cases h
    exact ⟨rfl, (Lookup.forall₂_duplicates_of_run_eq_ok hfound).length_eq.symm⟩

theorem duplicates_of_mem_pairs (hscan : report.inBatch = Batch.scan s batch) {p : Nat × Nat}
    (hp : p ∈ report.pairs) : Batch.Duplicates s batch p.1 p.2 := by
  rw [pairs, hscan] at hp
  exact Batch.mem_listed_scan.1 (List.mem_of_mem_filter hp)

theorem forall₂_pairMessages (hscan : report.inBatch = Batch.scan s batch) (fields : List Field) :
    List.Forall₂ (fun p m => ∃ a b, batch[p.1]? = some a ∧ batch[p.2]? = some b ∧
      m = pairMessage fields p.1 p.2 a b) report.pairs (report.pairMessages batch fields) := by
  have hrows : ∀ p ∈ report.pairs, ∃ a b, batch[p.1]? = some a ∧ batch[p.2]? = some b := by
    intro p hp
    obtain ⟨-, a, b, ha, hb, -⟩ := duplicates_of_mem_pairs hscan hp
    exact ⟨a, b, ha, hb⟩
  rw [pairMessages_eq]
  refine (forall₂_filterMap fun p hp => ?_).imp fun p m hm => ?_
  · obtain ⟨a, b, ha, hb⟩ := hrows p hp
    exact ⟨_, by rw [pairMessage?, ha, hb]⟩
  · unfold pairMessage? at hm
    split at hm
    · next a b ha hb => exact ⟨a, b, ha, hb, (Option.some.inj hm).symm⟩
    · cases hm

theorem forall₂_storedMessages (hlength : report.stored.length = batch.length)
    (fields : List Field) :
    List.Forall₂ (fun p m => ∃ a, batch[p.1]? = some a ∧ m = storedMessage fields p.1 a p.2)
      (listed report.stored) (report.storedMessages batch fields) := by
  rw [storedMessages_eq]
  refine (forall₂_filterMap fun p hp => ?_).imp fun p m hm => ?_
  · obtain ⟨row, hrow, -⟩ := mem_listed.1 hp
    have hlt : p.1 < batch.length := hlength ▸ (List.getElem?_eq_some_iff.1 hrow).1
    exact ⟨_, by rw [storedMessage?, List.getElem?_eq_getElem hlt]; rfl⟩
  · obtain ⟨a, ha, rfl⟩ := Option.map_eq_some_iff.1 hm
    exact ⟨a, ha, rfl⟩

/-- Half of what is listed is one end of each pair, so the division leaves nothing over. -/
theorem sum_length_inBatch (hscan : report.inBatch = Batch.scan s batch) :
    (report.inBatch.map List.length).sum = 2 * report.pairs.length := by
  rw [← length_listed, pairs, hscan, Batch.length_listed_scan]

/-- The verdict finds nothing exactly where there is nothing to tell. -/
theorem clean_eq_isEmpty (hscan : report.inBatch = Batch.scan s batch)
    (hlength : report.stored.length = batch.length) :
    (Findings.ofReport s batch report).clean =
      (Findings.ofReport s batch report).messages.isEmpty := by
  have hpairs : report.pairMessages batch s.fields = [] ↔
      report.inBatch.any (!·.isEmpty) = false := by
    rw [← listed_eq_nil_iff, ← List.length_eq_zero_iff, ← List.length_eq_zero_iff, length_listed,
      sum_length_inBatch hscan, (forall₂_pairMessages hscan s.fields).length_eq]
    omega
  have hstored : report.storedMessages batch s.fields = [] ↔
      report.stored.any (!·.isEmpty) = false := by
    rw [← listed_eq_nil_iff, ← List.length_eq_zero_iff, ← List.length_eq_zero_iff,
      (forall₂_storedMessages hlength s.fields).length_eq]
  rw [Bool.eq_iff_iff, List.isEmpty_iff]
  unfold Findings.ofReport messages hasDuplicates
  simp only [List.append_eq_nil_iff, List.map_eq_nil_iff, hpairs, hstored, Bool.and_eq_true,
    Bool.not_eq_true', Bool.or_eq_false_iff, List.isEmpty_iff]

/-- **The messages tell the report.** Let a search have returned a report on a batch, whatever the
registry answered. The messages are one for each shared id, then one for each pair of the report,
then one for each stored duplicate of each row. The pairs are in order, the earlier place first, and
the lists of places tell these pairs and no other, from both ends; so the counted pairs are the
pairs, and twice their number is the length of all lists. What is printed are these findings, and
shows every message with its text and its details, in order. The batch is called clean exactly when
there is no message. -/
theorem messages_tell_report {σ : Type} {registry : Registry (StateM σ)} {s : Selection}
    {country : String} {batch : List Record} {st : σ} {report : Report}
    (h : ((search registry s country batch).run st).1.value = .ok report) :
    (∃ told found, (Findings.ofReport s batch report).messages =
        (Batch.sharedIds batch).map (Batch.SharedId.message batch) ++ told ++ found ∧
      List.Forall₂ (fun p m => ∃ a b, batch[p.1]? = some a ∧ batch[p.2]? = some b ∧
        m = pairMessage s.fields p.1 p.2 a b) report.pairs told ∧
      List.Forall₂ (fun p m => ∃ a, batch[p.1]? = some a ∧ m = storedMessage s.fields p.1 a p.2)
        (listed report.stored) found) ∧
    report.pairs.Pairwise (Prod.Lex (· < ·) (· < ·)) ∧
    (∀ p ∈ report.pairs, p.1 < p.2) ∧
    (∀ i j, (∃ places, report.inBatch[i]? = some places ∧ j ∈ places) ↔
      (i, j) ∈ report.pairs ∨ (j, i) ∈ report.pairs) ∧
    report.pairCount = report.pairs.length ∧
    (report.inBatch.map List.length).sum = 2 * report.pairCount ∧
    (Findings.ofReport s batch report).messages.length =
      (Batch.sharedIds batch).length + report.pairCount +
        (report.stored.map List.length).sum ∧
    ∃ printed, printed = (Json.members [("groups", .texts s.ids),
        ("operator", .text s.connective.word), ("report", report.toJson),
        ("messages", .array ((Findings.ofReport s batch report).messages.map
          Message.toJson))]).pretty ++ "\n" ∧
      Findings.shown? printed = some (Findings.ofReport s batch report).messages ∧
      ∀ {m : Type → Type} [Monad m] [LawfulMonad m] (host : Host m),
        (Command.printFindings host s batch report).run = do
          host.print printed
          return .ok (Findings.ofReport s batch report).messages.isEmpty := by
  obtain ⟨hscan, hlength⟩ := of_search_eq_ok h
  have hpairs := forall₂_pairMessages hscan s.fields
  have hstored := forall₂_storedMessages hlength s.fields
  have htotal := sum_length_inBatch hscan
  have hcount : report.pairCount = report.pairs.length := by
    rw [pairCount, Batch.pairCount, List.length_flatten, htotal]
    omega
  refine ⟨⟨_, _, (List.append_assoc _ _ _).symm, hpairs, hstored⟩, ?_, fun p hp => ?_,
    fun i j => ?_, hcount, hcount ▸ htotal, ?_, _, rfl,
    (Findings.ofReport s batch report).shown?_printed, fun {m} _ _ host => ?_⟩
  · rw [pairs, hscan]
    exact (pairwise_listed fun row => Batch.pairwise_of_mem_scan).sublist List.filter_sublist
  · exact of_decide_eq_true (List.mem_filter.1 hp).2
  · simp only [pairs, hscan, List.mem_filter, Batch.mem_listed_scan, decide_eq_true_eq]
    refine Batch.adjacent_iff.trans ⟨fun hdup => ?_, ?_⟩
    · rcases Nat.lt_or_gt_of_ne hdup.1 with hij | hji
      · exact .inl ⟨hdup, hij⟩
      · exact .inr ⟨hdup.symm, hji⟩
    · rintro (⟨hdup, -⟩ | ⟨hdup, -⟩)
      · exact hdup
      · exact hdup.symm
  · have hlengths : (Findings.ofReport s batch report).messages.length =
        (Batch.sharedIds batch).length + ((report.pairMessages batch s.fields).length +
          (report.storedMessages batch s.fields).length) := by
      simp [Findings.ofReport, messages]
    rw [hlengths, ← hpairs.length_eq, ← hstored.length_eq, hcount, length_listed, Nat.add_assoc]
  · rw [← clean_eq_isEmpty hscan hlength]
    unfold Command.printFindings
    simp [Except.map, Findings.toJson, Findings.ofReport]

/-- Three rows; the first two share an id and both names. -/
def sharedName : List Record :=
  [Held.named "x" "" "Ann" "Lee", Held.named " x" "" "Ann " "Lee", Held.named "" "" "" "Poe"]

/-- One shared id, one pair and three stored duplicates of each of its rows make eight messages. -/
theorem messages_tell_report_sharedName :
    ∃ report,
      ((search (.lasting 10 1 Lookup.stray) Held.bothNames "NL" sharedName).run 0).1.value =
        .ok report ∧
      report.pairs = [(0, 1)] ∧
      (Findings.ofReport Held.bothNames sharedName report).messages.length = 1 + 1 + 6 ∧
      ∃ printed, Findings.shown? printed =
          some (Findings.ofReport Held.bothNames sharedName report).messages ∧
        ∀ host : Host Id, (Command.printFindings host Held.bothNames sharedName report).run = do
          host.print printed
          return .ok false := by
  have hsearch : ((search (.lasting 10 1 Lookup.stray) Held.bothNames "NL" sharedName).run
      0).1.value = .ok ⟨[[1], [0], []],
        [[Held.named "a" "NL" "Ann" "Lee", Held.named "b" "NL" "Ann" "Lee",
            Held.named "c" "BE" "Ann" "Lee"],
          [Held.named "a" "NL" "Ann" "Lee", Held.named "b" "NL" "Ann" "Lee",
            Held.named "c" "BE" "Ann" "Lee"], []]⟩ := by decide
  obtain ⟨-, -, -, -, -, -, hlength, printed, -, hshown, hprint⟩ := messages_tell_report hsearch
  have hshared : (Batch.sharedIds sharedName).length = 1 := by decide
  rw [hshared] at hlength
  refine ⟨_, hsearch, by decide, hlength, printed, hshown, fun host => (hprint host).trans ?_⟩
  have hne : (Findings.ofReport Held.bothNames sharedName _).messages ≠ [] :=
    List.ne_nil_of_length_pos (by rw [hlength]; decide)
  rw [List.isEmpty_eq_false_iff.2 hne]

end Report

end Registrar
