import Mathlib.Data.Finset.Dedup
import Mathlib.Data.Finset.Insert
import Mathlib.Data.List.OfFn
import Mathlib.Logic.Equiv.Defs
import Registrar.Proofs.Batch
import Registrar.Proofs.Lookup.Held

/-!
The scan of a batch as a graph on its rows. An edge joins two different rows that are duplicates of
each other; the scan tells exactly the edges, from both of their ends, and a batch in another order
gives the same graph with its rows renamed (`scan_tells_duplicates`). The pairs need not be looked
at from both ends for that: the graph is also what is left behind by a sweep that takes each pair
once, passes over rows that can have no duplicates, and notes a match with both rows.
-/

namespace Registrar.Batch

/-! ### A sweep over the pairs -/

/-- Notes two rows with each other. -/
def notePair (i j : Nat) (noted : List (Finset Nat)) : List (Finset Nat) :=
  (noted.modify i (insert j)).modify j (insert i)

/-- Compares a row with the rows behind it. -/
def sweepRow (a : Entry) (behind : List Entry) (noted : List (Finset Nat)) : List (Finset Nat) :=
  if a.criterion.isNever then noted
  else behind.foldl
    (fun noted b => if a.criterion.holds b.record then notePair a.index b.index noted else noted)
    noted

/-- Compares each row with those behind it. -/
def sweepFrom : List Entry → List (Finset Nat) → List (Finset Nat)
  | [], noted => noted
  | a :: behind, noted => sweepFrom behind (sweepRow a behind noted)

/-- Compares each two rows of a batch once. -/
def sweep (s : Selection) (batch : List Record) : List (Finset Nat) :=
  sweepFrom (entries s batch) (batch.map fun _ => ∅)

/-- Row `j` is noted with row `i`. -/
def IsNoted (noted : List (Finset Nat)) (i j : Nat) : Prop := ∃ row, noted[i]? = some row ∧ j ∈ row

/-- The first row matches the second one, and they are `i` and `j`, in some order. -/
def Joins (i j : Nat) (a b : Entry) : Prop :=
  a.criterion.holds b.record = true ∧
    (i = a.index ∧ j = b.index ∨ i = b.index ∧ j = a.index)

variable {i j k l : Nat} {a : Entry} {behind es : List Entry} {noted : List (Finset Nat)}

theorem isNoted_modify (hi : i < noted.length) :
    IsNoted (noted.modify i (insert j)) k l ↔ IsNoted noted k l ∨ k = i ∧ l = j := by
  unfold IsNoted
  rw [List.getElem?_modify]
  by_cases hk : i = k
  · subst hk
    simp [List.getElem?_eq_getElem hi, or_comm]
  · simp [hk, Ne.symm hk]

@[simp] theorem length_notePair (i j : Nat) (noted : List (Finset Nat)) :
    (notePair i j noted).length = noted.length := by simp [notePair]

theorem isNoted_notePair (hi : i < noted.length) (hj : j < noted.length) :
    IsNoted (notePair i j noted) k l ↔
      IsNoted noted k l ∨ (k = i ∧ l = j ∨ k = j ∧ l = i) := by
  have hj' : j < (noted.modify i (insert j)).length := by rwa [List.length_modify]
  rw [notePair, isNoted_modify hj', isNoted_modify hi, or_assoc]

@[simp] theorem length_sweepRow (a : Entry) (behind : List Entry) (noted : List (Finset Nat)) :
    (sweepRow a behind noted).length = noted.length := by
  unfold sweepRow
  split
  · rfl
  · induction behind generalizing noted with
    | nil => rfl
    | cons b behind ih =>
      rw [List.foldl_cons, ih]
      split
      · exact length_notePair a.index b.index noted
      · rfl

@[simp] theorem length_sweepFrom (es : List Entry) (noted : List (Finset Nat)) :
    (sweepFrom es noted).length = noted.length := by
  induction es generalizing noted with
  | nil => rfl
  | cons a es ih => rw [sweepFrom, ih, length_sweepRow]

theorem isNoted_sweepRow (ha : a.index < noted.length)
    (hbehind : ∀ b ∈ behind, b.index < noted.length) :
    IsNoted (sweepRow a behind noted) i j ↔ IsNoted noted i j ∨ ∃ b ∈ behind, Joins i j a b := by
  unfold sweepRow
  split
  · next hnever =>
    have hnone : ¬ ∃ b ∈ behind, Joins i j a b := by
      rintro ⟨b, -, hholds, -⟩
      rw [Criterion.holds_eq_false_of_isNever hnever] at hholds
      cases hholds
    simp [hnone]
  · induction behind generalizing noted with
    | nil => simp
    | cons b behind ih =>
      obtain ⟨hb, hbehind⟩ := List.forall_mem_cons.1 hbehind
      rw [List.foldl_cons, List.exists_mem_cons_iff]
      split
      · next hholds =>
        rw [ih (by simpa using ha) (by simpa using hbehind), isNoted_notePair ha hb, or_assoc]
        simp [Joins, hholds]
      · next hholds =>
        have hno : ¬ Joins i j a b := fun h => hholds h.1
        simp [ih ha hbehind, hno]

/-- What a sweep notes: the matches of rows among those behind them. -/
theorem isNoted_sweepFrom (hsorted : es.Pairwise fun a b => a.index < b.index)
    (hes : ∀ a ∈ es, a.index < noted.length) :
    IsNoted (sweepFrom es noted) i j ↔
      IsNoted noted i j ∨ ∃ a ∈ es, ∃ b ∈ es, a.index < b.index ∧ Joins i j a b := by
  induction es generalizing noted with
  | nil => simp [sweepFrom]
  | cons e es ih =>
    obtain ⟨hlt, hsorted⟩ := List.pairwise_cons.1 hsorted
    obtain ⟨he, hes⟩ := List.forall_mem_cons.1 hes
    rw [sweepFrom, ih hsorted (by simpa using hes), isNoted_sweepRow he hes, or_assoc]
    refine or_congr_right ⟨?_, ?_⟩
    · rintro (⟨b, hb, hjoins⟩ | ⟨a, ha, b, hb, hab, hjoins⟩)
      · exact ⟨e, List.mem_cons_self, b, List.mem_cons_of_mem _ hb, hlt b hb, hjoins⟩
      · exact ⟨a, List.mem_cons_of_mem _ ha, b, List.mem_cons_of_mem _ hb, hab, hjoins⟩
    · rintro ⟨a, ha, b, hb, hab, hjoins⟩
      -- the first row stands behind no other, so the row behind comes from the rest
      have hb' : b ∈ es := by
        rcases List.mem_cons.1 hb with rfl | hb'
        · rcases List.mem_cons.1 ha with rfl | ha'
          · exact absurd hab (Nat.lt_irrefl _)
          · exact absurd (hlt a ha') (Nat.lt_asymm hab)
        · exact hb'
      rcases List.mem_cons.1 ha with rfl | ha'
      · exact .inl ⟨b, hb', hjoins⟩
      · exact .inr ⟨a, ha', b, hb', hab, hjoins⟩

/-- Notes of the same length that note the same are the same. -/
theorem ext_isNoted {noted noted' : List (Finset Nat)} (hlen : noted.length = noted'.length)
    (h : ∀ i j, IsNoted noted i j ↔ IsNoted noted' i j) : noted = noted' := by
  refine List.ext_getElem hlen fun i hi hi' => Finset.ext fun j => ?_
  simpa [IsNoted, List.getElem?_eq_getElem hi, List.getElem?_eq_getElem hi'] using h i j

/-! ### The graph of a batch -/

/-- The scan tells row `j` as a duplicate of row `i`. -/
def Adjacent (s : Selection) (batch : List Record) (i j : Nat) : Prop :=
  ∃ row, (scan s batch)[i]? = some row ∧ j ∈ row

/-- Rows `i` and `j` are two rows of the batch, and duplicates. -/
def Duplicates (s : Selection) (batch : List Record) (i j : Nat) : Prop :=
  i ≠ j ∧ ∃ a b, batch[i]? = some a ∧ batch[j]? = some b ∧ isDuplicate s a b = true

variable {s : Selection} {batch : List Record}

theorem Duplicates.symm (h : Duplicates s batch i j) : Duplicates s batch j i := by
  obtain ⟨hne, a, b, ha, hb, hdup⟩ := h
  exact ⟨hne.symm, b, a, hb, ha, by rwa [isDuplicate_swap]⟩

theorem pairwise_entries (s : Selection) (batch : List Record) :
    (entries s batch).Pairwise fun a b => a.index < b.index := by
  have hindex : ∀ i (h : i < (entries s batch).length), (entries s batch)[i].index = i := by
    intro i h
    have hi := getElem?_entries s batch i
    rw [List.getElem?_eq_getElem h] at hi
    obtain ⟨r, -, hr⟩ := Option.map_eq_some_iff.1 hi.symm
    rw [← hr, entryAt]
  exact List.pairwise_iff_getElem.2 fun i j hi hj hij => by rwa [hindex i hi, hindex j hj]

/-- Which of two rows is the earlier one does not matter. -/
theorem matched_entryAt_iff (s : Selection) (i j : Nat) (a b : Record) :
    matched (entryAt s i a) (entryAt s j b) = true ↔ i ≠ j ∧ isDuplicate s a b = true := by
  rw [matched_entryAt, isDuplicate_swap s b a]
  rcases Nat.lt_trichotomy i j with hij | rfl | hij
  · simp [hij, hij.ne]
  · simp
  · simp [hij, hij.ne', Nat.lt_asymm hij]

theorem length_scan (s : Selection) (batch : List Record) :
    (scan s batch).length = batch.length := by
  simp [scan_eq, entries]

/-- The scan tells the duplicates in a batch. -/
theorem adjacent_iff : Adjacent s batch i j ↔ Duplicates s batch i j := by
  have hrow : ∀ a, j ∈ ((entries s batch).filter (matched (entryAt s i a))).map (·.index) ↔
      ∃ b, batch[j]? = some b ∧ i ≠ j ∧ isDuplicate s a b = true := by
    intro a
    simp only [List.mem_map, List.mem_filter, mem_entries]
    constructor
    · rintro ⟨-, ⟨⟨j', b, hb, rfl⟩, hmatched⟩, rfl⟩
      exact ⟨b, hb, (matched_entryAt_iff s i j' a b).1 hmatched⟩
    · rintro ⟨b, hb, hdup⟩
      exact ⟨entryAt s j b, ⟨⟨j, b, hb, rfl⟩, (matched_entryAt_iff s i j a b).2 hdup⟩, rfl⟩
  unfold Adjacent Duplicates
  rw [scan_eq, List.getElem?_map, getElem?_entries]
  cases hi : batch[i]? with
  | none => simp
  | some a =>
    simp only [Option.map_some, Option.some.injEq, exists_eq_left']
    rw [hrow a]
    constructor
    · rintro ⟨b, hb, hne, hdup⟩
      exact ⟨hne, a, b, rfl, hb, hdup⟩
    · rintro ⟨hne, a', b, ha', hb, hdup⟩
      cases ha'
      exact ⟨b, hb, hne, hdup⟩

/-- Where all duplicates of one batch are duplicates of another one, the scan of the one tells
nothing that the other does not tell. -/
theorem forall₂_scan_subset {t : Selection} {batch' : List Record}
    (hlength : batch.length = batch'.length)
    (h : ∀ i j, Duplicates s batch i j → Duplicates t batch' i j) :
    List.Forall₂ (· ⊆ ·) (scan s batch) (scan t batch') := by
  refine List.forall₂_iff_get.2 ⟨by rw [length_scan, length_scan, hlength], fun i hi hi' j hj => ?_⟩
  have hadj : Adjacent s batch i j := ⟨_, List.getElem?_eq_getElem hi, hj⟩
  obtain ⟨row, hrow, hmem⟩ := adjacent_iff.2 (h i j (adjacent_iff.1 hadj))
  rw [List.getElem?_eq_getElem hi'] at hrow
  cases hrow
  exact hmem

theorem pairwise_of_mem_scan {row : List Nat} (h : row ∈ scan s batch) : row.Pairwise (· < ·) := by
  rw [scan_eq, List.mem_map] at h
  obtain ⟨a, -, rfl⟩ := h
  exact List.pairwise_map.2 ((pairwise_entries s batch).sublist List.filter_sublist)

theorem Duplicates.exists_entries (h : Duplicates s batch i j) :
    ∃ a ∈ entries s batch, ∃ b ∈ entries s batch,
      a.index = i ∧ b.index = j ∧ a.criterion.holds b.record = true := by
  obtain ⟨-, a, b, ha, hb, hdup⟩ := h
  exact ⟨entryAt s i a, mem_entries.2 ⟨i, a, ha, rfl⟩, entryAt s j b,
    mem_entries.2 ⟨j, b, hb, rfl⟩, rfl, rfl, hdup⟩

/-- The matches of rows among those behind them are all the duplicates there are. -/
theorem exists_joins_iff :
    (∃ a ∈ entries s batch, ∃ b ∈ entries s batch, a.index < b.index ∧ Joins i j a b) ↔
      Duplicates s batch i j := by
  constructor
  · rintro ⟨a, ha, b, hb, hlt, hholds, hends⟩
    obtain ⟨k, ra, hra, rfl⟩ := mem_entries.1 ha
    obtain ⟨l, rb, hrb, rfl⟩ := mem_entries.1 hb
    have hkl : Duplicates s batch k l := ⟨Nat.ne_of_lt hlt, ra, rb, hra, hrb, hholds⟩
    rcases hends with ⟨rfl, rfl⟩ | ⟨rfl, rfl⟩
    · exact hkl
    · exact hkl.symm
  · intro h
    rcases Nat.lt_or_gt_of_ne h.1 with hij | hji
    · obtain ⟨a, ha, b, hb, rfl, rfl, hholds⟩ := h.exists_entries
      exact ⟨a, ha, b, hb, hij, hholds, .inl ⟨rfl, rfl⟩⟩
    · -- the sweep compares the two rows the other way round
      obtain ⟨a, ha, b, hb, rfl, rfl, hholds⟩ := h.symm.exists_entries
      exact ⟨a, ha, b, hb, hji, hholds, .inr ⟨rfl, rfl⟩⟩

theorem isNoted_sweep : IsNoted (sweep s batch) i j ↔ Duplicates s batch i j := by
  have hblank : ¬ IsNoted (batch.map fun _ => ∅) i j := by
    rintro ⟨row, hrow, hj⟩
    obtain ⟨-, -, rfl⟩ := List.mem_map.1 (List.mem_of_getElem? hrow)
    exact Finset.notMem_empty j hj
  have hbound : ∀ a ∈ entries s batch, a.index < (batch.map fun _ => (∅ : Finset Nat)).length := by
    intro a ha
    obtain ⟨i, r, hr, rfl⟩ := mem_entries.1 ha
    rw [List.length_map]
    exact (List.getElem?_eq_some_iff.1 hr).1
  rw [sweep, isNoted_sweepFrom (pairwise_entries s batch) hbound, or_iff_right hblank,
    exists_joins_iff]

/-- The sweep leaves behind what the scan tells. -/
theorem sweep_eq (s : Selection) (batch : List Record) :
    sweep s batch = (scan s batch).map List.toFinset := by
  refine ext_isNoted (by simp [sweep, length_scan]) fun i j => ?_
  rw [isNoted_sweep, ← adjacent_iff]
  simp [IsNoted, Adjacent]

/-! ### Batches in another order -/

def reorder (batch : List Record) (π : Equiv.Perm (Fin batch.length)) : List Record :=
  List.ofFn fun k => batch[π k]

theorem duplicates_reorder (π : Equiv.Perm (Fin batch.length)) (i j : Fin batch.length) :
    Duplicates s (reorder batch π) i j ↔ Duplicates s batch (π i) (π j) := by
  have hne : (i : Nat) ≠ j ↔ (π i : Nat) ≠ π j := by
    rw [Ne, Ne, Fin.val_inj, Fin.val_inj, π.injective.eq_iff]
  have hrow : ∀ k : Fin batch.length, (reorder batch π)[(k : Nat)]? = batch[(π k : Nat)]? := by
    intro k
    simp [reorder]
  rw [Duplicates, Duplicates, hne, hrow, hrow]

/-- **The scan tells exactly the duplicates.** For each row it gives a list of places in order;
place `j` stands in list `i` exactly when `i` and `j` are two rows of the batch and duplicates. So
the graph is symmetric and has no loops, and a batch in another order has the same graph under the
new places. A sweep that compares each two rows once, from the earlier one, and not at all where the
earlier one can have no duplicates, leaves the same graph behind. -/
theorem scan_tells_duplicates (s : Selection) (batch : List Record) :
    (scan s batch).length = batch.length ∧
      (∀ row ∈ scan s batch, row.Pairwise (· < ·)) ∧
      (∀ i j, Adjacent s batch i j ↔
        i ≠ j ∧ ∃ a b, batch[i]? = some a ∧ batch[j]? = some b ∧ isDuplicate s a b = true) ∧
      (∀ i, ¬ Adjacent s batch i i) ∧
      (∀ i j, Adjacent s batch i j → Adjacent s batch j i) ∧
      (∀ (π : Equiv.Perm (Fin batch.length)) (i j : Fin batch.length),
        Adjacent s (reorder batch π) i j ↔ Adjacent s batch (π i) (π j)) ∧
      sweep s batch = (scan s batch).map List.toFinset := by
  refine ⟨length_scan s batch, fun row => pairwise_of_mem_scan, fun i j => adjacent_iff,
    fun i h => ?_, fun i j h => ?_, fun π i j => ?_, sweep_eq s batch⟩
  · exact (adjacent_iff.1 h).1 rfl
  · exact adjacent_iff.2 (adjacent_iff.1 h).symm
  · rw [adjacent_iff, adjacent_iff, duplicates_reorder]

/-- Four rows: the first and the last one are duplicates, and the second one can have none. -/
def fourNamed : List Record :=
  [Held.named "" "" "Ann" "Lee", Held.named "" "" "" "Lee", Held.named "" "" "Bob" "Poe",
    Held.named "" "" " Ann" "Lee "]

/-- The only edge of the four rows, from both of its ends, and after the first two rows changed
places. -/
theorem scan_tells_duplicates_four :
    scan Held.bothNames fourNamed = [[3], [], [], [0]] ∧
      Adjacent Held.bothNames fourNamed 0 3 ∧ Adjacent Held.bothNames fourNamed 3 0 ∧
      Adjacent Held.bothNames (reorder fourNamed (Equiv.swap ⟨0, by decide⟩ ⟨1, by decide⟩)) 1 3 ∧
      sweep Held.bothNames fourNamed = [{3}, ∅, ∅, {0}] := by
  have hscan : scan Held.bothNames fourNamed = [[3], [], [], [0]] := by decide
  obtain ⟨-, -, hedge, -, hsymm, hreorder, hsweep⟩ :=
    scan_tells_duplicates Held.bothNames fourNamed
  have h03 : Adjacent Held.bothNames fourNamed 0 3 :=
    (hedge 0 3).2 ⟨by decide, _, _, rfl, rfl, by decide⟩
  refine ⟨hscan, h03, hsymm 0 3 h03, ?_, by rw [hsweep, hscan]; rfl⟩
  exact (hreorder (Equiv.swap ⟨0, by decide⟩ ⟨1, by decide⟩) ⟨1, by decide⟩ ⟨3, by decide⟩).2 h03

end Registrar.Batch
