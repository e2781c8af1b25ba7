import Mathlib.Data.List.Induction
import Mathlib.Data.List.Sort
import Mathlib.Data.String.Basic
import Registrar.Batch.SharedIds
import Registrar.Proofs.Text.Strip

/-!
The ids that rows of a batch share. The texts of a list come in order and each once, and under each
of them stand the places that carry it, so that two rows stand under one id exactly if they carry
the same one. Nothing has to be looked up for that: one pass over the rows, which puts every row
under its id and drops the ids with a single row at the end, leaves the same list
(`sharedIds_group_rows`).
-/

namespace Registrar.Batch

/-! ### Texts in order -/

section Ordered

variable {s t : String} {ss : List String}

theorem mem_insertOnce : t ∈ insertOnce s ss ↔ t = s ∨ t ∈ ss := by
  induction ss with
  | nil => simp [insertOnce]
  | cons u ss ih =>
    unfold insertOnce
    split
    · exact List.mem_cons
    · split
      · next e =>
        subst e
        simp
      · rw [List.mem_cons, ih, List.mem_cons]
        exact or_left_comm

theorem pairwise_insertOnce (h : ss.Pairwise (· < ·)) : (insertOnce s ss).Pairwise (· < ·) := by
  induction ss with
  | nil => exact List.pairwise_singleton _ _
  | cons u ss ih =>
    obtain ⟨hu, hss⟩ := List.pairwise_cons.1 h
    unfold insertOnce
    split
    · next hlt =>
      refine List.pairwise_cons.2 ⟨fun t ht => ?_, h⟩
      rcases List.mem_cons.1 ht with rfl | ht
      · exact hlt
      · exact lt_trans hlt (hu t ht)
    · next hlt =>
      split
      · exact h
      · next hne =>
        refine List.pairwise_cons.2 ⟨fun t ht => ?_, ih hss⟩
        rcases mem_insertOnce.1 ht with rfl | ht
        · exact lt_of_le_of_ne (not_lt.1 hlt) (Ne.symm hne)
        · exact hu t ht

theorem ordered_concat (ss : List String) (s : String) :
    ordered (ss ++ [s]) = insertOnce s (ordered ss) := by
  rw [ordered, List.foldl_append]
  rfl

theorem pairwise_ordered (ss : List String) : (ordered ss).Pairwise (· < ·) := by
  induction ss using List.reverseRecOn with
  | nil => exact List.Pairwise.nil
  | append_singleton ss s ih =>
    rw [ordered_concat]
    exact pairwise_insertOnce ih

theorem mem_ordered : t ∈ ordered ss ↔ t ∈ ss := by
  induction ss using List.reverseRecOn with
  | nil => rfl
  | append_singleton ss s ih =>
    rw [ordered_concat, mem_insertOnce, ih, List.mem_append, List.mem_singleton, or_comm]

/-- Leaving texts out before they are put in order is as good as doing so afterwards. -/
theorem ordered_filter (p : String → Bool) (ss : List String) :
    ordered (ss.filter p) = (ordered ss).filter p := by
  have : Std.Irrefl fun s t : String => s < t := ⟨fun s => lt_irrefl s⟩
  have : Std.Antisymm fun s t : String => s < t := ⟨fun s t h1 h2 => absurd h1 (lt_asymm h2)⟩
  refine List.Pairwise.eq_of_mem_iff (pairwise_ordered _) ((pairwise_ordered ss).filter _)
    fun t => ?_
  rw [mem_ordered, List.mem_filter, List.mem_filter, mem_ordered]

end Ordered

/-! ### One pass over the rows -/

/-- Puts a place under its id, in a list by id. -/
def enter (id : String) (i : Nat) : List SharedId → List SharedId
  | [] => [⟨id, [i]⟩]
  | s :: met =>
    if id < s.id then ⟨id, [i]⟩ :: s :: met
    else if id = s.id then ⟨s.id, s.rows ++ [i]⟩ :: met
    else s :: enter id i met

/-- The ids of the rows that have one, with their places. -/
def carried (batch : List Record) : List (String × Nat) :=
  (batch.zipIdx.map fun (r, i) => (knownId r, i)).filter (·.1 ≠ "")

/-- The ids of a batch by one pass over its rows. -/
def gather (batch : List Record) : List SharedId :=
  (carried batch).foldl (fun met (id, i) => enter id i met) []

def placesOf (entries : List (String × Nat)) (id : String) : List Nat :=
  (entries.filter (·.1 == id)).map (·.2)

/-- One step of the pass: the ids in order, each with its places, get one more place. -/
theorem enter_map {ids : List String} {id : String} {i : Nat} (places : String → List Nat)
    (hids : ids.Pairwise (· < ·)) (hnew : id ∉ ids → places id = []) :
    enter id i (ids.map fun k => ⟨k, places k⟩) =
      (insertOnce id ids).map fun k => ⟨k, if k = id then places k ++ [i] else places k⟩ := by
  have others : ∀ {ks : List String}, id ∉ ks → (ks.map fun k => (⟨k, places k⟩ : SharedId)) =
      ks.map fun k => ⟨k, if k = id then places k ++ [i] else places k⟩ := by
    intro ks hks
    refine List.map_congr_left fun k hk => ?_
    rw [if_neg (ne_of_mem_of_not_mem hk hks)]
  induction ids with
  | nil => simp [enter, insertOnce, hnew]
  | cons k ids ih =>
    obtain ⟨hk, hids⟩ := List.pairwise_cons.1 hids
    rw [List.map_cons, enter, insertOnce]
    split
    · next hlt =>
      have hmem : id ∉ k :: ids := by
        rintro (_ | ⟨_, hmem⟩)
        · exact lt_irrefl _ hlt
        · exact lt_asymm hlt (hk id hmem)
      rw [List.map_cons, if_pos rfl, hnew hmem, List.nil_append, ← others hmem, List.map_cons]
    · split
      · next e =>
        subst e
        rw [List.map_cons, if_pos rfl, others fun hmem => lt_irrefl _ (hk _ hmem)]
      · next hne =>
        rw [List.map_cons, if_neg (Ne.symm hne), ih hids]
        exact fun hmem => hnew fun h => (List.mem_cons.1 h).elim hne hmem

/-- The whole pass leaves the ids in order, each with its places. -/
theorem foldl_enter (entries : List (String × Nat)) :
    entries.foldl (fun met (id, i) => enter id i met) [] =
      (ordered (entries.map (·.1))).map fun id => ⟨id, placesOf entries id⟩ := by
  induction entries using List.reverseRecOn with
  | nil => rfl
  | append_singleton entries entry ih =>
    obtain ⟨id, i⟩ := entry
    have hnew : id ∉ ordered (entries.map (·.1)) → placesOf entries id = [] := by
      intro h
      rw [mem_ordered] at h
      rw [placesOf, List.map_eq_nil_iff, List.filter_eq_nil_iff]
      exact fun e he heq => h (List.mem_map.2 ⟨e, he, beq_iff_eq.1 heq⟩)
    have hplaces : ∀ k, placesOf (entries ++ [(id, i)]) k =
        if k = id then placesOf entries k ++ [i] else placesOf entries k := by
      intro k
      by_cases h : k = id
      · subst h
        simp [placesOf]
      · simp [placesOf, h, Ne.symm h]
    rw [List.foldl_append, ih, List.map_append, List.map_singleton, ordered_concat]
    simp only [List.foldl_cons, List.foldl_nil, hplaces]
    exact enter_map _ (pairwise_ordered _) hnew

variable {batch : List Record}

theorem placesOf_carried {id : String} (h : id ≠ "") :
    placesOf (carried batch) id = rowsWith id batch := by
  rw [placesOf, carried, rowsWith, List.filter_filter, List.filter_map, List.map_map]
  have hfilter : batch.zipIdx.filter (((fun e : String × Nat => e.1 == id && decide (e.1 ≠ ""))) ∘
      fun (r, i) => (knownId r, i)) = batch.zipIdx.filter fun (r, _) => knownId r == id := by
    refine List.filter_congr fun ⟨r, i⟩ _ => ?_
    by_cases e : knownId r = id
    · simp [e, h]
    · simp [e]
  rw [hfilter]
  rfl

/-- What the pass leaves, the ids with a single row dropped. -/
theorem filter_gather (batch : List Record) :
    (gather batch).filter (fun s => decide (1 < s.rows.length)) = sharedIds batch := by
  have hids : ordered ((carried batch).map (·.1)) =
      (ordered (batch.map knownId)).filter (· ≠ "") := by
    have hrows : batch.map knownId = (batch.zipIdx.map fun (r, i) => (knownId r, i)).map (·.1) := by
      conv_lhs => rw [← List.zipIdx_map_fst 0 batch]
      rw [List.map_map, List.map_map]
      rfl
    rw [← ordered_filter, hrows, List.filter_map]
    rfl
  rw [gather, foldl_enter, hids, sharedIds]
  refine congrArg (List.filter _) (List.map_congr_left fun id hid => ?_)
  rw [placesOf_carried]
  simpa using (List.mem_filter.1 hid).2

/-! ### Rows that share an id -/

/-- Two rows stand under one id. -/
def SharesId (batch : List Record) (i j : Nat) : Prop :=
  ∃ s ∈ sharedIds batch, i ∈ s.rows ∧ j ∈ s.rows

variable {i j : Nat} {id : String} {s t : SharedId} {a b : Record}

theorem mem_rowsWith : i ∈ rowsWith id batch ↔ ∃ r, batch[i]? = some r ∧ knownId r = id := by
  simp [rowsWith, List.mem_zipIdx_iff_getElem?]

theorem pairwise_rowsWith (id : String) (batch : List Record) :
    (rowsWith id batch).Pairwise (· < ·) := by
  have hindex : (batch.zipIdx.map (·.2)).Pairwise (· < ·) := by
    rw [List.zipIdx_map_snd]
    exact List.pairwise_lt_range'
  exact hindex.sublist (List.filter_sublist.map _)

theorem mem_sharedIds : s ∈ sharedIds batch ↔
    s.id ≠ "" ∧ s.rows = rowsWith s.id batch ∧ 1 < s.rows.length := by
  have hcarried : ∀ id, id ∈ (ordered (batch.map knownId)).filter (· ≠ "") ↔
      id ≠ "" ∧ ∃ i, i ∈ rowsWith id batch := by
    intro id
    rw [List.mem_filter, mem_ordered, List.mem_map, decide_eq_true_eq, and_comm]
    refine and_congr_right fun _ => ⟨?_, ?_⟩
    · rintro ⟨r, hr, rfl⟩
      obtain ⟨i, hi⟩ := List.mem_iff_getElem?.1 hr
      exact ⟨i, mem_rowsWith.2 ⟨r, hi, rfl⟩⟩
    · rintro ⟨i, hi⟩
      obtain ⟨r, hr, rfl⟩ := mem_rowsWith.1 hi
      exact ⟨r, List.mem_of_getElem? hr, rfl⟩
  unfold sharedIds
  rw [List.mem_filter, List.mem_map, decide_eq_true_eq]
  constructor
  · rintro ⟨⟨id, hid, rfl⟩, hlength⟩
    exact ⟨((hcarried id).1 hid).1, rfl, hlength⟩
  · rintro ⟨hne, hrows, hlength⟩
    have hcons : ∃ i, i ∈ rowsWith s.id batch := by
      rw [hrows] at hlength
      exact List.exists_mem_of_length_pos (by omega)
    exact ⟨⟨s.id, (hcarried s.id).2 ⟨hne, hcons⟩, by rw [← hrows]⟩, hlength⟩

/-- An ascending list has more than one entry exactly if two of its entries differ. -/
theorem one_lt_length_iff {places : List Nat} (h : places.Pairwise (· < ·)) :
    1 < places.length ↔ ∃ i ∈ places, ∃ j ∈ places, i ≠ j := by
  match places with
  | [] => simp
  | [i] => simp
  | i :: j :: places =>
    have hlt : i < j := (List.pairwise_cons.1 h).1 j List.mem_cons_self
    exact iff_of_true (by simp) ⟨i, by simp, j, by simp, hlt.ne⟩

theorem sharesId_iff (hij : i ≠ j) (ha : batch[i]? = some a) (hb : batch[j]? = some b) :
    SharesId batch i j ↔ knownId a ≠ "" ∧ knownId a = knownId b := by
  have hknown : ∀ {k r}, batch[k]? = some r → ∀ {id}, (k ∈ rowsWith id batch ↔ knownId r = id) := by
    intro k r hr id
    rw [mem_rowsWith, hr]
    simp
  unfold SharesId
  constructor
  · rintro ⟨s, hs, hi, hj⟩
    obtain ⟨hne, hrows, -⟩ := mem_sharedIds.1 hs
    rw [hrows, hknown ha] at hi
    rw [hrows, hknown hb] at hj
    rw [hi, hj]
    exact ⟨hne, rfl⟩
  · rintro ⟨hne, heq⟩
    have hi : i ∈ rowsWith (knownId a) batch := (hknown ha).2 rfl
    have hj : j ∈ rowsWith (knownId a) batch := (hknown hb).2 heq.symm
    have hlength := (one_lt_length_iff (pairwise_rowsWith _ batch)).2 ⟨i, hi, j, hj, hij⟩
    exact ⟨⟨knownId a, rowsWith (knownId a) batch⟩, mem_sharedIds.2 ⟨hne, rfl, hlength⟩, hi, hj⟩

theorem pairwise_sharedIds (batch : List Record) :
    (sharedIds batch).Pairwise fun s t => s.id < t.id := by
  refine List.Pairwise.filter _ (List.pairwise_map.2 ?_)
  exact (pairwise_ordered _).filter _

/-- What is stored under one id is known by one id. -/
theorem knownId_eq_of_normalize (h : a.normalize.id = b.normalize.id) : knownId a = knownId b := by
  rw [knownId, ← Text.trim_unpad, knownId, ← Text.trim_unpad b.id]
  exact congrArg Text.trim h

/-- **Rows are grouped by their ids.** The ids that are told are in order and each told once. They
are those that two rows at least carry, blanks cut off, and that are not empty; with each of them
stand the places of all rows that carry it, in order. So no row stands under two ids, and two rows
that would be stored under the same id, one that is not all blank, always stand under one. One pass
over the rows that puts each under its id, the ids with a single row dropped at the end, leaves the
same. -/
theorem sharedIds_group_rows (batch : List Record) :
    (sharedIds batch).Pairwise (fun s t => s.id < t.id) ∧
      (∀ id, (∃ s ∈ sharedIds batch, s.id = id) ↔ id ≠ "" ∧ ∃ (i j : Nat) (a b : Record), i ≠ j ∧
        batch[i]? = some a ∧ batch[j]? = some b ∧ Text.trim a.id = id ∧ Text.trim b.id = id) ∧
      (∀ s ∈ sharedIds batch, s.rows.Pairwise (· < ·) ∧ 2 ≤ s.rows.length ∧
        ∀ i, i ∈ s.rows ↔ ∃ r, batch[i]? = some r ∧ Text.trim r.id = s.id) ∧
      (∀ s ∈ sharedIds batch, ∀ t ∈ sharedIds batch, ∀ i ∈ s.rows, i ∈ t.rows → s = t) ∧
      (∀ (i j : Nat) (a b : Record), i ≠ j → batch[i]? = some a → batch[j]? = some b →
        a.normalize.id = b.normalize.id → Text.trim a.normalize.id ≠ "" → SharesId batch i j) ∧
      (gather batch).filter (fun s => decide (1 < s.rows.length)) = sharedIds batch := by
  refine ⟨pairwise_sharedIds batch, fun id => ⟨?_, ?_⟩, fun s hs => ?_,
    fun s hs t ht i hi hit => ?_, fun i j a b hij ha hb hstored hne => ?_, filter_gather batch⟩
  · rintro ⟨s, hs, rfl⟩
    obtain ⟨hne, hrows, hlength⟩ := mem_sharedIds.1 hs
    rw [hrows, one_lt_length_iff (pairwise_rowsWith _ batch)] at hlength
    obtain ⟨i, hi, j, hj, hij⟩ := hlength
    obtain ⟨a, ha, hida⟩ := mem_rowsWith.1 hi
    obtain ⟨b, hb, hidb⟩ := mem_rowsWith.1 hj
    exact ⟨hne, i, j, a, b, hij, ha, hb, hida, hidb⟩
  · rintro ⟨hne, i, j, a, b, hij, ha, hb, rfl, hidb⟩
    obtain ⟨s, hs, hi, -⟩ := (sharesId_iff hij ha hb).2 ⟨hne, hidb.symm⟩
    obtain ⟨-, hrows, -⟩ := mem_sharedIds.1 hs
    rw [hrows, mem_rowsWith, ha] at hi
    obtain ⟨r, hr, hid⟩ := hi
    exact ⟨s, hs, by rw [← hid, Option.some.inj hr, knownId]⟩
  · obtain ⟨-, hrows, hlength⟩ := mem_sharedIds.1 hs
    rw [hrows] at hlength ⊢
    exact ⟨pairwise_rowsWith _ batch, hlength, fun i => mem_rowsWith⟩
  · obtain ⟨-, hrows, -⟩ := mem_sharedIds.1 hs
    obtain ⟨-, hrows', -⟩ := mem_sharedIds.1 ht
    obtain ⟨r, hr, hid⟩ := mem_rowsWith.1 (hrows ▸ hi)
    obtain ⟨r', hr', hid'⟩ := mem_rowsWith.1 (hrows' ▸ hit)
    obtain rfl := Option.some.inj (hr.symm.trans hr')
    have hids : s.id = t.id := hid.symm.trans hid'
    cases s
    cases t
    simp_all
  · refine (sharesId_iff hij ha hb).2 ⟨?_, knownId_eq_of_normalize hstored⟩
    rwa [knownId, ← Text.trim_unpad]

/-- Rows whose ids differ in blanks alone; a no-break space is not cut off before an id is
stored. -/
def blankIds : List Record :=
  [" b", "a", "", "b\u00a0", "\ta", " ", "b"].map fun id => { Record.blank with id := id }

/-- Two ids are shared, and the rows without an id share none. The second and the fifth row would be
stored under one id. -/
theorem sharedIds_group_rows_blankIds :
    sharedIds blankIds = [⟨"a", [1, 4]⟩, ⟨"b", [0, 3, 6]⟩] ∧
      (∃ a b, blankIds[1]? = some a ∧ blankIds[4]? = some b ∧ a.normalize.id = b.normalize.id ∧
        Text.trim a.normalize.id ≠ "") ∧
      SharesId blankIds 1 4 ∧
      ∀ i, i ∈ [0, 3, 6] ↔ ∃ r, blankIds[i]? = some r ∧ Text.trim r.id = "b" := by
  have hshared : sharedIds blankIds = [⟨"a", [1, 4]⟩, ⟨"b", [0, 3, 6]⟩] := by decide
  obtain ⟨-, -, hrows, -, hstored, -⟩ := sharedIds_group_rows blankIds
  refine ⟨hshared, ⟨_, _, rfl, rfl, by decide, by decide⟩,
    hstored 1 4 _ _ (by decide) rfl rfl (by decide) (by decide), ?_⟩
  exact (hrows ⟨"b", [0, 3, 6]⟩ (by simp [hshared])).2.2

end Registrar.Batch
