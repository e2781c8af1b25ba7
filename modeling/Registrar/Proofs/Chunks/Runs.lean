import Registrar.Proofs.Chunks

/-!
Items that weigh one each. They are cut into runs of as many items as the limit has room for, with
what is left over in the last run (`cut_units`), because a full chunk leaves the rest to be cut from
the start (`cut_append_of_full`).
-/

namespace Registrar.Chunks

variable {α : Type} {limit t n : Nat} {weight : α → Nat} {items xs ys : List α} {x : α}

/-- The items in runs of `n`, the last one holding what is left. -/
def runs (n : Nat) (items : List α) : List (List α) :=
  (List.range ((items.length + n - 1) / n)).map fun k => (items.drop (k * n)).take n

theorem length_runs (n : Nat) (items : List α) :
    (runs n items).length = (items.length + n - 1) / n := by
  rw [runs, List.length_map, List.length_range]

theorem getElem?_runs {k : Nat} (hk : k < (runs n items).length) :
    (runs n items)[k]? = some ((items.drop (k * n)).take n) := by
  rw [length_runs] at hk
  rw [runs, List.getElem?_map, List.getElem?_range hk]
  rfl

theorem runs_nil (h0 : n ≠ 0) : runs n ([] : List α) = [] := by
  have hnone : ([] : List α).length + n - 1 < n := by
    rw [List.length_nil]
    omega
  rw [runs, Nat.div_eq_of_lt hnone]
  rfl

/-- The first run is taken off, the others are the runs of the rest. -/
theorem runs_eq_cons (h0 : n ≠ 0) (hne : items ≠ []) :
    runs n items = items.take n :: runs n (items.drop n) := by
  have hpos : 0 < items.length := List.length_pos_iff.2 hne
  have hnumber : (items.length + n - 1) / n = ((items.drop n).length + n - 1) / n + 1 := by
    rw [List.length_drop]
    by_cases hle : items.length ≤ n
    · rw [Nat.sub_eq_zero_of_le hle, Nat.div_eq_of_lt (by omega : 0 + n - 1 < n)]
      exact (Nat.div_eq_iff (by omega)).2 ⟨by omega, by omega⟩
    · rw [← Nat.add_div_right _ (by omega : 0 < n)]
      congr 1
      omega
  unfold runs
  rw [hnumber, List.range_succ_eq_map, List.map_cons, List.map_map, Nat.zero_mul, List.drop_zero]
  refine congrArg _ (List.map_congr_left fun k _ => ?_)
  rw [Function.comp_apply, List.drop_drop, Nat.succ_mul, Nat.add_comm n]

/-- Where the current chunk has no room for the next item, the rest is cut from the start. -/
theorem cutFrom_of_full (h0 : limit ≠ 0) (hx : weight x ≤ limit)
    (hword : t + weight x < UInt64.size) (hfull : limit < t + weight x) :
    cutFrom limit weight t (x :: xs) =
      (cut limit weight (x :: xs)).map fun chunks => ([], chunks) := by
  rw [cut, if_neg h0, cutFrom, cutFrom, Nat.zero_add, if_neg (by omega), if_neg (by omega),
    if_pos hfull, if_neg (by omega), if_neg (by omega), if_neg (by omega)]
  cases cutFrom limit weight (weight x) xs <;> rfl

/-- Items that fill a chunk, so that the item after them does not fit, are the first chunk. -/
theorem cut_append_of_full (hlimit : limit < UInt64.size) (h0 : limit ≠ 0) (hne : xs ≠ [])
    (hfit : (xs.map weight).sum ≤ limit)
    (hfull : ∀ y ∈ ys.head?, weight y ≤ limit ∧ (xs.map weight).sum + weight y < UInt64.size ∧
      limit < (xs.map weight).sum + weight y) :
    cut limit weight (xs ++ ys) = (cut limit weight ys).map (xs :: ·) := by
  have hfirst := @cutFrom_append_of_fits α limit weight 0 xs ys (by omega) (by omega)
  rw [Nat.zero_add] at hfirst
  cases ys with
  | nil =>
    rw [cut, if_neg h0, hfirst, cut, if_neg h0]
    simp [cutFrom, Except.map, hne]
  | cons y ys =>
    obtain ⟨hy, hword, hyfull⟩ := hfull y rfl
    rw [cut, if_neg h0, hfirst, cutFrom_of_full h0 hy hword hyfull]
    cases cut limit weight (y :: ys) with
    | error e => rfl
    | ok chunks => simp [Except.map, hne]

theorem cut_units (hlimit : limit + 1 < UInt64.size) (h0 : limit ≠ 0) (items : List α) :
    cut limit (fun _ => 1) items = .ok (runs limit items) := by
  -- by the number of items, since a run is taken off at a time
  induction hn : items.length using Nat.strongRecOn generalizing items with
  | ind n ih =>
    by_cases hne : items = []
    · rw [hne, runs_nil h0, cut, if_neg h0]
      rfl
    · have hpos : 0 < items.length := List.length_pos_iff.2 hne
      have hsum : ((items.take limit).map fun _ => 1).sum = min limit n := by
        rw [sum_map_one, List.length_take, hn]
      have hrest : cut limit (fun _ => 1) (items.drop limit) =
          .ok (runs limit (items.drop limit)) :=
        ih (items.drop limit).length (by rw [List.length_drop]; omega) _ rfl
      have hcut := @cut_append_of_full α limit (fun _ => 1) (items.take limit) (items.drop limit)
        (by omega) h0 (by simp [h0, hne]) (by omega) (by
          intro y hy
          -- where an item is left, the run is as long as the limit
          have hmore : limit < items.length := by
            by_contra hall
            rw [List.drop_eq_nil_of_le (by omega)] at hy
            cases hy
          omega)
      rw [List.take_append_drop, hrest] at hcut
      rw [hcut, runs_eq_cons h0 hne]
      rfl

end Registrar.Chunks
