import Registrar.Proofs.Chunks

/-!
Cutting makes as few chunks as can be. The first item above the limit is the reason why items cannot
be cut. Else no other way of cutting them within the limit has fewer slices (`cut_fewest`): a slice
that fits the limit is cut at most once (`exists_cutFrom_of_append`).
-/

namespace Registrar.Chunks

variable {α : Type} {limit t : Nat} {weight : α → Nat} {items xs ys : List α} {x : α}
  {taken : List α} {later chunks slices : List (List α)}

/-- A way to cut the items: the slices are the items in order, each within the limit. -/
structure Slicing (limit : Nat) (weight : α → Nat) (items : List α) (slices : List (List α)) :
    Prop where
  flatten : slices.flatten = items
  within : ∀ slice ∈ slices, (slice.map weight).sum ≤ limit

/-! ### Items that cannot be cut -/

theorem cutFrom_eq_tooHeavy (h : items.find? (fun x => limit < weight x) = some x)
    (hword : t + (items.map weight).sum < UInt64.size) :
    cutFrom limit weight t items = .error (.tooHeavy (weight x) limit) := by
  induction items generalizing t with
  | nil => cases h
  | cons y ys ih =>
    rw [List.map_cons, List.sum_cons] at hword
    unfold cutFrom
    by_cases hy : limit < weight y
    · rw [List.find?_cons_of_pos (by simpa using hy)] at h
      cases h
      rw [if_pos hy]
    · rw [List.find?_cons_of_neg (by simpa using hy)] at h
      rw [if_neg hy, if_neg (by omega), ih h (by omega), ih h (by omega)]
      split <;> rfl

theorem cut_eq_tooHeavy (h0 : limit ≠ 0) (h : items.find? (fun x => limit < weight x) = some x)
    (hword : (items.map weight).sum < UInt64.size) :
    cut limit weight items = .error (.tooHeavy (weight x) limit) := by
  rw [cut, if_neg h0, cutFrom_eq_tooHeavy h (by omega)]
  rfl

/-! ### No other cutting has fewer slices -/

/-- A slice that fits the limit is cut at most once: if it does not go into the current chunk whole,
then what is left of it fits the next one. -/
theorem exists_cutFrom_of_append (hfit : (xs.map weight).sum ≤ limit)
    (hword : t + ((xs ++ ys).map weight).sum < UInt64.size)
    (h : cutFrom limit weight t (xs ++ ys) = .ok (taken, later)) :
    ∃ u taken' later', u + (ys.map weight).sum < UInt64.size ∧
      cutFrom limit weight u ys = .ok (taken', later') ∧ later.length ≤ later'.length + 1 := by
  induction xs generalizing t taken later with
  | nil => exact ⟨t, taken, later, hword, h, Nat.le_succ _⟩
  | cons x xs ih =>
    rw [List.map_cons, List.sum_cons] at hfit
    rw [List.cons_append, List.map_cons, List.sum_cons] at hword
    have hsum : ((xs ++ ys).map weight).sum = (xs.map weight).sum + (ys.map weight).sum := by
      rw [List.map_append, List.sum_append]
    rw [List.cons_append] at h
    obtain ⟨-, -, taken₁, later₁, ⟨-, hrest, e⟩ | ⟨-, hrest, e⟩⟩ := cutFrom_cons h
    · cases e
      -- the chunk that begins with `x` has room for all of `xs`
      rw [cutFrom_append_of_fits (by omega) hfit] at hrest
      obtain ⟨⟨taken', later'⟩, hys, e⟩ := map_eq_ok_iff.1 hrest
      cases e
      exact ⟨weight x + (xs.map weight).sum, taken', _, by omega, hys, Nat.le_refl _⟩
    · cases e
      exact ih (by omega) (by omega) hrest

/-- There are no more cuts than slices, whatever the current chunk weighs. -/
theorem length_later_le (hfit : ∀ slice ∈ slices, (slice.map weight).sum ≤ limit)
    (hword : t + (slices.flatten.map weight).sum < UInt64.size)
    (h : cutFrom limit weight t slices.flatten = .ok (taken, later)) :
    later.length ≤ slices.length := by
  induction slices generalizing t taken later with
  | nil =>
    cases h
    exact Nat.le_refl 0
  | cons slice slices ih =>
    obtain ⟨hslice, hslices⟩ := List.forall_mem_cons.1 hfit
    obtain ⟨u, taken', later', hu, hrest, hle⟩ := exists_cutFrom_of_append hslice hword h
    have hlater : later'.length ≤ slices.length := ih hslices hu hrest
    rw [List.length_cons]
    omega

theorem length_cut_le (hword : (items.map weight).sum < UInt64.size)
    (h : cut limit weight items = .ok chunks) (hs : Slicing limit weight items slices) :
    chunks.length ≤ slices.length := by
  obtain ⟨hflatten, hfit⟩ := hs
  obtain ⟨-, taken, later, hr, rfl⟩ := cut_eq_ok h
  cases slices with
  | nil =>
    cases hflatten
    cases hr
    exact Nat.le_refl 0
  | cons slice slices =>
    obtain ⟨hslice, hslices⟩ := List.forall_mem_cons.1 hfit
    subst hflatten
    rw [List.flatten_cons] at hr hword
    have hsum : ((slice ++ slices.flatten).map weight).sum =
        (slice.map weight).sum + (slices.flatten.map weight).sum := by
      rw [List.map_append, List.sum_append]
    -- the first chunk is empty at first, so that the first slice is not cut
    rw [cutFrom_append_of_fits (by omega) (by omega)] at hr
    obtain ⟨⟨taken', later'⟩, hrest, e⟩ := map_eq_ok_iff.1 hr
    cases e
    have hlater : later.length ≤ slices.length := length_later_le hslices (by omega) hrest
    rw [List.length_cons]
    split
    · omega
    · rw [List.length_cons]
      omega

/-- **Cutting makes as few chunks as can be.** Let all weights together fit a word. There is no room
exactly where the limit is zero; else the first item above the limit is the error; and where there
is none, the chunks are the items in order, no chunk is empty or above the limit, and no other way
of cutting the items within the limit has fewer slices. -/
theorem cut_fewest (limit : Nat) (hword : (items.map weight).sum < UInt64.size) :
    (cut limit weight items = .error .noRoom ↔ limit = 0) ∧
    (limit ≠ 0 → ∀ x, items.find? (fun x => limit < weight x) = some x →
      cut limit weight items = .error (.tooHeavy (weight x) limit)) ∧
    (limit ≠ 0 → (∀ x ∈ items, weight x ≤ limit) → ∃ chunks,
      cut limit weight items = .ok chunks ∧ Slicing limit weight items chunks ∧
        (∀ chunk ∈ chunks, chunk ≠ []) ∧
        ∀ slices, Slicing limit weight items slices → chunks.length ≤ slices.length) := by
  refine ⟨cut_eq_noRoom_iff, fun h0 x hx => cut_eq_tooHeavy h0 hx hword, fun h0 hle => ?_⟩
  obtain ⟨chunks, hcut⟩ := exists_cut h0 hle (.inl hword)
  refine ⟨chunks, hcut, ⟨flatten_cut hcut, sum_le_of_cut hcut⟩, ?_, ?_⟩
  · exact ne_nil_of_mem_cut hcut
  · exact fun slices hs => length_cut_le hword hcut hs

/-- Items without weight ride along, an item that fills a chunk up ends it, and three chunks are
needed: two slices would hold at most ten of the weight. -/
theorem cut_fewest_riders :
    ([0, 5, 0, 3, 2, 0, 1].map id).sum < UInt64.size ∧
    cut 5 id [0, 5, 0, 3, 2, 0, 1] = .ok [[0, 5, 0], [3, 2, 0], [1]] ∧
    (∀ slices, Slicing 5 id [0, 5, 0, 3, 2, 0, 1] slices → 3 ≤ slices.length) ∧
    cut 4 id [0, 5, 0, 3, 2, 0, 6] = .error (.tooHeavy 5 4) := by
  have hcut : cut 5 id [0, 5, 0, 3, 2, 0, 1] = .ok [[0, 5, 0], [3, 2, 0], [1]] := by decide
  refine ⟨by decide, hcut, fun slices hs => ?_, ?_⟩
  · obtain ⟨chunks, hchunks, -, -, hfewest⟩ :=
      (@cut_fewest Nat id [0, 5, 0, 3, 2, 0, 1] 5 (by decide)).2.2 (by decide) (by decide)
    obtain rfl := Except.ok.inj (hcut.symm.trans hchunks)
    exact hfewest slices hs
  · exact (@cut_fewest Nat id [0, 5, 0, 3, 2, 0, 6] 4 (by decide)).2.1 (by decide) 5 (by decide)

end Registrar.Chunks
