import Mathlib.Data.List.Chain
import Registrar.Proofs.Chunks.Fewest
import Registrar.Proofs.Chunks.Runs

/-!
The sums that cutting works with. For each item the weight of the current chunk and that of the item
are added. Both are at most the limit, but their sum may be past the last word, and then the program
stops (`cut_eq_overflow_iff`). What is cut is cut into slices that are filled up, and nothing else
is (`cut_eq_ok_iff`). No list of weights stops the program exactly if two limits fit a word
(`sums_fit_iff`).
-/

namespace Registrar.Chunks

variable {α : Type} {limit t : Nat} {weight : α → Nat} {items taken : List α}
  {later chunks slices : List (List α)}

/-- The sums of the current chunk and each item, the current chunk weighing `t` already. No sum is
formed for an item above the limit, and none behind a sum that is no word. -/
def sumsFrom (limit : Nat) (weight : α → Nat) : (t : Nat) → List α → List Nat
  | _, [] => []
  | t, x :: xs =>
    if limit < weight x then []
    else if UInt64.size ≤ t + weight x then [t + weight x]
    else if limit < t + weight x then (t + weight x) :: sumsFrom limit weight (weight x) xs
    else (t + weight x) :: sumsFrom limit weight (t + weight x) xs

/-- The sums formed until the items are cut, or until an error or the end of the program. -/
def sums (limit : Nat) (weight : α → Nat) (items : List α) : List Nat :=
  if limit = 0 then [] else sumsFrom limit weight 0 items

/-- A word holds each of the sums. -/
def SumsFit (limit : Nat) (weight : α → Nat) (items : List α) : Prop :=
  ∀ s ∈ sums limit weight items, s < UInt64.size

instance (limit : Nat) (weight : α → Nat) (items : List α) :
    Decidable (SumsFit limit weight items) := by
  unfold SumsFit; infer_instance

/-- What comes next begins with an item that is too heavy for a chunk of weight `n`, but not so
heavy that their sum is no word. -/
def Overfills (limit : Nat) (weight : α → Nat) (n : Nat) (next : List α) : Prop :=
  ∀ x ∈ next.head?, limit < n + weight x ∧ n + weight x < UInt64.size

/-- The slices are filled up: each of them is within the limit, but not together with the item
behind it, and a word holds the weight of both. -/
structure FilledUp (limit : Nat) (weight : α → Nat) (items : List α) (slices : List (List α)) : Prop
    extends Slicing limit weight items slices where
  nonempty : ∀ slice ∈ slices, slice ≠ []
  overfilled : slices.IsChain fun slice next =>
    Overfills limit weight (slice.map weight).sum next

/-! ### The end of the program -/

theorem cutFrom_eq_overflow_iff : cutFrom limit weight t items = .error .overflow ↔
    ∃ s ∈ sumsFrom limit weight t items, UInt64.size ≤ s := by
  induction items generalizing t with
  | nil => simp [cutFrom, sumsFrom]
  | cons x xs ih =>
    unfold cutFrom sumsFrom
    split
    · simp
    · split
      · next hword => simpa using hword
      · next hword =>
        split
        · rw [map_eq_error_iff, ih, List.exists_mem_cons_iff, or_iff_right hword]
        · rw [map_eq_error_iff, ih, List.exists_mem_cons_iff, or_iff_right hword]

/-- The program stops exactly at a sum that no word holds. -/
theorem cut_eq_overflow_iff :
    cut limit weight items = .error .overflow ↔ ¬ SumsFit limit weight items := by
  unfold SumsFit sums cut
  split
  · simp
  · rw [map_eq_error_iff, cutFrom_eq_overflow_iff]
    push Not
    rfl

/-! ### Slices -/

/-- A chunk ends where the next item overfills it. -/
theorem overfills_of_cutFrom (h : cutFrom limit weight t items = .ok (taken, later)) :
    (∀ next ∈ later.head?, Overfills limit weight (t + (taken.map weight).sum) next) ∧
      later.IsChain fun slice next => Overfills limit weight (slice.map weight).sum next := by
  induction items generalizing t taken later with
  | nil =>
    cases h
    simp
  | cons x xs ih =>
    obtain ⟨-, hword, taken', later', ⟨hcut, hrest, e⟩ | ⟨-, hrest, e⟩⟩ := cutFrom_cons h
    · cases e
      have hx : Overfills limit weight t (x :: taken') := by
        rintro _ ⟨⟩
        exact ⟨hcut, hword⟩
      refine ⟨?_, List.isChain_cons.2 (ih hrest)⟩
      rintro _ ⟨⟩
      exact hx
    · cases e
      rw [List.map_cons, List.sum_cons, ← Nat.add_assoc]
      exact ih hrest

theorem filledUp_of_cut (h : cut limit weight items = .ok chunks) :
    FilledUp limit weight items chunks := by
  refine ⟨⟨flatten_cut h, sum_le_of_cut h⟩, ne_nil_of_mem_cut h, ?_⟩
  obtain ⟨-, taken, later, hr, rfl⟩ := cut_eq_ok h
  obtain ⟨hnext, hlater⟩ := overfills_of_cutFrom hr
  rw [Nat.zero_add] at hnext
  split
  · exact hlater
  · exact List.isChain_cons.2 ⟨hnext, hlater⟩

theorem cut_of_filledUp (hlimit : limit < UInt64.size) (h0 : limit ≠ 0)
    (h : FilledUp limit weight items slices) : cut limit weight items = .ok slices := by
  induction slices generalizing items with
  | nil =>
    obtain rfl : [] = items := h.flatten
    rw [cut, if_neg h0]
    rfl
  | cons slice slices ih =>
    obtain ⟨hslice, hslices⟩ := List.forall_mem_cons.1 h.within
    obtain ⟨hne, hnonempty⟩ := List.forall_mem_cons.1 h.nonempty
    obtain ⟨hnext, hover⟩ := List.isChain_cons.1 h.overfilled
    have hrest : cut limit weight slices.flatten = .ok slices :=
      ih ⟨⟨rfl, hslices⟩, hnonempty, hover⟩
    obtain rfl : slice ++ slices.flatten = items := h.flatten
    rw [cut_append_of_full hlimit h0 hne hslice, hrest]
    · rfl
    · intro y hy
      -- the item behind the slice is the first one of the next slice
      cases slices with
      | nil => cases hy
      | cons next slices =>
        obtain ⟨x, xs, rfl⟩ := List.exists_cons_of_ne_nil (hnonempty next List.mem_cons_self)
        obtain rfl : x = y := Option.some.inj hy
        obtain ⟨habove, hword⟩ := hnext (x :: xs) rfl x rfl
        have hle : weight x ≤ ((x :: xs).map weight).sum := by
          rw [List.map_cons, List.sum_cons]
          exact Nat.le_add_right _ _
        exact ⟨Nat.le_trans hle (hslices _ List.mem_cons_self), hword, habove⟩

/-- The chunks are the slices that are filled up: there are no others of that kind. -/
theorem cut_eq_ok_iff (hlimit : limit < UInt64.size) :
    cut limit weight items = .ok chunks ↔ limit ≠ 0 ∧ FilledUp limit weight items chunks :=
  ⟨fun h => ⟨(cut_eq_ok h).1, filledUp_of_cut h⟩, fun h => cut_of_filledUp hlimit h.1 h.2⟩

/-! ### Limits -/

/-- No sum is above two limits. -/
theorem le_two_mul_of_mem_sumsFrom (ht : t ≤ limit) :
    ∀ s ∈ sumsFrom limit weight t items, s ≤ 2 * limit := by
  induction items generalizing t with
  | nil => simp [sumsFrom]
  | cons x xs ih =>
    unfold sumsFrom
    split
    · simp
    · next hx =>
      have hsum : t + weight x ≤ 2 * limit := by omega
      split
      · simpa using hsum
      · split
        · exact List.forall_mem_cons.2 ⟨hsum, ih (Nat.le_of_not_lt hx)⟩
        · next hle => exact List.forall_mem_cons.2 ⟨hsum, ih (Nat.le_of_not_lt hle)⟩

theorem sumsFit_of_two_mul_lt (h : 2 * limit < UInt64.size) : SumsFit limit weight items := by
  intro s hs
  unfold sums at hs
  split at hs
  · cases hs
  · exact Nat.lt_of_le_of_lt (le_two_mul_of_mem_sumsFrom (Nat.zero_le _) s hs) h

/-- Where two limits do not fit a word, an item as heavy as the limit and one that fills the word up
stop the program. -/
theorem cut_filling_word (hlimit : limit < UInt64.size) (htwo : UInt64.size ≤ 2 * limit) :
    cut limit id [limit, UInt64.size - limit] = .error .overflow := by
  have h0 : limit ≠ 0 := by
    rintro rfl
    cases htwo
  have hsecond : cutFrom limit id limit [UInt64.size - limit] = .error .overflow := by
    rw [cutFrom, id, if_neg (by omega), if_pos (by omega)]
  rw [cut, if_neg h0, cutFrom, id, Nat.zero_add, if_neg (by omega), if_neg (by omega),
    if_neg (by omega), hsecond]
  rfl

/-- **When the sums of cutting fit a word.** Let the limit be a word. A word holds each of the sums
exactly if the program does not stop. Items are cut exactly if they are made up of slices that are
filled up, where each slice is within the limit, and a word holds its weight together with that of
the item behind it; these slices are the chunks. No list of weights makes a sum that no word holds
exactly if two limits fit a word. -/
theorem sums_fit_iff (hlimit : limit < UInt64.size) :
    (∀ (weight : α → Nat) items,
      (SumsFit limit weight items ↔ cut limit weight items ≠ .error .overflow) ∧
      ∀ chunks, cut limit weight items = .ok chunks ↔
        limit ≠ 0 ∧ FilledUp limit weight items chunks) ∧
    ((∀ weights, SumsFit limit id weights) ↔ 2 * limit < UInt64.size) := by
  refine ⟨fun weight items => ⟨?_, fun chunks => cut_eq_ok_iff hlimit⟩, fun hall => ?_,
    fun htwo _ => ?_⟩
  · rw [Ne, cut_eq_overflow_iff, not_not]
  · by_contra htwo
    exact cut_eq_overflow_iff.1 (cut_filling_word hlimit (Nat.le_of_not_lt htwo)) (hall _)
  · exact sumsFit_of_two_mul_lt htwo

/-- Just below the highest limit two heavy items make a sum that a word still holds, and are cut.
But with such a limit not every list of weights is safe. -/
theorem sums_fit_iff_belowHighest :
    18446744073709551614 < UInt64.size ∧
    FilledUp 18446744073709551614 id [18446744073709551613, 2, 0] [[18446744073709551613], [2, 0]] ∧
    SumsFit 18446744073709551614 id [18446744073709551613, 2, 0] ∧
    ∃ weights, ¬ SumsFit 18446744073709551614 id weights := by
  have hlimit : 18446744073709551614 < UInt64.size := by decide
  have hcut : cut 18446744073709551614 id [18446744073709551613, 2, 0] =
      .ok [[18446744073709551613], [2, 0]] := by decide
  obtain ⟨hlists, hlimits⟩ := @sums_fit_iff Nat _ hlimit
  obtain ⟨hstops, hslices⟩ := hlists id [18446744073709551613, 2, 0]
  refine ⟨hlimit, ((hslices _).1 hcut).2, hstops.2 (by rw [hcut]; simp), ?_⟩
  by_contra hnone
  push Not at hnone
  exact absurd (hlimits.1 hnone) (by decide)

/-- With the highest limit an item that fills a chunk and one behind it stop the program, although
neither is above the limit and two chunks would do. -/
theorem cut_highest_limit :
    (∀ w ∈ [18446744073709551615, 1], w ≤ 18446744073709551615) ∧
    Slicing 18446744073709551615 id [18446744073709551615, 1] [[18446744073709551615], [1]] ∧
    18446744073709551616 ∈ sums 18446744073709551615 id [18446744073709551615, 1] ∧
    ¬ SumsFit 18446744073709551615 id [18446744073709551615, 1] ∧
    cut 18446744073709551615 id [18446744073709551615, 1] = .error .overflow :=
  ⟨by decide, ⟨rfl, by decide⟩, by decide, by decide, by decide⟩

end Registrar.Chunks
