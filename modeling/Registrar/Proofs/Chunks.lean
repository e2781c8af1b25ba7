import Mathlib.Algebra.Order.BigOperators.Group.List
import Mathlib.Algebra.Order.Ring.Nat
import Registrar.Chunks
import Registrar.Proofs.Fallible
import Registrar.Proofs.Stateful

/-!
Cutting and doing the chunks. Cutting loses and moves nothing (`flatten_cut`) and makes no chunk
heavier than the limit (`sum_le_of_cut`). It can fail only for an item above the limit or for a sum
that is no word (`cutFrom_error_cases`), so that items which each fit the limit are cut, if they are
not too many or not too heavy for that (`exists_cut`). Items that fit together are not cut
(`cut_of_sum_le`); where it cuts is up to the weights (`cut_map`). Doing the chunks in turn keeps
what each step keeps (`ensures_run_zip`).
-/

namespace Registrar.Chunks

variable {α β ε σ : Type} {limit : Nat} {weight : α → Nat} {items : List α}

/-! ### Cutting -/

theorem cutFrom_cons {t : Nat} {x : α} {xs : List α} {r : List α × List (List α)}
    (h : cutFrom limit weight t (x :: xs) = .ok r) :
    weight x ≤ limit ∧ t + weight x < UInt64.size ∧ ∃ taken later,
      (limit < t + weight x ∧ cutFrom limit weight (weight x) xs = .ok (taken, later) ∧
        r = ([], (x :: taken) :: later)) ∨
      (t + weight x ≤ limit ∧ cutFrom limit weight (t + weight x) xs = .ok (taken, later) ∧
        r = (x :: taken, later)) := by
  unfold cutFrom at h
  split at h
  · cases h
  · next hx =>
    split at h
    · cases h
    · next hword =>
      refine ⟨Nat.le_of_not_lt hx, Nat.lt_of_not_le hword, ?_⟩
      split at h
      · next hn =>
        obtain ⟨⟨taken, later⟩, hr, e⟩ := map_eq_ok_iff.1 h
        exact ⟨taken, later, .inl ⟨hn, hr, e.symm⟩⟩
      · next hn =>
        obtain ⟨⟨taken, later⟩, hr, e⟩ := map_eq_ok_iff.1 h
        exact ⟨taken, later, .inr ⟨Nat.le_of_not_lt hn, hr, e.symm⟩⟩

theorem cut_eq_ok {chunks : List (List α)} (h : cut limit weight items = .ok chunks) :
    limit ≠ 0 ∧ ∃ taken later, cutFrom limit weight 0 items = .ok (taken, later) ∧
      chunks = if taken.isEmpty then later else taken :: later := by
  unfold cut at h
  split at h
  · cases h
  · next h0 =>
    obtain ⟨⟨taken, later⟩, hr, e⟩ := map_eq_ok_iff.1 h
    exact ⟨h0, taken, later, hr, e.symm⟩

theorem append_flatten_cutFrom {t : Nat} {taken : List α} {later : List (List α)}
    (h : cutFrom limit weight t items = .ok (taken, later)) : taken ++ later.flatten = items := by
  induction items generalizing t taken later with
  | nil =>
    cases h
    rfl
  | cons x xs ih =>
    obtain ⟨-, -, taken', later', ⟨-, hr, e⟩ | ⟨-, hr, e⟩⟩ := cutFrom_cons h
    · cases e
      simp [ih hr]
    · cases e
      simp [ih hr]

theorem flatten_cut {chunks : List (List α)} (h : cut limit weight items = .ok chunks) :
    chunks.flatten = items := by
  obtain ⟨-, taken, later, hr, rfl⟩ := cut_eq_ok h
  have := append_flatten_cutFrom hr
  cases taken with
  | nil => simpa using this
  | cons x xs => simpa using this

theorem sum_le_of_cutFrom {t : Nat} {taken : List α} {later : List (List α)}
    (h : cutFrom limit weight t items = .ok (taken, later)) (ht : t ≤ limit) :
    t + (taken.map weight).sum ≤ limit ∧ ∀ chunk ∈ later, (chunk.map weight).sum ≤ limit := by
  induction items generalizing t taken later with
  | nil =>
    cases h
    simpa using ht
  | cons x xs ih =>
    obtain ⟨hx, -, taken', later', ⟨-, hr, e⟩ | ⟨hle, hr, e⟩⟩ := cutFrom_cons h
    · cases e
      obtain ⟨htaken, hlater⟩ := ih hr hx
      rw [← List.sum_cons, ← List.map_cons] at htaken
      exact ⟨by simpa using ht, List.forall_mem_cons.2 ⟨htaken, hlater⟩⟩
    · cases e
      rw [List.map_cons, List.sum_cons, ← Nat.add_assoc]
      exact ih hr hle

theorem sum_le_of_cut {chunks : List (List α)} (h : cut limit weight items = .ok chunks) :
    ∀ chunk ∈ chunks, (chunk.map weight).sum ≤ limit := by
  obtain ⟨-, taken, later, hr, rfl⟩ := cut_eq_ok h
  obtain ⟨htaken, hlater⟩ := sum_le_of_cutFrom hr (Nat.zero_le _)
  rw [Nat.zero_add] at htaken
  split
  · exact hlater
  · exact List.forall_mem_cons.2 ⟨htaken, hlater⟩

/-- Items that still fit go into the current chunk. -/
theorem cutFrom_append_of_fits {t : Nat} {xs ys : List α}
    (hword : t + (xs.map weight).sum < UInt64.size) (h : t + (xs.map weight).sum ≤ limit) :
    cutFrom limit weight t (xs ++ ys) =
      (cutFrom limit weight (t + (xs.map weight).sum) ys).map fun (taken, later) =>
        (xs ++ taken, later) := by
  induction xs generalizing t with
  | nil =>
    rw [List.map_nil, List.sum_nil, Nat.add_zero, List.nil_append]
    cases cutFrom limit weight t ys <;> rfl
  | cons x xs ih =>
    rw [List.map_cons, List.sum_cons, ← Nat.add_assoc] at h hword ⊢
    have hx : ¬ limit < weight x := by omega
    have hsum : ¬ UInt64.size ≤ t + weight x := by omega
    have hfits : ¬ limit < t + weight x := by omega
    rw [List.cons_append, cutFrom, if_neg hx, if_neg hsum, if_neg hfits, ih hword h]
    cases cutFrom limit weight (t + weight x + (xs.map weight).sum) ys <;> rfl

theorem cut_of_sum_le (hlimit : limit < UInt64.size) (h0 : limit ≠ 0) (hne : items ≠ [])
    (h : (items.map weight).sum ≤ limit) : cut limit weight items = .ok [items] := by
  have hall : cutFrom limit weight 0 items = .ok (items, []) := by
    have happend := @cutFrom_append_of_fits α limit weight 0 items [] (by omega) (by omega)
    simpa [cutFrom, Except.map] using happend
  have htaken : items.isEmpty = false := List.isEmpty_eq_false_iff.2 hne
  rw [cut, if_neg h0, hall]
  simp [Except.map, htaken]

theorem ne_nil_of_mem_cutFrom {t : Nat} {taken : List α} {later : List (List α)}
    (h : cutFrom limit weight t items = .ok (taken, later)) : ∀ chunk ∈ later, chunk ≠ [] := by
  induction items generalizing t taken later with
  | nil =>
    cases h
    simp
  | cons x xs ih =>
    obtain ⟨-, -, taken', later', ⟨-, hr, e⟩ | ⟨-, hr, e⟩⟩ := cutFrom_cons h
    · cases e
      exact List.forall_mem_cons.2 ⟨List.cons_ne_nil x taken', ih hr⟩
    · cases e
      exact ih hr

theorem ne_nil_of_mem_cut {chunks : List (List α)} (h : cut limit weight items = .ok chunks) :
    ∀ chunk ∈ chunks, chunk ≠ [] := by
  obtain ⟨-, taken, later, hr, rfl⟩ := cut_eq_ok h
  have hlater := ne_nil_of_mem_cutFrom hr
  split
  · exact hlater
  · next htaken => exact List.forall_mem_cons.2 ⟨by simpa using htaken, hlater⟩

/-! ### What stops cutting -/

/-- No sum is heavier than all that is left, and none is heavier than the limit and an item. -/
theorem cutFrom_error_cases {t : Nat} {e : CutError} (h : cutFrom limit weight t items = .error e)
    (ht : t ≤ limit) :
    (∃ x ∈ items, limit < weight x ∧ e = .tooHeavy (weight x) limit) ∨
      e = .overflow ∧ UInt64.size ≤ t + (items.map weight).sum ∧
        ∃ x ∈ items, UInt64.size ≤ limit + weight x := by
  induction items generalizing t with
  | nil => cases h
  | cons x xs ih =>
    rw [List.exists_mem_cons_iff, List.exists_mem_cons_iff, List.map_cons, List.sum_cons]
    unfold cutFrom at h
    split at h
    · next hx =>
      cases h
      exact .inl (.inl ⟨hx, rfl⟩)
    · next hx =>
      split at h
      · cases h
        exact .inr ⟨rfl, by omega, .inl (by omega)⟩
      · split at h
        -- what stops the rest stops the whole, since the rest starts with no more than `t` and `x`
        · rcases ih (map_eq_error_iff.1 h) (Nat.le_of_not_lt hx) with h | ⟨he, hsum, h⟩
          · exact .inl (.inr h)
          · exact .inr ⟨he, by omega, .inr h⟩
        · next hle =>
          rcases ih (map_eq_error_iff.1 h) (Nat.le_of_not_lt hle) with h | ⟨he, hsum, h⟩
          · exact .inl (.inr h)
          · exact .inr ⟨he, by omega, .inr h⟩

theorem cut_eq_noRoom_iff : cut limit weight items = .error .noRoom ↔ limit = 0 := by
  refine ⟨fun h => ?_, fun h0 => if_pos h0⟩
  by_contra h0
  rw [cut, if_neg h0, map_eq_error_iff] at h
  rcases cutFrom_error_cases h (Nat.zero_le _) with ⟨x, -, -, e⟩ | ⟨e, -⟩
  · cases e
  · cases e

/-- Items that each fit the limit can be cut, if all weights together fit a word, or if each of them
does on top of the limit. -/
theorem exists_cut (h0 : limit ≠ 0) (h : ∀ x ∈ items, weight x ≤ limit)
    (hword : (items.map weight).sum < UInt64.size ∨ ∀ x ∈ items, limit + weight x < UInt64.size) :
    ∃ chunks, cut limit weight items = .ok chunks := by
  cases hc : cutFrom limit weight 0 items with
  | ok r => exact ⟨_, by rw [cut, if_neg h0, hc]; rfl⟩
  | error e =>
    rcases cutFrom_error_cases hc (Nat.zero_le _) with ⟨x, hx, hheavy, -⟩ | ⟨-, hsum, x, hx, hover⟩
    · exact absurd (h x hx) (Nat.not_le_of_lt hheavy)
    · rcases hword with hword | hword
      · omega
      · exact absurd (hword x hx) (Nat.not_lt_of_le hover)

/-! ### Cutting by weights alone -/

theorem sum_map_one (items : List α) : (items.map fun _ => 1).sum = items.length := by
  rw [List.map_const', List.sum_replicate_nat, Nat.mul_one]

theorem cutFrom_map (f : β → α) (t : Nat) (xs : List β) :
    cutFrom limit weight t (xs.map f) =
      (cutFrom limit (fun x => weight (f x)) t xs).map fun (taken, later) =>
        (taken.map f, later.map (List.map f)) := by
  induction xs generalizing t with
  | nil => rfl
  | cons x xs ih =>
    rw [List.map_cons, cutFrom, cutFrom]
    split
    · rfl
    · split
      · rfl
      · split
        · rw [ih]
          cases cutFrom limit (fun x => weight (f x)) (weight (f x)) xs <;> rfl
        · rw [ih]
          cases cutFrom limit (fun x => weight (f x)) (t + weight (f x)) xs <;> rfl

/-- Where the cuts fall depends on the weights of the items, and on nothing else of them. -/
theorem cut_map (f : β → α) (xs : List β) :
    cut limit weight (xs.map f) =
      (cut limit (fun x => weight (f x)) xs).map (List.map (List.map f)) := by
  unfold cut
  split
  · rfl
  · rw [cutFrom_map]
    cases cutFrom limit (fun x => weight (f x)) 0 xs with
    | error e => rfl
    | ok r =>
      obtain ⟨taken, later⟩ := r
      cases taken <;> rfl

theorem length_cut_congr (limit w : Nat) {xs : List α} {ys : List β} (h : xs.length = ys.length) :
    (cut limit (fun _ => w) xs).map (List.map List.length) =
      (cut limit (fun _ => w) ys).map (List.map List.length) := by
  -- both are cut as units are
  have units : ∀ {γ : Type} (zs : List γ), (cut limit (fun _ => w) zs).map (List.map List.length) =
      (cut limit (fun _ => w) (List.replicate zs.length ())).map (List.map List.length) := by
    intro γ zs
    have hmap := @cut_map Unit γ limit (fun _ => w) (fun _ => ()) zs
    rw [List.map_const'] at hmap
    rw [hmap]
    cases cut limit (fun _ => w) zs with
    | error e => rfl
    | ok chunks => simp [Except.map]
  rw [units xs, units ys, h]

/-! ### Doing the chunks -/

theorem results_cons_error {answer : Noted (Except ε β)} {answers : List (Noted (Except ε β))}
    {e : ε} (h : answer.value = .error e) : results (answer :: answers) = .error e := by
  rw [results, h]

theorem results_cons_ok {answer : Noted (Except ε β)} {answers : List (Noted (Except ε β))} {b : β}
    (h : answer.value = .ok b) :
    results (answer :: answers) = (results answers).map (b :: ·) := by
  rw [results, h]

section Turns

variable {ι : Type} {step : List β → ι → StateM σ (Noted (Except ε β))} {i : ι} {is : List ι}
  {start : List β} {s : σ}

theorem run_inTurn (step : List β → ι → StateM σ (Noted (Except ε β))) (start : List β) (i : ι)
    (is : List ι) (s : σ) :
    (inTurn step start (i :: is)).run s =
      StateT.run (match ((step start i).run s).1.value with
        | .error _ => pure [((step start i).run s).1]
        | .ok b => do return ((step start i).run s).1 :: (← inTurn step (start ++ [b]) is))
          ((step start i).run s).2 :=
  rfl

theorem run_inTurn_error {e : ε} (h : ((step start i).run s).1.value = .error e) :
    (inTurn step start (i :: is)).run s =
      ([((step start i).run s).1], ((step start i).run s).2) := by
  rw [run_inTurn, h]
  rfl

theorem run_inTurn_ok {b : β} (h : ((step start i).run s).1.value = .ok b) :
    (inTurn step start (i :: is)).run s =
      (((step start i).run s).1 ::
          ((inTurn step (start ++ [b]) is).run ((step start i).run s).2).1,
        ((inTurn step (start ++ [b]) is).run ((step start i).run s).2).2) := by
  rw [run_inTurn, h]
  rfl

/-- Items that are not cut make one step. -/
theorem run_of_cut_singleton {step : List β → Nat → List α → StateM σ (Noted (Except ε β))}
    (h : cut limit weight items = .ok [items]) (s : σ) :
    (run limit weight step items).run s =
      (.ok [((step [] 0 items).run s).1], ((step [] 0 items).run s).2) := by
  have hturn : (inTurn (fun done (chunk, n) => step done n chunk) [] [items].zipIdx).run s =
      ([((step [] 0 items).run s).1], ((step [] 0 items).run s).2) := by
    cases hv : ((step [] 0 items).run s).1.value with
    | error e => exact run_inTurn_error hv
    | ok b => exact run_inTurn_ok hv
  unfold run
  rw [h]
  dsimp only
  rw [StateT.run_bind, hturn]
  rfl

/-- Steps in turn. `P` tells the states after the steps that were done, with their results, and `F`
the states after a failure. A step is taken behind those before it and told their results. -/
theorem ensures_inTurn_zip {P : List (ι × β) → σ → Prop} {F : ε → σ → Prop}
    (h : ∀ done i, done.map (·.1) ++ [i] <+: is →
      Ensures (P done) (step (start ++ done.map (·.2)) i) fun answer s =>
        (∀ b, answer.value = .ok b → P (done ++ [(i, b)]) s) ∧
          ∀ e, answer.value = .error e → F e s) :
    Ensures (P []) (inTurn step start is) fun answers s =>
      (∀ bs, results answers = .ok bs → is.length = bs.length ∧ P (is.zip bs) s) ∧
        ∀ e, results answers = .error e → F e s := by
  induction is generalizing P start with
  | nil =>
    refine Ensures.pure fun s hs => ⟨fun bs hbs => ?_, by simp [results]⟩
    cases hbs
    exact ⟨rfl, hs⟩
  | cons i is ih =>
    intro s hs
    have hfirst := h [] i (List.prefix_append [i] is)
    rw [List.map_nil, List.append_nil] at hfirst
    obtain ⟨hok, herr⟩ := hfirst s hs
    cases hv : ((step start i).run s).1.value with
    | error e =>
      rw [run_inTurn_error hv]
      refine ⟨fun bs hbs => ?_, fun e' he' => ?_⟩
      · rw [results_cons_error hv] at hbs
        cases hbs
      · rw [results_cons_error hv] at he'
        cases he'
        exact herr e hv
    | ok b =>
      -- the rest starts behind `i`, so the states are told from there on
      obtain ⟨hok', herr'⟩ := @ih (start ++ [b]) (fun done => P ((i, b) :: done))
        (fun done j hj => by
          have hnext := h ((i, b) :: done) j (List.cons_prefix_cons.2 ⟨rfl, hj⟩)
          rwa [List.map_cons, List.append_cons] at hnext)
        _ (hok b hv)
      rw [run_inTurn_ok hv, results_cons_ok hv]
      cases hr : results ((inTurn step (start ++ [b]) is).run ((step start i).run s).2).1 with
      | error e =>
        refine ⟨fun bs hbs => by simp [Except.map] at hbs, fun e' he' => ?_⟩
        cases he'
        exact herr' e hr
      | ok bs =>
        refine ⟨fun bs' hbs' => ?_, fun e' he' => by simp [Except.map] at he'⟩
        cases hbs'
        obtain ⟨hlength, hP⟩ := hok' bs hr
        exact ⟨congrArg Nat.succ hlength, hP⟩

end Turns

/-- Chunks in turn, as for `ensures_inTurn_zip`; nothing is done where the items cannot be cut. -/
theorem ensures_run_zip {P : List (List α × β) → σ → Prop} {F : ε → σ → Prop}
    {step : List β → Nat → List α → StateM σ (Noted (Except ε β))}
    (h : ∀ chunks, cut limit weight items = .ok chunks → ∀ done n chunk,
      done.map (·.1) ++ [chunk] <+: chunks →
        Ensures (P done) (step (done.map (·.2)) n chunk) fun answer s =>
          (∀ b, answer.value = .ok b → P (done ++ [(chunk, b)]) s) ∧
            ∀ e, answer.value = .error e → F e s) :
    Ensures (P []) (run limit weight step items) fun outcome s =>
      (∀ cause, outcome = .error cause → P [] s ∧ cut limit weight items = .error cause) ∧
      ∀ answers, outcome = .ok answers → ∃ chunks, cut limit weight items = .ok chunks ∧
        (∀ bs, results answers = .ok bs → chunks.length = bs.length ∧ P (chunks.zip bs) s) ∧
          ∀ e, results answers = .error e → F e s := by
  unfold run
  cases hc : cut limit weight items with
  | error cause =>
    refine Ensures.pure fun s hs => ⟨fun cause' e => ?_, fun answers e => ?_⟩
    · cases e
      exact ⟨hs, rfl⟩
    · cases e
  | ok chunks =>
    have turns := @ensures_inTurn_zip β ε σ (List α × Nat) (fun done i => step done i.2 i.1)
      chunks.zipIdx [] (fun done => P (done.map (Prod.map Prod.fst id))) F
      (by
        rintro done ⟨chunk, n⟩ hi
        have hbefore : (done.map (Prod.map Prod.fst id)).map (·.1) ++ [chunk] <+: chunks := by
          have hchunks := hi.map Prod.fst
          rw [List.zipIdx_map_fst, List.map_append, List.map_map] at hchunks
          rw [List.map_map]
          exact hchunks
        have hresults : (done.map (Prod.map Prod.fst id)).map (·.2) = done.map (·.2) := by
          rw [List.map_map]
          rfl
        have hstep := h chunks hc (done.map (Prod.map Prod.fst id)) n chunk hbefore
        rw [hresults] at hstep
        simpa using hstep)
    refine Ensures.bind turns fun answers => Ensures.pure fun s hs => ⟨by simp, ?_⟩
    rintro _ ⟨⟩
    refine ⟨chunks, rfl, fun bs hbs => ?_, hs.2⟩
    obtain ⟨hlength, hP⟩ := hs.1 bs hbs
    rw [← List.zip_map_left, List.zipIdx_map_fst] at hP
    exact ⟨by rw [← hlength, List.length_zipIdx], hP⟩

/-- Chunks in turn. `P` tells the states after the chunks that were done, `A` the answers to the
chunks, and `F` the states after a failure. -/
theorem ensures_run {P : List (List α) → σ → Prop} {A : List α → β → Prop} {F : ε → σ → Prop}
    {step : List β → Nat → List α → StateM σ (Noted (Except ε β))}
    (h : ∀ chunks, cut limit weight items = .ok chunks → ∀ done bs n, ∀ chunk ∈ chunks,
      Ensures (P done) (step bs n chunk) fun answer s =>
        (∀ b, answer.value = .ok b → P (done ++ [chunk]) s ∧ A chunk b) ∧
          ∀ e, answer.value = .error e → F e s) :
    Ensures (P []) (run limit weight step items) fun outcome s =>
      (∀ cause, outcome = .error cause → P [] s ∧ cut limit weight items = .error cause) ∧
      ∀ answers, outcome = .ok answers → ∃ chunks, cut limit weight items = .ok chunks ∧
        (∀ bs, results answers = .ok bs → P chunks s ∧ List.Forall₂ A chunks bs) ∧
          ∀ e, results answers = .error e → F e s := by
  have zipped := @ensures_run_zip α β ε σ limit weight items
    (fun done s => P (done.map Prod.fst) s ∧ ∀ d ∈ done, A d.1 d.2) F step
    (by
      intro chunks hc done n chunk hchunk s hs
      have hmem : chunk ∈ chunks := hchunk.subset (by simp)
      obtain ⟨hok, herr⟩ := h chunks hc (done.map Prod.fst) _ n chunk hmem s hs.1
      refine ⟨fun b hb => ?_, herr⟩
      obtain ⟨hP, hA⟩ := hok b hb
      rw [List.map_append]
      refine ⟨hP, fun d hd => ?_⟩
      rcases List.mem_append.1 hd with hd | hd
      · exact hs.2 d hd
      · rw [List.mem_singleton.1 hd]
        exact hA)
  refine zipped.mono (fun s hs => ⟨hs, by simp⟩) fun outcome s hs => ?_
  refine ⟨fun cause hcause => ⟨(hs.1 cause hcause).1.1, (hs.1 cause hcause).2⟩, ?_⟩
  intro answers hanswers
  obtain ⟨chunks, hc, hok, herr⟩ := hs.2 answers hanswers
  refine ⟨chunks, hc, fun bs hbs => ?_, herr⟩
  obtain ⟨hlength, hP, hA⟩ := hok bs hbs
  rw [List.map_fst_zip (Nat.le_of_eq hlength)] at hP
  exact ⟨hP, List.forall₂_iff_zip.2 ⟨hlength, fun hmem => hA _ hmem⟩⟩

end Registrar.Chunks
