import Registrar.Criterion.Cover
import Registrar.Proofs.Criterion.Form

/-!
What a cover is good for. Whatever a criterion matches, one criterion of its cover matches, and each
of them stays within the budget. From a budget of one value on there is always a cover; without a
budget there is none for a criterion without empty parts (`cover_suffices`). A cover of a criterion
binds no more values than the criterion itself, so that asking for the parts is no more work than
asking for the whole, and it is in the form of the criterion. All of this follows from what a cover
can be (`cover_cases`).
-/

namespace Registrar.Criterion

variable {budget : Nat} {r : Record} {c : Criterion} {cs qs : List Criterion}

/-! ### The pieces of a cover -/

theorem within_sublist (budget : Nat) (cs : List Criterion) : (within budget cs).Sublist cs := by
  induction cs generalizing budget with
  | nil => exact .slnil
  | cons c cs ih =>
    unfold within
    split
    · exact (ih _).cons_cons c
    · exact (ih _).cons c

theorem sum_within_le (budget : Nat) (cs : List Criterion) :
    ((within budget cs).map size).sum ≤ budget := by
  induction cs generalizing budget with
  | nil => simp [within]
  | cons c cs ih =>
    unfold within
    split
    · have := ih (budget - c.size)
      simp only [List.map_cons, List.sum_cons]
      omega
    · exact ih budget

theorem sum_size_le_of_sublist {ps : List Criterion} (h : ps.Sublist cs) :
    (ps.map size).sum ≤ (cs.map size).sum :=
  (h.map size).sum_le_sum fun _ _ => Nat.zero_le _

theorem mem_of_shortest {α : Type} {ls : List (List α)} {l : List α} (h : shortest ls = some l) :
    l ∈ ls := by
  induction ls generalizing l with
  | nil => simp [shortest] at h
  | cons k ks ih =>
    unfold shortest at h
    split at h
    · next m hm =>
      split at h <;> cases h
      · exact List.mem_cons_of_mem _ (ih hm)
      · exact List.mem_cons_self
    · cases h
      exact List.mem_cons_self

theorem exists_shortest {α : Type} {ls : List (List α)} (h : ls ≠ []) :
    ∃ l, shortest ls = some l := by
  cases ls with
  | nil => exact absurd rfl h
  | cons k ks =>
    unfold shortest
    split
    · split
      · exact ⟨_, rfl⟩
      · exact ⟨_, rfl⟩
    · exact ⟨_, rfl⟩

theorem mem_coverEach (h : coverEach budget cs = some qs) (q : Criterion) :
    q ∈ qs ↔ ∃ c ∈ cs, ∃ l, cover budget c = some l ∧ q ∈ l := by
  induction cs generalizing qs with
  | nil =>
    cases h
    simp
  | cons c cs ih =>
    unfold coverEach at h
    split at h
    · next first rest h1 h2 =>
      cases h
      simp [ih h2, h1]
    · cases h

theorem exists_cover_of_coverEach (h : coverEach budget cs = some qs) (hc : c ∈ cs) :
    ∃ l, cover budget c = some l := by
  induction cs generalizing qs with
  | nil => simp at hc
  | cons d cs ih =>
    unfold coverEach at h
    split at h
    · next first rest h1 h2 =>
      rcases List.mem_cons.1 hc with rfl | hc
      · exact ⟨first, h1⟩
      · exact ih h2 hc
    · cases h

theorem exists_coverEach (h : ∀ c ∈ cs, ∃ l, cover budget c = some l) :
    ∃ qs, coverEach budget cs = some qs := by
  induction cs with
  | nil => exact ⟨[], rfl⟩
  | cons c cs ih =>
    obtain ⟨first, h1⟩ := h c List.mem_cons_self
    obtain ⟨rest, h2⟩ := ih fun d hd => h d (List.mem_cons_of_mem _ hd)
    exact ⟨first ++ rest, by rw [coverEach, h1, h2]⟩

theorem sum_coverEach_le (h : coverEach budget cs = some qs)
    (hc : ∀ c ∈ cs, ∀ l, cover budget c = some l → (l.map size).sum ≤ c.size) :
    (qs.map size).sum ≤ (cs.map size).sum := by
  induction cs generalizing qs with
  | nil =>
    cases h
    simp
  | cons c cs ih =>
    unfold coverEach at h
    split at h
    · next first rest h1 h2 =>
      cases h
      have hfirst := hc c List.mem_cons_self first h1
      have hrest := ih h2 fun d hd => hc d (List.mem_cons_of_mem _ hd)
      simp only [List.map_append, List.sum_append, List.map_cons, List.sum_cons]
      omega
    · cases h

/-! ### What a cover can be -/

/-- A cover is the criterion itself where that fits; the covers of all parts of a disjunction; the
conjunction of some parts of a conjunction, which fit together; or the cover of one of its parts. -/
theorem cover_cases (h : cover budget c = some qs) :
    (c.size ≤ budget ∧ qs = [c]) ∨
    (∃ ps, c = any ps ∧ ps ≠ [] ∧ coverEach budget ps = some qs) ∨
    (∃ ps kept, c = all ps ∧ kept.Sublist ps ∧ kept ≠ [] ∧ (kept.map size).sum ≤ budget ∧
      qs = [conjoin kept]) ∨
    ∃ ps, c = all ps ∧ ∃ p ∈ ps, cover budget p = some qs := by
  by_cases hc : c.size ≤ budget
  · rw [cover_of_size_le hc] at h
    exact .inl ⟨hc, (Option.some.inj h).symm⟩
  · cases c with
    | never => simp at hc
    | equals f v => simp [cover] at h hc; omega
    | any ps =>
      rw [cover, if_neg hc] at h
      refine .inr (.inl ⟨ps, rfl, ?_, h⟩)
      rintro rfl
      simp at hc
    | all ps =>
      rw [cover, if_neg hc] at h
      split at h
      · next e =>
        have hp := mem_of_shortest h
        rw [coverSome_eq, List.mem_filterMap] at hp
        exact .inr (.inr (.inr ⟨ps, rfl, hp⟩))
      · next hne =>
        exact .inr (.inr (.inl ⟨ps, within budget ps, rfl, within_sublist budget ps, hne,
          sum_within_le budget ps, (Option.some.inj h).symm⟩))

/-- Whatever a criterion matches, one criterion of its cover matches. -/
theorem exists_holds_of_cover (h : cover budget c = some qs) (hr : c.holds r = true) :
    ∃ q ∈ qs, q.holds r = true := by
  induction c using ind generalizing qs with
  | never => simp at hr
  | equals f v =>
    rcases cover_cases h with ⟨-, rfl⟩ | ⟨_, e, _⟩ | ⟨_, _, e, _⟩ | ⟨_, e, _⟩
    · exact ⟨_, List.mem_singleton_self _, hr⟩
    all_goals cases e
  | any ps ih =>
    rcases cover_cases h with ⟨-, rfl⟩ | ⟨_, e, -, hps⟩ | ⟨_, _, e, _⟩ | ⟨_, e, _⟩
    · exact ⟨_, List.mem_singleton_self _, hr⟩
    · cases e
      obtain ⟨p, hp, hpr⟩ := List.any_eq_true.1 (holds_any r ps ▸ hr)
      obtain ⟨l, hl⟩ := exists_cover_of_coverEach hps hp
      obtain ⟨q, hq, hqr⟩ := ih p hp hl hpr
      exact ⟨q, (mem_coverEach hps q).2 ⟨p, hp, l, hl, hq⟩, hqr⟩
    all_goals cases e
  | all ps ih =>
    obtain ⟨-, hall⟩ : ps ≠ [] ∧ ∀ p ∈ ps, p.holds r = true := by simpa using hr
    rcases cover_cases h with ⟨-, rfl⟩ | ⟨_, e, _⟩ | ⟨_, kept, e, hsub, hne, -, rfl⟩ |
      ⟨_, e, p, hp, hq⟩
    · exact ⟨_, List.mem_singleton_self _, hr⟩
    · cases e
    · cases e
      exact ⟨_, List.mem_singleton_self _,
        holds_conjoin_of_all hne fun p hp => hall p (hsub.subset hp)⟩
    · cases e
      exact ih p hp hq (hall p hp)

theorem ne_nil_of_cover (h : cover budget c = some qs) : qs ≠ [] := by
  induction c using ind generalizing qs with
  | never | equals f v =>
    rcases cover_cases h with ⟨-, rfl⟩ | ⟨_, e, _⟩ | ⟨_, _, e, _⟩ | ⟨_, e, _⟩
    · exact List.cons_ne_nil _ _
    all_goals cases e
  | any ps ih =>
    rcases cover_cases h with ⟨-, rfl⟩ | ⟨_, e, hne, hps⟩ | ⟨_, _, e, _⟩ | ⟨_, e, _⟩
    · exact List.cons_ne_nil _ _
    · cases e
      -- the cover of the first part is among the covers
      obtain ⟨p, ps, rfl⟩ := List.exists_cons_of_ne_nil hne
      obtain ⟨l, hl⟩ := exists_cover_of_coverEach hps List.mem_cons_self
      obtain ⟨q, hq⟩ := List.exists_mem_of_ne_nil l (ih p List.mem_cons_self hl)
      exact List.ne_nil_of_mem ((mem_coverEach hps q).2 ⟨p, List.mem_cons_self, l, hl, hq⟩)
    all_goals cases e
  | all ps ih =>
    rcases cover_cases h with ⟨-, rfl⟩ | ⟨_, e, _⟩ | ⟨_, kept, e, -, -, -, rfl⟩ |
      ⟨_, e, p, hp, hl⟩
    · exact List.cons_ne_nil _ _
    · cases e
    · exact List.cons_ne_nil _ _
    · cases e
      exact ih p hp hl

theorem size_le_of_mem_cover (h : cover budget c = some qs) {q : Criterion} (hq : q ∈ qs) :
    q.size ≤ budget := by
  induction c using ind generalizing qs with
  | never | equals f v =>
    rcases cover_cases h with ⟨hc, rfl⟩ | ⟨_, e, _⟩ | ⟨_, _, e, _⟩ | ⟨_, e, _⟩
    · exact List.mem_singleton.1 hq ▸ hc
    all_goals cases e
  | any ps ih =>
    rcases cover_cases h with ⟨hc, rfl⟩ | ⟨_, e, -, hps⟩ | ⟨_, _, e, _⟩ | ⟨_, e, _⟩
    · exact List.mem_singleton.1 hq ▸ hc
    · cases e
      obtain ⟨p, hp, l, hl, hql⟩ := (mem_coverEach hps q).1 hq
      exact ih p hp hl hql
    all_goals cases e
  | all ps ih =>
    rcases cover_cases h with ⟨hc, rfl⟩ | ⟨_, e, _⟩ | ⟨_, kept, e, -, -, hk, rfl⟩ |
      ⟨_, e, p, hp, hl⟩
    · exact List.mem_singleton.1 hq ▸ hc
    · cases e
    · rw [List.mem_singleton.1 hq]
      exact Nat.le_trans (size_conjoin_le kept) hk
    · cases e
      exact ih p hp hl hq

/-- A cover binds no more values than the criterion. -/
theorem sum_cover_le (h : cover budget c = some qs) : (qs.map size).sum ≤ c.size := by
  induction c using ind generalizing qs with
  | never | equals f v =>
    rcases cover_cases h with ⟨-, rfl⟩ | ⟨_, e, _⟩ | ⟨_, _, e, _⟩ | ⟨_, e, _⟩
    · simp
    all_goals cases e
  | any ps ih =>
    rcases cover_cases h with ⟨-, rfl⟩ | ⟨_, e, -, hps⟩ | ⟨_, _, e, _⟩ | ⟨_, e, _⟩
    · simp
    · cases e
      rw [size_any]
      exact sum_coverEach_le hps fun p hp l hl => ih p hp hl
    all_goals cases e
  | all ps ih =>
    rcases cover_cases h with ⟨-, rfl⟩ | ⟨_, e, _⟩ | ⟨_, kept, e, hsub, -, -, rfl⟩ |
      ⟨_, e, p, hp, hl⟩
    · simp
    · cases e
    · cases e
      have hk : (conjoin kept).size ≤ (kept.map size).sum := size_conjoin_le kept
      have hs : (kept.map size).sum ≤ (ps.map size).sum := sum_size_le_of_sublist hsub
      simp only [List.map_cons, List.map_nil, List.sum_cons, List.sum_nil, size_all]
      omega
    · cases e
      have hs : ([p].map size).sum ≤ (ps.map size).sum :=
        sum_size_le_of_sublist (List.singleton_sublist.2 hp)
      have hq := ih p hp hl
      simp only [List.map_cons, List.map_nil, List.sum_cons, List.sum_nil, size_all] at hs ⊢
      omega

theorem exists_cover (hb : 1 ≤ budget) (c : Criterion) : ∃ qs, cover budget c = some qs := by
  induction c using ind with
  | never => exact ⟨_, cover_of_size_le (by simp)⟩
  | equals f v => exact ⟨_, cover_of_size_le (by simpa using hb)⟩
  | any ps ih =>
    rw [cover]
    split
    · exact ⟨_, rfl⟩
    · exact exists_coverEach ih
  | all ps ih =>
    rw [cover]
    split
    · exact ⟨_, rfl⟩
    · next hsize =>
      split
      · have hne : ps ≠ [] := by
          rintro rfl
          simp at hsize
        obtain ⟨p, ps', rfl⟩ := List.exists_cons_of_ne_nil hne
        obtain ⟨l, hl⟩ := ih p List.mem_cons_self
        refine exists_shortest (List.ne_nil_of_mem (a := l) ?_)
        rw [coverSome_eq]
        exact List.mem_filterMap.2 ⟨p, List.mem_cons_self, hl⟩
      · exact ⟨_, rfl⟩

/-- Without room for a value a filled criterion has no cover. -/
theorem cover_zero (h : c.Filled) : cover 0 c = none := by
  induction h with
  | equals f v => simp [cover]
  | @any ps hne hps ih =>
    have hsize : ¬ (any ps).size ≤ 0 := Nat.not_le.2 (Filled.any hne hps).one_le_size
    obtain ⟨p, ps, rfl⟩ := List.exists_cons_of_ne_nil hne
    rw [cover, if_neg hsize, coverEach, ih p List.mem_cons_self]
  | @all ps hne hps ih =>
    have hsize : ¬ (all ps).size ≤ 0 := Nat.not_le.2 (Filled.all hne hps).one_le_size
    have hkept : within 0 ps = [] := by
      refine List.eq_nil_iff_forall_not_mem.2 fun p hp => ?_
      have hmem : p ∈ ps := (within_sublist 0 ps).subset hp
      have hle : ([p].map size).sum ≤ ((within 0 ps).map size).sum :=
        sum_size_le_of_sublist (List.singleton_sublist.2 hp)
      have hzero := sum_within_le 0 ps
      have hone := (hps p hmem).one_le_size
      simp only [List.map_cons, List.map_nil, List.sum_cons, List.sum_nil] at hle
      omega
    have hnone : coverSome 0 ps = [] := by
      rw [coverSome_eq]
      exact List.filterMap_eq_nil_iff.2 ih
    rw [cover, if_neg hsize, hkept, hnone]
    rfl

/-- What is handed down to parts, and up to a conjunction of parts, is handed down to a cover. -/
theorem of_mem_cover {K : Criterion → Prop} (hany : ∀ ps, K (any ps) → ∀ p ∈ ps, K p)
    (hall : ∀ ps, K (all ps) → ∀ p ∈ ps, K p)
    (hconjoin : ∀ kept, kept ≠ [] → (∀ p ∈ kept, K p) → K (conjoin kept))
    (h : cover budget c = some qs) (hc : K c) {q : Criterion} (hq : q ∈ qs) : K q := by
  induction c using ind generalizing qs with
  | never | equals f v =>
    rcases cover_cases h with ⟨-, rfl⟩ | ⟨_, e, _⟩ | ⟨_, _, e, _⟩ | ⟨_, e, _⟩
    · exact List.mem_singleton.1 hq ▸ hc
    all_goals cases e
  | any ps ih =>
    rcases cover_cases h with ⟨-, rfl⟩ | ⟨_, e, -, hps⟩ | ⟨_, _, e, _⟩ | ⟨_, e, _⟩
    · exact List.mem_singleton.1 hq ▸ hc
    · cases e
      obtain ⟨p, hp, l, hl, hql⟩ := (mem_coverEach hps q).1 hq
      exact ih p hp hl (hany ps hc p hp) hql
    all_goals cases e
  | all ps ih =>
    rcases cover_cases h with ⟨-, rfl⟩ | ⟨_, e, _⟩ | ⟨_, kept, e, hsub, hne, -, rfl⟩ |
      ⟨_, e, p, hp, hl⟩
    · exact List.mem_singleton.1 hq ▸ hc
    · cases e
    · cases e
      rw [List.mem_singleton.1 hq]
      exact hconjoin kept hne fun p hp => hall ps hc p (hsub.subset hp)
    · cases e
      exact ih p hp hl (hall ps hc p hp) hq

theorem reduced_of_mem_cover (h : cover budget c = some qs) (hc : c.Reduced) {q : Criterion}
    (hq : q ∈ qs) : q.Reduced := by
  refine of_mem_cover (fun ps hps => ?_) (fun ps hps => ?_)
    (fun kept hne hkept => reduced_conjoin_of_reduced hne hkept) h hc hq
  · cases hps with
    | any _ reduced _ => exact reduced
  · cases hps with
    | all _ reduced _ => exact reduced

/-- A cover makes up no equation. -/
theorem each_of_mem_cover {P : Field → String → Prop} (h : cover budget c = some qs)
    (hc : c.Each P) {q : Criterion} (hq : q ∈ qs) : q.Each P := by
  refine of_mem_cover (fun ps hps => ?_) (fun ps hps => ?_)
    (fun kept _ hkept => each_conjoin hkept) h hc hq
  · cases hps with
    | any hparts => exact hparts
  · cases hps with
    | all hparts => exact hparts

/-- **A cover suffices.** Whatever a criterion is made of, a cover of it is not empty, each
criterion of the cover stays within the budget, and a record that the criterion matches is matched
by one of them. With room for one value there is always a cover. Without room there is none for a
criterion in which no part is empty or the one without records. -/
theorem cover_suffices (budget : Nat) (c : Criterion) :
    (∀ qs, cover budget c = some qs → qs ≠ [] ∧ (∀ q ∈ qs, q.size ≤ budget) ∧
      ∀ r, c.holds r = true → ∃ q ∈ qs, q.holds r = true) ∧
    (1 ≤ budget → ∃ qs, cover budget c = some qs) ∧
    (budget = 0 → c.Filled → cover budget c = none) := by
  refine ⟨fun qs h => ⟨ne_nil_of_cover h, ?_, ?_⟩, fun hb => exists_cover hb c, ?_⟩
  · exact fun q hq => size_le_of_mem_cover h hq
  · exact fun r hr => exists_holds_of_cover h hr
  · rintro rfl hc
    exact cover_zero hc

/-- A disjunction of surnames with an empty part and one that is joined in the same way. -/
def surnames : Criterion :=
  .any [.any [], .equals .lastName "Lee", .any [.equals .lastName "Li", .never]]

/-- The criterion of a given name and a surname, the given name nested deeper than it need be. -/
def givenAndSurnames : Criterion :=
  .all [.any [.all [.equals .firstName "Ann"], .equals .middleName "Ann"], surnames]

def annLi : Record :=
  { Record.blank with
    values := .ofFn fun
      | .firstName => "Ann"
      | .lastName => "Li"
      | _ => "" }

/-- With room for one value only the given name is asked for, in two queries; without room for a
value there is no cover of a plain disjunction. -/
theorem cover_suffices_nestedNames :
    (∃ qs, cover 1 givenAndSurnames = some qs ∧ qs.length = 2 ∧ (∀ q ∈ qs, q.size ≤ 1) ∧
      ∃ q ∈ qs, q.holds annLi = true) ∧
    cover 0 (.any [.equals .lastName "Lee", .equals .lastName "Li"]) = none := by
  obtain ⟨qs, hqs⟩ := (cover_suffices 1 givenAndSurnames).2.1 (by decide)
  obtain ⟨-, hsize, hholds⟩ := (cover_suffices 1 givenAndSurnames).1 qs hqs
  have hlength : (cover 1 givenAndSurnames).map List.length = some 2 := rfl
  rw [hqs] at hlength
  refine ⟨⟨qs, hqs, Option.some.inj hlength, hsize, hholds annLi (by decide)⟩, ?_⟩
  refine (cover_suffices 0 _).2.2 rfl (.any (by simp) ?_)
  rintro c hc
  simp only [List.mem_cons, List.not_mem_nil, or_false] at hc
  rcases hc with rfl | rfl <;> exact .equals _ _

end Registrar.Criterion
