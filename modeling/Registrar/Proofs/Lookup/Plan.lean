import Registrar.Lookup.Plan
import Registrar.Proofs.Criterion.Cover
import Registrar.Proofs.Fallible

/-!
What a plan asks for a candidate. Its probes keep only records that the criterion of the candidate
matches, and every record that it matches is asked for and kept by one of them; each probe stays
within the budget, and all of them together bind no more values than the criterion (`Serves`). What
is handed down to disjuncts and covers holds of all that is asked and kept (`Inherited`). With a
budget of one value or more there is always a plan.
-/

namespace Registrar.Lookup

/-- The probes serve the candidate at `index` with the criterion `c`: nothing else is kept, nothing
is left out, and the limit is respected. -/
structure Serves (limit index : Nat) (c : Criterion) (probes : List Probe) : Prop where
  candidate : ∀ p ∈ probes, p.candidate = index
  sound : ∀ p ∈ probes, ∀ r, p.keep.holds r = true → c.holds r = true
  complete : ∀ r, c.holds r = true → ∃ p ∈ probes, p.keep.holds r = true ∧ p.ask.holds r = true
  size_le : ∀ p ∈ probes, p.ask.size ≤ budget limit
  sum_le : (probes.map (·.ask.size)).sum ≤ c.size
  each : ∀ P, c.Each P → ∀ p ∈ probes, p.ask.Each P

variable {limit index : Nat} {c : Criterion} {cs : List Criterion} {probes : List Probe}

/-! ### One candidate -/

theorem probesOfPart_serves (h : probesOfPart limit index c = .ok probes) :
    Serves limit index c probes := by
  unfold probesOfPart at h
  split at h
  · next qs hq =>
    cases h
    have hp : ∀ p ∈ qs.map (fun q : Criterion => (⟨index, q, c⟩ : Probe)),
        p.candidate = index ∧ p.keep = c ∧ p.ask ∈ qs := by
      intro p hp
      obtain ⟨q, hq, rfl⟩ := List.mem_map.1 hp
      exact ⟨rfl, rfl, hq⟩
    constructor
    · exact fun p h => (hp p h).1
    · exact fun p h r hr => (hp p h).2.1 ▸ hr
    · intro r hr
      obtain ⟨q, hmem, hqr⟩ := Criterion.exists_holds_of_cover hq hr
      exact ⟨⟨index, q, c⟩, List.mem_map_of_mem hmem, hr, hqr⟩
    · exact fun p h => Criterion.size_le_of_mem_cover hq (hp p h).2.2
    · simpa [Function.comp_def] using Criterion.sum_cover_le hq
    · exact fun P hc p h => Criterion.each_of_mem_cover hq hc (hp p h).2.2
  · cases h

theorem probesOfParts_cons {part : Criterion} {parts : List Criterion}
    (h : probesOfParts limit index (part :: parts) = .ok probes) :
    ∃ first rest, probesOfPart limit index part = .ok first ∧
      probesOfParts limit index parts = .ok rest ∧ probes = first ++ rest := by
  unfold probesOfParts at h
  split at h
  · cases h
  · next first h1 =>
    obtain ⟨rest, h2, e⟩ := map_eq_ok_iff.1 h
    exact ⟨first, rest, h1, h2, e.symm⟩

theorem probesOfParts_serves {parts : List Criterion}
    (h : probesOfParts limit index parts = .ok probes) :
    Serves limit index (.any parts) probes := by
  induction parts generalizing probes with
  | nil =>
    cases h
    constructor <;> simp
  | cons part parts ih =>
    obtain ⟨first, rest, h1, h2, rfl⟩ := probesOfParts_cons h
    have s1 := probesOfPart_serves h1
    have s2 := ih h2
    constructor
    · exact List.forall_mem_append.2 ⟨s1.candidate, s2.candidate⟩
    · refine List.forall_mem_append.2 ⟨fun p hp r hr => ?_, fun p hp r hr => ?_⟩
      · simp [s1.sound p hp r hr]
      · have := s2.sound p hp r hr
        simp only [Criterion.holds_any, List.any_cons, Bool.or_eq_true] at this ⊢
        exact .inr this
    · intro r hr
      simp only [Criterion.holds_any, List.any_cons, Bool.or_eq_true] at hr
      rcases hr with hr | hr
      · obtain ⟨p, hp, h⟩ := s1.complete r hr
        exact ⟨p, List.mem_append_left _ hp, h⟩
      · obtain ⟨p, hp, h⟩ := s2.complete r (by rwa [Criterion.holds_any])
        exact ⟨p, List.mem_append_right _ hp, h⟩
    · exact List.forall_mem_append.2 ⟨s1.size_le, s2.size_le⟩
    · have t1 := s1.sum_le
      have t2 := s2.sum_le
      simp only [List.map_append, List.sum_append, Criterion.size_any, List.map_cons, List.sum_cons]
        at t2 ⊢
      omega
    · intro P hP
      cases hP with
      | any hP =>
        obtain ⟨hpart, hparts⟩ := List.forall_mem_cons.1 hP
        exact List.forall_mem_append.2 ⟨s1.each P hpart, s2.each P (.any hparts)⟩

theorem serves_of_disjuncts (h : Serves limit index (.any c.disjuncts) probes) :
    Serves limit index c probes := by
  have hd : ∀ r, Criterion.holds r (.any c.disjuncts) = c.holds r := fun r => by
    cases c <;> simp [Criterion.disjuncts]
  have hsize : Criterion.size (.any c.disjuncts) = c.size := by
    cases c <;> simp [Criterion.disjuncts]
  constructor
  · exact h.candidate
  · exact fun p hp r hr => hd r ▸ h.sound p hp r hr
  · exact fun r hr => h.complete r (hd r ▸ hr)
  · exact h.size_le
  · exact hsize ▸ h.sum_le
  · intro P hP
    refine h.each P ?_
    cases c with
    | any parts => exact hP
    | _ => exact .any (by simpa [Criterion.disjuncts] using hP)

theorem probesOf_serves (h : (probesOf limit index c).value = .ok probes) :
    Serves limit index c probes := by
  unfold probesOf at h
  split at h
  · next hn =>
    cases h
    constructor <;> simp [Criterion.holds_eq_false_of_isNever hn]
  · split at h
    · next hsize =>
      cases h
      constructor <;> simp [hsize]
    · split at h
      · cases h
      · next probes' hp =>
        cases h
        exact serves_of_disjuncts (probesOfParts_serves hp)

/-! ### A batch -/

theorem planFrom_cons (h : (planFrom limit index (c :: cs)).value = .ok probes) :
    ∃ first rest, (probesOf limit index c).value = .ok first ∧
      (planFrom limit (index + 1) cs).value = .ok rest ∧ probes = first ++ rest := by
  unfold planFrom Noted.andThen at h
  cases h1 : (probesOf limit index c).value with
  | error e => simp [h1, Noted.quiet] at h
  | ok first =>
    simp only [h1, Noted.map] at h
    obtain ⟨rest, h2, e⟩ := map_eq_ok_iff.1 h
    exact ⟨first, rest, rfl, h2, e.symm⟩

theorem candidate_of_mem_planFrom (h : (planFrom limit index cs).value = .ok probes) {p : Probe}
    (hp : p ∈ probes) : index ≤ p.candidate ∧ p.candidate < index + cs.length := by
  induction cs generalizing index probes with
  | nil =>
    cases h
    simp at hp
  | cons c cs ih =>
    obtain ⟨first, rest, h1, h2, rfl⟩ := planFrom_cons h
    rcases List.mem_append.1 hp with hp | hp
    · have := (probesOf_serves h1).candidate p hp
      simp only [List.length_cons]
      omega
    · have := ih h2 hp
      simp only [List.length_cons]
      omega

theorem planFrom_serves (h : (planFrom limit index cs).value = .ok probes) {k : Nat}
    (hc : cs[k]? = some c) :
    Serves limit (index + k) c (probes.filter (·.candidate == index + k)) := by
  induction cs generalizing index probes k with
  | nil => simp at hc
  | cons d cs ih =>
    obtain ⟨first, rest, h1, h2, rfl⟩ := planFrom_cons h
    have s1 := probesOf_serves h1
    have hrest : ∀ p ∈ rest, index + 1 ≤ p.candidate := fun p hp =>
      (candidate_of_mem_planFrom h2 hp).1
    cases k with
    | zero =>
      obtain rfl : d = c := by simpa using hc
      have e1 : first.filter (·.candidate == index) = first :=
        List.filter_eq_self.2 fun p hp => by simpa using s1.candidate p hp
      have e2 : rest.filter (·.candidate == index) = [] :=
        List.filter_eq_nil_iff.2 fun p hp => by
          have := hrest p hp
          simp only [beq_iff_eq]
          omega
      rw [Nat.add_zero, List.filter_append, e1, e2, List.append_nil]
      exact s1
    | succ k =>
      have e1 : first.filter (·.candidate == index + (k + 1)) = [] :=
        List.filter_eq_nil_iff.2 fun p hp => by
          have := s1.candidate p hp
          simp only [beq_iff_eq]
          omega
      rw [List.filter_append, e1, List.nil_append]
      have := ih h2 (by simpa using hc)
      rwa [show index + 1 + k = index + (k + 1) by omega] at this

theorem sum_planFrom_le (h : (planFrom limit index cs).value = .ok probes) :
    (probes.map (·.ask.size)).sum ≤ (cs.map Criterion.size).sum := by
  induction cs generalizing index probes with
  | nil =>
    cases h
    simp
  | cons c cs ih =>
    obtain ⟨first, rest, h1, h2, rfl⟩ := planFrom_cons h
    have t1 := (probesOf_serves h1).sum_le
    have t2 := ih h2
    simp only [List.map_append, List.sum_append, List.map_cons, List.sum_cons]
    omega

/-! ### The form of what is asked -/

/-- What holds of a criterion holds of its disjuncts and of the criteria of its covers. -/
structure Inherited (K : Criterion → Prop) : Prop where
  disjunct : ∀ {c d : Criterion}, K c → d ∈ c.disjuncts → K d
  cover : ∀ {b : Nat} {c q : Criterion} {qs : List Criterion}, K c → c.cover b = some qs →
    q ∈ qs → K q

theorem inherited_reduced : Inherited Criterion.Reduced where
  disjunct hc hd := Criterion.reduced_of_mem_disjuncts hc hd
  cover hc h hq := Criterion.reduced_of_mem_cover h hc hq

section Inherits

variable {K : Criterion → Prop}

theorem inherits_of_mem_probesOfParts (hK : Inherited K) {parts : List Criterion}
    (hparts : ∀ d ∈ parts, K d) (h : probesOfParts limit index parts = .ok probes) {p : Probe}
    (hp : p ∈ probes) : K p.ask ∧ K p.keep := by
  induction parts generalizing probes with
  | nil =>
    cases h
    simp at hp
  | cons part parts ih =>
    obtain ⟨hpart, hparts⟩ := List.forall_mem_cons.1 hparts
    obtain ⟨first, rest, h1, h2, rfl⟩ := probesOfParts_cons h
    rcases List.mem_append.1 hp with hp | hp
    · unfold probesOfPart at h1
      split at h1
      · next qs hq =>
        cases h1
        obtain ⟨q, hmem, rfl⟩ := List.mem_map.1 hp
        exact ⟨hK.cover hpart hq hmem, hpart⟩
      · cases h1
    · exact ih hparts h2 hp

theorem inherits_of_mem_probesOf (hK : Inherited K) (hc : c = .never ∨ K c)
    (h : (probesOf limit index c).value = .ok probes) {p : Probe} (hp : p ∈ probes) :
    K p.ask ∧ K p.keep := by
  unfold probesOf at h
  split at h
  · cases h
    simp at hp
  · next hn =>
    have hc : K c := hc.resolve_left fun e => hn (by rw [e]; rfl)
    split at h
    · cases h
      rw [List.mem_singleton.1 hp]
      exact ⟨hc, hc⟩
    · split at h
      · cases h
      · next probes' hprobes =>
        cases h
        exact inherits_of_mem_probesOfParts hK (fun d hd => hK.disjunct hc hd) hprobes hp

end Inherits

/-- What is asked for a candidate, and what is kept, inherits from the criterion of the candidate.
-/
theorem inherits_of_mem_planFrom (h : (planFrom limit index cs).value = .ok probes) {p : Probe}
    (hp : p ∈ probes) : ∃ k c, p.candidate = index + k ∧ cs[k]? = some c ∧
      ∀ K, Inherited K → c = .never ∨ K c → K p.ask ∧ K p.keep := by
  induction cs generalizing index probes with
  | nil =>
    cases h
    simp at hp
  | cons c cs ih =>
    obtain ⟨first, rest, h1, h2, rfl⟩ := planFrom_cons h
    rcases List.mem_append.1 hp with hp | hp
    · exact ⟨0, c, (probesOf_serves h1).candidate p hp, rfl, fun K hK hc =>
        inherits_of_mem_probesOf hK hc h1 hp⟩
    · obtain ⟨k, d, hcandidate, hd, hinherits⟩ := ih h2 hp
      exact ⟨k + 1, d, by omega, hd, hinherits⟩

/-! ### There is a plan -/

theorem exists_probesOfParts (hb : 1 ≤ budget limit) (index : Nat) (parts : List Criterion) :
    ∃ probes, probesOfParts limit index parts = .ok probes := by
  induction parts with
  | nil => exact ⟨[], rfl⟩
  | cons part parts ih =>
    obtain ⟨qs, hq⟩ := Criterion.exists_cover hb part
    obtain ⟨rest, hr⟩ := ih
    have h1 : probesOfPart limit index part = .ok (qs.map fun q => ⟨index, q, part⟩) := by
      rw [probesOfPart, hq]
    exact ⟨_, by rw [probesOfParts, h1, hr]; rfl⟩

theorem exists_probesOf (hb : 1 ≤ budget limit) (index : Nat) (c : Criterion) :
    ∃ probes, (probesOf limit index c).value = .ok probes := by
  unfold probesOf
  split
  · exact ⟨[], rfl⟩
  · split
    · exact ⟨_, rfl⟩
    · obtain ⟨probes, hp⟩ := exists_probesOfParts hb index c.disjuncts
      rw [hp]
      exact ⟨probes, rfl⟩

theorem exists_planFrom (hb : 1 ≤ budget limit) (index : Nat) (cs : List Criterion) :
    ∃ probes, (planFrom limit index cs).value = .ok probes := by
  induction cs generalizing index with
  | nil => exact ⟨[], rfl⟩
  | cons c cs ih =>
    obtain ⟨first, h1⟩ := exists_probesOf hb index c
    obtain ⟨rest, h2⟩ := ih (index + 1)
    refine ⟨first ++ rest, ?_⟩
    simp only [planFrom, Noted.andThen, h1, Noted.map, h2, Except.map]

/-- Criteria that each fit a query are asked for as they are. -/
theorem exists_planFrom_of_fits (index : Nat)
    (h : ∀ c ∈ cs, c.isNever = false ∧ c.size ≤ budget limit) :
    ∃ probes, (planFrom limit index cs).value = .ok probes ∧ probes.map (·.ask) = cs := by
  induction cs generalizing index with
  | nil => exact ⟨[], rfl, rfl⟩
  | cons c cs ih =>
    obtain ⟨⟨hnever, hsize⟩, hcs⟩ := List.forall_mem_cons.1 h
    obtain ⟨rest, hrest, hask⟩ := ih (index + 1) hcs
    have hfirst : probesOf limit index c = .quiet (.ok [⟨index, c, c⟩]) := by
      rw [probesOf, hnever, if_neg Bool.false_ne_true, if_pos hsize]
    refine ⟨⟨index, c, c⟩ :: rest, ?_, congrArg (c :: ·) hask⟩
    simp only [planFrom, hfirst, Noted.andThen, Noted.quiet, Noted.map, hrest, Except.map]
    rfl

/-! ### The plan of a batch -/

section Batch

variable {s : Selection} {batch : List Record}

theorem plan_serves (h : (plan limit s batch).value = .ok probes) {i : Nat} {a : Record}
    (ha : batch[i]? = some a) :
    Serves limit i (.ofCandidate s a) (probes.filter (·.candidate == i)) := by
  have := planFrom_serves h (k := i) (c := .ofCandidate s a) (by simp [ha])
  rwa [Nat.zero_add] at this

theorem candidate_lt_of_mem_plan (h : (plan limit s batch).value = .ok probes) {p : Probe}
    (hp : p ∈ probes) : p.candidate < batch.length := by
  simpa using (candidate_of_mem_planFrom h hp).2

theorem serves_of_mem_plan (h : (plan limit s batch).value = .ok probes) {p : Probe}
    (hp : p ∈ probes) : ∃ a, batch[p.candidate]? = some a ∧
      Serves limit p.candidate (.ofCandidate s a) (probes.filter (·.candidate == p.candidate)) ∧
      p ∈ probes.filter (·.candidate == p.candidate) := by
  have hlt := candidate_lt_of_mem_plan h hp
  refine ⟨batch[p.candidate], List.getElem?_eq_getElem hlt, ?_, by simpa using hp⟩
  exact plan_serves h (List.getElem?_eq_getElem hlt)

theorem size_le_of_mem_plan (h : (plan limit s batch).value = .ok probes) {p : Probe}
    (hp : p ∈ probes) : p.ask.size ≤ budget limit := by
  obtain ⟨a, -, hs, hmem⟩ := serves_of_mem_plan h hp
  exact hs.size_le p hmem

/-- The values asked for are values of candidates, and none of them is empty. -/
theorem each_of_mem_plan (h : (plan limit s batch).value = .ok probes) {p : Probe}
    (hp : p ∈ probes) : p.ask.Each fun _ v => v ≠ "" := by
  obtain ⟨a, -, hs, hmem⟩ := serves_of_mem_plan h hp
  refine hs.each _ ?_ p hmem
  refine (Criterion.each_ofCandidate s a).mono fun f v hv => ?_
  exact (Record.normalValue?_eq_some_iff.1 hv).1

theorem inherits_of_mem_plan {K : Criterion → Prop} (hK : Inherited K)
    (h : (plan limit s batch).value = .ok probes) {p : Probe} (hp : p ∈ probes) {a : Record}
    (ha : batch[p.candidate]? = some a)
    (hc : Criterion.ofCandidate s a = .never ∨ K (.ofCandidate s a)) : K p.ask ∧ K p.keep := by
  obtain ⟨k, c, hcandidate, hk, hinherits⟩ := inherits_of_mem_planFrom h hp
  rw [Nat.zero_add] at hcandidate
  rw [← hcandidate, List.getElem?_map, ha] at hk
  obtain rfl := Option.some.inj hk
  exact hinherits K hK hc

theorem reduced_of_mem_plan (h : (plan limit s batch).value = .ok probes) {p : Probe}
    (hp : p ∈ probes) : p.ask.Reduced ∧ p.keep.Reduced := by
  obtain ⟨a, ha, -⟩ := serves_of_mem_plan h hp
  exact inherits_of_mem_plan inherited_reduced h hp ha (Criterion.reduced_ofCandidate s a)

end Batch

end Registrar.Lookup
