import Mathlib.Algebra.Order.BigOperators.Group.List
import Mathlib.Algebra.Order.Ring.Nat
import Registrar.Criterion.Basic

/-!
Induction over criteria, and what joined criteria match. A disjunction of criteria matches what one
of them matches, however they are nested. For conjunctions one thing has to be kept away: a
conjunction without parts matches nothing, but opened inside another conjunction it leaves no part
behind (`holds_conjoin_eq_true_iff`). What this means for any list of criteria is told by
`holds_join_iff`. Joining binds no value twice: the sizes add up.
-/

namespace Registrar.Criterion

variable {r : Record} {c : Criterion} {cs : List Criterion}

/-- Induction over the parts of a criterion. -/
theorem ind {motive : Criterion → Prop} (never : motive never)
    (equals : ∀ f v, motive (equals f v)) (any : ∀ ps, (∀ p ∈ ps, motive p) → motive (any ps))
    (all : ∀ ps, (∀ p ∈ ps, motive p) → motive (all ps)) (c : Criterion) : motive c :=
  @Criterion.rec motive (fun ps => ∀ p ∈ ps, motive p) never equals any all (by simp)
    (fun p ps hp hps => by simpa using ⟨hp, hps⟩) c

/-! ### What is matched -/

theorem holds_eq_false_of_isNever (h : c.isNever = true) : c.holds r = false := by
  cases c with
  | never => exact holds_never r
  | _ => simp [isNever] at h

theorem any_alternatives (r : Record) (c : Criterion) :
    c.alternatives.any (holds r) = c.holds r := by
  cases c <;> simp [alternatives]

theorem all_conjuncts (h : c ≠ all []) : c.conjuncts.all (holds r) = c.holds r := by
  cases c with
  | all parts =>
    have hp : parts ≠ [] := fun e => h (e ▸ rfl)
    simp [conjuncts, hp]
  | _ => simp [conjuncts]

theorem conjuncts_ne_nil (h : c ≠ all []) : c.conjuncts ≠ [] := by
  cases c with
  | all parts => exact fun e => h (congrArg all e)
  | _ => simp [conjuncts]

@[simp] theorem holds_disjoin (r : Record) (cs : List Criterion) :
    (disjoin cs).holds r = cs.any (holds r) := by
  have flat : (cs.flatMap alternatives).any (holds r) = cs.any (holds r) := by
    simp only [List.any_flatMap, any_alternatives]
  unfold disjoin
  split
  · next e => rw [← flat, e]; simp
  · next e => rw [← flat, e]; simp
  · rw [holds_any, flat]

/-- A conjunction matches what each of its criteria matches, conjunctions without parts aside, if
any other is left. -/
theorem holds_conjoin_eq_true_iff : (conjoin cs).holds r = true ↔
    (∃ c ∈ cs, c ≠ all []) ∧ ∀ c ∈ cs, c ≠ all [] → c.holds r = true := by
  have flat : (cs.flatMap conjuncts).all (holds r) = true ↔
      ∀ c ∈ cs, c ≠ all [] → c.holds r = true := by
    rw [List.all_flatMap, List.all_eq_true]
    refine forall₂_congr fun c _ => ⟨fun h hc => all_conjuncts hc ▸ h, fun h => ?_⟩
    by_cases hc : c = all []
    · rw [hc]
      rfl
    · exact (all_conjuncts hc).trans (h hc)
  have left : cs.flatMap conjuncts ≠ [] ↔ ∃ c ∈ cs, c ≠ all [] := by
    constructor
    · intro hne
      obtain ⟨p, hp⟩ := List.exists_mem_of_ne_nil _ hne
      obtain ⟨c, hc, hp⟩ := List.mem_flatMap.1 hp
      refine ⟨c, hc, ?_⟩
      rintro rfl
      cases hp
    · rintro ⟨c, hc, hvoid⟩ hnil
      exact conjuncts_ne_nil hvoid (List.flatMap_eq_nil_iff.1 hnil c hc)
  unfold conjoin
  split
  · next e =>
    rw [holds_never]
    refine ⟨nofun, ?_⟩
    rintro ⟨⟨d, hd, -⟩, hall⟩
    rcases Bool.or_eq_true _ _ ▸ e with e | e
    · rw [List.isEmpty_iff.1 e] at hd
      cases hd
    · obtain ⟨c, hc, hn⟩ := List.any_eq_true.1 e
      -- the criterion without records is a criterion that has to match
      have hvoid : c ≠ all [] := by
        rintro rfl
        cases hn
      rw [← hall c hc hvoid, holds_eq_false_of_isNever hn]
  · rw [← flat, ← left]
    split
    · next d e => simp [e]
    · rw [holds_all, Bool.and_eq_true, Bool.not_eq_true', List.isEmpty_eq_false_iff]

/-- A conjunction matches what each of the criteria matches, if none of them is a conjunction
without parts. -/
theorem holds_conjoin (h : ∀ c ∈ cs, c ≠ all []) :
    (conjoin cs).holds r = (!cs.isEmpty && cs.all (holds r)) := by
  rw [Bool.eq_iff_iff, holds_conjoin_eq_true_iff, Bool.and_eq_true, Bool.not_eq_true',
    List.isEmpty_eq_false_iff_exists_mem, List.all_eq_true]
  constructor
  · rintro ⟨⟨c, hc, -⟩, hall⟩
    exact ⟨⟨c, hc⟩, fun d hd => hall d hd (h d hd)⟩
  · rintro ⟨⟨c, hc⟩, hall⟩
    exact ⟨⟨c, hc, h c hc⟩, fun d hd _ => hall d hd⟩

/-- A conjunction matches what each of its criteria matches, if there is one. -/
theorem holds_conjoin_of_all (hne : cs ≠ []) (h : ∀ c ∈ cs, c.holds r = true) :
    (conjoin cs).holds r = true := by
  rw [holds_conjoin]
  · simpa [hne] using h
  · rintro c hc rfl
    simpa using h _ hc

/-- **What joined criteria match**, whatever they are made of. A disjunction matches what one of the
criteria matches. A conjunction matches what each of them matches, conjunctions without parts aside,
if any other is left. So it may match more than each of them matches, and this happens exactly where
a conjunction without parts is among them and something is matched at all. -/
theorem holds_join_iff (cs : List Criterion) (r : Record) :
    ((join .any cs).holds r = true ↔ ∃ c ∈ cs, c.holds r = true) ∧
    ((join .all cs).holds r = true ↔
      (∃ c ∈ cs, c ≠ all []) ∧ ∀ c ∈ cs, c ≠ all [] → c.holds r = true) ∧
    (((join .all cs).holds r = true ↔ cs ≠ [] ∧ ∀ c ∈ cs, c.holds r = true) ↔
      (all [] ∈ cs → (join .all cs).holds r = false)) := by
  refine ⟨?_, holds_conjoin_eq_true_iff, ?_⟩
  · rw [join, holds_disjoin, List.any_eq_true]
  · by_cases hvoid : all [] ∈ cs
    · have hnot : ¬ (cs ≠ [] ∧ ∀ c ∈ cs, c.holds r = true) := by
        rintro ⟨-, hall⟩
        simpa using hall _ hvoid
      rw [iff_false_right hnot, Bool.not_eq_true]
      exact ⟨fun h _ => h, fun h => h hvoid⟩
    · have hne : ∀ c ∈ cs, c ≠ all [] := fun c hc e => hvoid (e ▸ hc)
      refine ⟨fun _ h => absurd h hvoid, fun _ => ?_⟩
      rw [join, holds_conjoin hne, Bool.and_eq_true, Bool.not_eq_true', List.isEmpty_eq_false_iff,
        List.all_eq_true]

def ann : Record :=
  { Record.blank with
    values := .ofFn fun
      | .firstName => "Ann"
      | _ => "" }

/-- A conjunction of a conjunction without parts and of a given name matches everyone of that name,
though the one without parts matches nobody. -/
theorem holds_join_void :
    (join .all [all [], equals .firstName "Ann"]).holds ann = true ∧
      ¬ ∀ c ∈ [all [], equals .firstName "Ann"], c.holds ann = true := by
  refine ⟨by decide, fun h => ?_⟩
  simpa using h (all []) List.mem_cons_self

/-! ### How many values are bound -/

@[simp] theorem size_any (cs : List Criterion) : size (any cs) = (cs.map size).sum := by
  rw [size, values, valuesList_eq, List.length_flatMap]
  rfl

@[simp] theorem size_all (cs : List Criterion) : size (all cs) = (cs.map size).sum := by
  rw [size, values, valuesList_eq, List.length_flatMap]
  rfl

theorem sum_map_flatMap {α β : Type} (f : α → List β) (g : β → Nat) (xs : List α) :
    ((xs.flatMap f).map g).sum = (xs.map fun x => ((f x).map g).sum).sum := by
  rw [List.map_flatMap, List.flatMap_def, List.sum_flatten, List.map_map]
  rfl

theorem sum_size_alternatives (c : Criterion) : (c.alternatives.map size).sum = c.size := by
  cases c <;> simp [alternatives]

theorem sum_size_conjuncts (c : Criterion) : (c.conjuncts.map size).sum = c.size := by
  cases c <;> simp [conjuncts]

/-- A disjunction binds the values of all its criteria. -/
@[simp] theorem size_disjoin (cs : List Criterion) : (disjoin cs).size = (cs.map size).sum := by
  have flat : ((cs.flatMap alternatives).map size).sum = (cs.map size).sum := by
    simp only [sum_map_flatMap, sum_size_alternatives]
  unfold disjoin
  split
  · next e => rw [← flat, e]; simp
  · next e => rw [← flat, e]; simp
  · rw [size_any, flat]

/-- A conjunction binds no more values than its criteria. -/
theorem size_conjoin_le (cs : List Criterion) : (conjoin cs).size ≤ (cs.map size).sum := by
  have flat : ((cs.flatMap conjuncts).map size).sum = (cs.map size).sum := by
    simp only [sum_map_flatMap, sum_size_conjuncts]
  unfold conjoin
  split
  · simp
  · split
    · next e => rw [← flat, e]; simp
    · exact Nat.le_of_eq ((size_all _).trans flat)

end Registrar.Criterion
