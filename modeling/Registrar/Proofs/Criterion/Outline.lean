import Mathlib.Data.List.Basic
import Registrar.Criterion.Cover
import Registrar.Proofs.Criterion.Join

/-!
Criteria without their values. The outline of a criterion keeps its equations and how they are
joined, and forgets the values that they name. Nothing that is done to criteria looks at a value:
joining (`join_map_outline`) and covering (`cover_outline`) can be done on the outlines as well. So
the outline of what is asked for a candidate depends only on which of its fields hold a value
(`outline_ofCandidate_congr`).
-/

namespace Registrar.Criterion

mutual

/-- The criterion with an empty text for each of its values. -/
def outline : Criterion → Criterion
  | never => never
  | equals f _ => equals f ""
  | any parts => any (outlines parts)
  | all parts => all (outlines parts)

def outlines : List Criterion → List Criterion
  | [] => []
  | c :: cs => outline c :: outlines cs

end

variable {c : Criterion} {cs qs : List Criterion} {budget : Nat}

theorem outlines_eq (cs : List Criterion) : outlines cs = cs.map outline := by
  induction cs with
  | nil => rfl
  | cons c cs ih => rw [outlines, ih, List.map_cons]

@[simp] theorem outline_never : outline never = never := rfl

@[simp] theorem outline_equals (f : Field) (v : String) : outline (equals f v) = equals f "" := rfl

@[simp] theorem outline_any (cs : List Criterion) : outline (any cs) = any (cs.map outline) := by
  rw [outline, outlines_eq]

@[simp] theorem outline_all (cs : List Criterion) : outline (all cs) = all (cs.map outline) := by
  rw [outline, outlines_eq]

@[simp] theorem isNever_outline (c : Criterion) : c.outline.isNever = c.isNever := by
  cases c <;> rfl

@[simp] theorem size_outline (c : Criterion) : c.outline.size = c.size := by
  have parts : ∀ ps : List Criterion, (∀ p ∈ ps, p.outline.size = p.size) →
      ((ps.map outline).map size).sum = (ps.map size).sum := by
    intro ps h
    rw [List.map_map]
    exact congrArg List.sum (List.map_congr_left h)
  induction c using ind with
  | never => rfl
  | equals f v => rfl
  | any ps ih => rw [outline_any, size_any, size_any, parts ps ih]
  | all ps ih => rw [outline_all, size_all, size_all, parts ps ih]

/-! ### Joining -/

theorem conjuncts_outline (c : Criterion) : c.outline.conjuncts = c.conjuncts.map outline := by
  cases c <;> simp [conjuncts]

theorem alternatives_outline (c : Criterion) :
    c.outline.alternatives = c.alternatives.map outline := by
  cases c <;> simp [alternatives]

theorem disjuncts_outline (c : Criterion) : c.outline.disjuncts = c.disjuncts.map outline := by
  cases c <;> simp [disjuncts]

theorem conjoin_map_outline (cs : List Criterion) :
    conjoin (cs.map outline) = (conjoin cs).outline := by
  have hnever : ((cs.map outline).isEmpty || (cs.map outline).any isNever) =
      (cs.isEmpty || cs.any isNever) := by
    rw [List.isEmpty_map, List.any_map]
    simp only [Function.comp_def, isNever_outline]
  have hflat : (cs.map outline).flatMap conjuncts = (cs.flatMap conjuncts).map outline := by
    rw [List.flatMap_map, List.map_flatMap]
    simp only [conjuncts_outline]
  unfold conjoin
  rw [hnever, hflat]
  split
  · rfl
  · match cs.flatMap conjuncts with
    | [] => simp
    | [c] => rfl
    | c :: d :: ps => simp

theorem disjoin_map_outline (cs : List Criterion) :
    disjoin (cs.map outline) = (disjoin cs).outline := by
  have hflat : (cs.map outline).flatMap alternatives = (cs.flatMap alternatives).map outline := by
    rw [List.flatMap_map, List.map_flatMap]
    simp only [alternatives_outline]
  unfold disjoin
  rw [hflat]
  match cs.flatMap alternatives with
  | [] => rfl
  | [c] => rfl
  | c :: d :: ps => simp

/-- Outlines are joined as their criteria are. -/
theorem join_map_outline (connective : Connective) (cs : List Criterion) :
    join connective (cs.map outline) = (join connective cs).outline := by
  cases connective with
  | all => exact conjoin_map_outline cs
  | any => exact disjoin_map_outline cs

/-! ### Covering -/

theorem within_map_outline (budget : Nat) (cs : List Criterion) :
    within budget (cs.map outline) = (within budget cs).map outline := by
  induction cs generalizing budget with
  | nil => rfl
  | cons c cs ih =>
    rw [List.map_cons, within, within, size_outline]
    split
    · rw [ih, List.map_cons]
    · exact ih budget

theorem shortest_map {α β : Type} (f : α → β) (ls : List (List α)) :
    shortest (ls.map (List.map f)) = (shortest ls).map (List.map f) := by
  induction ls with
  | nil => rfl
  | cons l ls ih =>
    rw [List.map_cons, shortest, shortest, ih]
    cases shortest ls with
    | none => rfl
    | some m =>
      simp only [Option.map_some, List.length_map]
      split <;> rfl

theorem coverEach_map_outline
    (h : ∀ c ∈ cs, cover budget c.outline = (cover budget c).map (List.map outline)) :
    coverEach budget (cs.map outline) = (coverEach budget cs).map (List.map outline) := by
  induction cs with
  | nil => rfl
  | cons c cs ih =>
    obtain ⟨hc, hcs⟩ := List.forall_mem_cons.1 h
    rw [List.map_cons, coverEach, coverEach, hc, ih hcs]
    cases cover budget c <;> cases coverEach budget cs <;> simp

theorem coverSome_map_outline
    (h : ∀ c ∈ cs, cover budget c.outline = (cover budget c).map (List.map outline)) :
    coverSome budget (cs.map outline) = (coverSome budget cs).map (List.map outline) := by
  rw [coverSome_eq, coverSome_eq, List.filterMap_map, List.map_filterMap]
  exact List.filterMap_congr h

/-- Outlines are covered as their criteria are: which parts are kept, split or left out does not
depend on a value. -/
theorem cover_outline (budget : Nat) (c : Criterion) :
    cover budget c.outline = (cover budget c).map (List.map outline) := by
  induction c using ind with
  | never => rfl
  | equals f v =>
    rw [outline_equals, cover, cover]
    split <;> rfl
  | any ps ih =>
    have hsize : (any (ps.map outline)).size = (any ps).size := by rw [← outline_any, size_outline]
    rw [outline_any, cover, cover, hsize, coverEach_map_outline ih]
    split
    · simp
    · rfl
  | all ps ih =>
    have hsize : (all (ps.map outline)).size = (all ps).size := by rw [← outline_all, size_outline]
    rw [outline_all, cover, cover, hsize, within_map_outline, coverSome_map_outline ih]
    split
    · simp
    · cases within budget ps with
      | nil => exact shortest_map outline _
      | cons c kept =>
        have hkept := conjoin_map_outline (c :: kept)
        rw [List.map_cons] at hkept ⊢
        simp only [hkept, Option.map_some, List.map_cons, List.map_nil]

/-! ### The criterion of a candidate -/

theorem outline_ofField_congr {a b : Record} {f : Field}
    (h : (a.normalValue? f).isSome = (b.normalValue? f).isSome) :
    (ofField a f).outline = (ofField b f).outline := by
  unfold ofField
  cases ha : a.normalValue? f <;> cases hb : b.normalValue? f
  · rfl
  · simp [ha, hb] at h
  · simp [ha, hb] at h
  · rfl

theorem outline_ofGroup_congr {a b : Record} {g : FieldGroup}
    (h : ∀ f ∈ g.fields, (a.normalValue? f).isSome = (b.normalValue? f).isSome) :
    (ofGroup a g).outline = (ofGroup b g).outline := by
  rw [ofGroup, ofGroup, ← join_map_outline, ← join_map_outline, List.map_map, List.map_map]
  exact congrArg _ (List.map_congr_left fun f hf => outline_ofField_congr (h f hf))

/-- The outline of a candidate's criterion tells which fields of the chosen groups hold a value, and
nothing else. -/
theorem outline_ofCandidate_congr {s : Selection} {a b : Record}
    (h : ∀ g ∈ s.groups, ∀ f ∈ g.fields, (a.normalValue? f).isSome = (b.normalValue? f).isSome) :
    (ofCandidate s a).outline = (ofCandidate s b).outline := by
  rw [ofCandidate, ofCandidate, ← join_map_outline, ← join_map_outline, List.map_map, List.map_map]
  exact congrArg _ (List.map_congr_left fun g hg => outline_ofGroup_congr (h g hg))

end Registrar.Criterion
