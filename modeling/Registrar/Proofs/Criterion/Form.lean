import Registrar.Proofs.Criterion.Join

/-!
The form of compiled criteria. A reduced criterion has no part that matches nothing by its shape:
every node joins two parts or more, and no part is joined in the same way as its node. Joining
reduced criteria gives a reduced criterion, or the one without records. Already a criterion without
empty nodes names a value (`Filled.one_le_size`). The equations come from the joined criteria, none
is made up (`Each`).
-/

namespace Registrar.Criterion

/-- Every node has two parts or more, none of them joined in the same way. -/
inductive Reduced : Criterion → Prop
  | equals (f : Field) (v : String) : Reduced (equals f v)
  | any {parts : List Criterion} (two : 2 ≤ parts.length) (reduced : ∀ c ∈ parts, Reduced c)
      (other : ∀ c ∈ parts, ∀ ps, c ≠ Criterion.any ps) : Reduced (any parts)
  | all {parts : List Criterion} (two : 2 ≤ parts.length) (reduced : ∀ c ∈ parts, Reduced c)
      (other : ∀ c ∈ parts, ∀ ps, c ≠ Criterion.all ps) : Reduced (all parts)

/-- No part is the criterion without records, and no node is without parts. -/
inductive Filled : Criterion → Prop
  | equals (f : Field) (v : String) : Filled (equals f v)
  | any {parts : List Criterion} (ne_nil : parts ≠ []) (filled : ∀ c ∈ parts, Filled c) :
      Filled (any parts)
  | all {parts : List Criterion} (ne_nil : parts ≠ []) (filled : ∀ c ∈ parts, Filled c) :
      Filled (all parts)

/-- Every equation of the criterion is one of `P`. -/
inductive Each (P : Field → String → Prop) : Criterion → Prop
  | never : Each P never
  | equals {f : Field} {v : String} (h : P f v) : Each P (equals f v)
  | any {parts : List Criterion} (h : ∀ c ∈ parts, Each P c) : Each P (any parts)
  | all {parts : List Criterion} (h : ∀ c ∈ parts, Each P c) : Each P (all parts)

variable {c : Criterion} {cs : List Criterion} {P : Field → String → Prop}

/-! ### Reduced criteria -/

theorem Reduced.ne_void (h : c.Reduced) : c ≠ Criterion.all [] := by
  rintro rfl
  cases h with
  | all two => simp at two

theorem Reduced.isNever_eq_false (h : c.Reduced) : c.isNever = false := by
  cases h <;> rfl

theorem Reduced.filled (h : c.Reduced) : c.Filled := by
  induction h with
  | equals f v => exact .equals f v
  | any two _ _ ih => exact .any (List.ne_nil_of_length_pos (by omega)) ih
  | all two _ _ ih => exact .all (List.ne_nil_of_length_pos (by omega)) ih

theorem Filled.one_le_size (h : c.Filled) : 1 ≤ c.size := by
  have parts : ∀ ps : List Criterion, ps ≠ [] → (∀ p ∈ ps, 1 ≤ p.size) →
      1 ≤ (ps.map size).sum := by
    intro ps hne hps
    obtain ⟨p, ps, rfl⟩ := List.exists_cons_of_ne_nil hne
    have hp := hps p List.mem_cons_self
    simp only [List.map_cons, List.sum_cons]
    omega
  induction h with
  | equals f v => simp
  | any hne _ ih => simpa using parts _ hne ih
  | all hne _ ih => simpa using parts _ hne ih

theorem isNever_eq_false_of_one_le_size (h : 1 ≤ c.size) : c.isNever = false := by
  cases c with
  | never => simp at h
  | _ => rfl

theorem ne_void_of_reduced (h : c = never ∨ c.Reduced) : c ≠ all [] := by
  rcases h with rfl | h
  · simp
  · exact h.ne_void

/-- What a criterion contributes to a disjunction is the criterion itself, or one of its parts. -/
theorem mem_alternatives_cases {d : Criterion} (hd : d ∈ c.alternatives) :
    (d = c ∧ c ≠ never ∧ ∀ ps, c ≠ any ps) ∨ ∃ ps, c = any ps ∧ d ∈ ps := by
  cases c with
  | never => simp [alternatives] at hd
  | any ps => exact .inr ⟨ps, rfl, hd⟩
  | equals f v | all ps => exact .inl ⟨List.mem_singleton.1 hd, by simp, by simp⟩

/-- What a criterion contributes to a conjunction is the criterion itself, or one of its parts. -/
theorem mem_conjuncts_cases {d : Criterion} (hd : d ∈ c.conjuncts) :
    (d = c ∧ ∀ ps, c ≠ all ps) ∨ ∃ ps, c = all ps ∧ d ∈ ps := by
  cases c with
  | all ps => exact .inr ⟨ps, rfl, hd⟩
  | never | equals f v | any ps => exact .inl ⟨List.mem_singleton.1 hd, by simp⟩

theorem mem_disjuncts_cases {d : Criterion} (hd : d ∈ c.disjuncts) :
    d = c ∨ ∃ ps, c = any ps ∧ d ∈ ps := by
  cases c with
  | any ps => exact .inr ⟨ps, rfl, hd⟩
  | never | equals f v | all ps => exact .inl (List.mem_singleton.1 hd)

theorem reduced_of_mem_alternatives (h : c = never ∨ c.Reduced) {d : Criterion}
    (hd : d ∈ c.alternatives) : d.Reduced ∧ ∀ ps, d ≠ any ps := by
  rcases mem_alternatives_cases hd with ⟨rfl, hnever, hany⟩ | ⟨ps, rfl, hd⟩
  · exact ⟨h.resolve_left hnever, hany⟩
  · cases h.resolve_left (by simp) with
    | any two reduced other => exact ⟨reduced d hd, other d hd⟩

theorem reduced_of_mem_conjuncts (h : c.Reduced) {d : Criterion} (hd : d ∈ c.conjuncts) :
    d.Reduced ∧ ∀ ps, d ≠ all ps := by
  rcases mem_conjuncts_cases hd with ⟨rfl, hall⟩ | ⟨ps, rfl, hd⟩
  · exact ⟨h, hall⟩
  · cases h with
    | all two reduced other => exact ⟨reduced d hd, other d hd⟩

theorem reduced_of_mem_disjuncts (h : c.Reduced) {d : Criterion} (hd : d ∈ c.disjuncts) :
    d.Reduced := by
  rcases mem_disjuncts_cases hd with rfl | ⟨ps, rfl, hd⟩
  · exact h
  · cases h with
    | any two reduced other => exact reduced d hd

theorem disjuncts_ne_nil (h : c.Reduced) : c.disjuncts ≠ [] := by
  cases h with
  | @any parts two _ _ =>
    rintro rfl
    simp at two
  | _ => simp [disjuncts]

theorem two_le_length {α : Type} {xs : List α} (h0 : xs ≠ []) (h1 : ∀ x, xs ≠ [x]) :
    2 ≤ xs.length := by
  match xs with
  | [] => exact absurd rfl h0
  | [x] => exact absurd rfl (h1 x)
  | _ :: _ :: _ => simp

theorem reduced_disjoin (h : ∀ c ∈ cs, c = never ∨ c.Reduced) :
    disjoin cs = never ∨ (disjoin cs).Reduced := by
  have flat : ∀ d ∈ cs.flatMap alternatives, d.Reduced ∧ ∀ ps, d ≠ any ps := by
    intro d hd
    obtain ⟨c, hc, hd⟩ := List.mem_flatMap.1 hd
    exact reduced_of_mem_alternatives (h c hc) hd
  unfold disjoin
  split
  · exact .inl rfl
  · next d e => exact .inr (flat d (e ▸ List.mem_singleton_self d)).1
  · next h0 h1 =>
    exact .inr (.any (two_le_length h0 h1) (fun d hd => (flat d hd).1) fun d hd => (flat d hd).2)

theorem reduced_conjoin_of_reduced (hne : cs ≠ []) (h : ∀ c ∈ cs, c.Reduced) :
    (conjoin cs).Reduced := by
  have flat : ∀ d ∈ cs.flatMap conjuncts, d.Reduced ∧ ∀ ps, d ≠ all ps := by
    intro d hd
    obtain ⟨c, hc, hd⟩ := List.mem_flatMap.1 hd
    exact reduced_of_mem_conjuncts (h c hc) hd
  have hnever : ¬ (cs.isEmpty || cs.any isNever) = true := by
    have hn : ∀ c ∈ cs, c.isNever = false := fun c hc => (h c hc).isNever_eq_false
    simpa [hne] using hn
  unfold conjoin
  rw [if_neg hnever]
  split
  · next d e => exact (flat d (e ▸ List.mem_singleton_self d)).1
  · next h1 =>
    have h0 : cs.flatMap conjuncts ≠ [] := by
      obtain ⟨c, cs', rfl⟩ := List.exists_cons_of_ne_nil hne
      simp [conjuncts_ne_nil (h c List.mem_cons_self).ne_void]
    exact .all (two_le_length h0 h1) (fun d hd => (flat d hd).1) fun d hd => (flat d hd).2

theorem reduced_conjoin (h : ∀ c ∈ cs, c = never ∨ c.Reduced) :
    conjoin cs = never ∨ (conjoin cs).Reduced := by
  by_cases e : (cs.isEmpty || cs.any isNever) = true
  · exact .inl (if_pos e)
  · obtain ⟨hne, hn⟩ : cs ≠ [] ∧ ∀ c ∈ cs, c.isNever = false := by simpa using e
    refine .inr (reduced_conjoin_of_reduced hne fun c hc => (h c hc).resolve_left fun e => ?_)
    simpa [e, isNever] using hn c hc

theorem reduced_join (connective : Connective) (h : ∀ c ∈ cs, c = never ∨ c.Reduced) :
    join connective cs = never ∨ (join connective cs).Reduced := by
  cases connective with
  | all => exact reduced_conjoin h
  | any => exact reduced_disjoin h

/-! ### Equations -/

theorem Each.mono {Q : Field → String → Prop} (h : c.Each P) (hPQ : ∀ f v, P f v → Q f v) :
    c.Each Q := by
  induction h with
  | never => exact .never
  | equals h => exact .equals (hPQ _ _ h)
  | any _ ih => exact .any ih
  | all _ ih => exact .all ih

theorem each_of_mem_alternatives (h : c.Each P) {d : Criterion} (hd : d ∈ c.alternatives) :
    d.Each P := by
  rcases mem_alternatives_cases hd with ⟨rfl, -⟩ | ⟨ps, rfl, hd⟩
  · exact h
  · cases h with
    | any h => exact h d hd

theorem each_of_mem_conjuncts (h : c.Each P) {d : Criterion} (hd : d ∈ c.conjuncts) : d.Each P := by
  rcases mem_conjuncts_cases hd with ⟨rfl, -⟩ | ⟨ps, rfl, hd⟩
  · exact h
  · cases h with
    | all h => exact h d hd

theorem each_of_mem_disjuncts (h : c.Each P) {d : Criterion} (hd : d ∈ c.disjuncts) : d.Each P := by
  rcases mem_disjuncts_cases hd with rfl | ⟨ps, rfl, hd⟩
  · exact h
  · cases h with
    | any h => exact h d hd

theorem each_disjoin (h : ∀ c ∈ cs, c.Each P) : (disjoin cs).Each P := by
  have flat : ∀ d ∈ cs.flatMap alternatives, d.Each P := by
    intro d hd
    obtain ⟨c, hc, hd⟩ := List.mem_flatMap.1 hd
    exact each_of_mem_alternatives (h c hc) hd
  unfold disjoin
  split
  · exact .never
  · next d e => exact flat d (e ▸ List.mem_singleton_self d)
  · exact .any flat

theorem each_conjoin (h : ∀ c ∈ cs, c.Each P) : (conjoin cs).Each P := by
  have flat : ∀ d ∈ cs.flatMap conjuncts, d.Each P := by
    intro d hd
    obtain ⟨c, hc, hd⟩ := List.mem_flatMap.1 hd
    exact each_of_mem_conjuncts (h c hc) hd
  unfold conjoin
  split
  · exact .never
  · split
    · next d e => exact flat d (e ▸ List.mem_singleton_self d)
    · exact .all flat

/-- Joining makes up no equation. -/
theorem each_join (connective : Connective) (h : ∀ c ∈ cs, c.Each P) :
    (join connective cs).Each P := by
  cases connective with
  | all => exact each_conjoin h
  | any => exact each_disjoin h

/-! ### The criterion of a candidate -/

theorem reduced_ofField (a : Record) (f : Field) :
    ofField a f = never ∨ (ofField a f).Reduced := by
  unfold ofField
  split
  · exact .inr (.equals f _)
  · exact .inl rfl

theorem reduced_ofGroup (a : Record) (g : FieldGroup) :
    ofGroup a g = never ∨ (ofGroup a g).Reduced := by
  refine reduced_join _ fun c hc => ?_
  obtain ⟨f, -, rfl⟩ := List.mem_map.1 hc
  exact reduced_ofField a f

theorem reduced_ofCandidate (s : Selection) (a : Record) :
    ofCandidate s a = never ∨ (ofCandidate s a).Reduced := by
  refine reduced_join _ fun c hc => ?_
  obtain ⟨g, -, rfl⟩ := List.mem_map.1 hc
  exact reduced_ofGroup a g

theorem each_ofCandidate (s : Selection) (a : Record) :
    (ofCandidate s a).Each fun f v => a.normalValue? f = some v := by
  refine each_join _ fun c hc => ?_
  obtain ⟨g, -, rfl⟩ := List.mem_map.1 hc
  refine each_join _ fun c hc => ?_
  obtain ⟨f, -, rfl⟩ := List.mem_map.1 hc
  unfold ofField
  split
  · next v e => exact .equals e
  · exact .never

end Registrar.Criterion
