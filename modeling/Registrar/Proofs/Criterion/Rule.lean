import Registrar.Proofs.Criterion.Form

/-!
The rule for duplicates, read off a selection without compiling a criterion. Two records agree in
a field if they hold the same value there, and not an empty one; they agree in a group if one of its
fields, or each of them, agrees; and the groups are joined in the same way. The criterion of a
candidate says the same (`isDuplicate_eq_agrees`), and since the rule treats its two records alike,
being a duplicate is symmetric.
-/

namespace Registrar

def Field.agrees (f : Field) (a b : Record) : Bool :=
  f.normalize (a.value f) != "" && f.normalize (b.value f) != "" &&
    f.normalize (a.value f) == f.normalize (b.value f)

/-- The records agree in one field of the group, or in each of them, if it has any. -/
def FieldGroup.agrees (g : FieldGroup) (a b : Record) : Bool :=
  match g.connective with
  | .any => g.fields.any fun f => f.agrees a b
  | .all => !g.fields.isEmpty && g.fields.all fun f => f.agrees a b

/-- The records agree in one of the chosen groups, or in each of them. -/
def Selection.agrees (s : Selection) (a b : Record) : Bool :=
  match s.connective with
  | .any => s.groups.any fun g => g.agrees a b
  | .all => s.groups.all fun g => g.agrees a b

/-! ### The rule treats its records alike -/

theorem Field.agrees_comm (f : Field) (a b : Record) : f.agrees a b = f.agrees b a := by
  unfold agrees
  rw [Bool.and_comm (_ != _), Bool.beq_comm]

theorem FieldGroup.agrees_comm (g : FieldGroup) (a b : Record) : g.agrees a b = g.agrees b a := by
  simp only [agrees, fun f : Field => f.agrees_comm a b]

theorem Selection.agrees_comm (s : Selection) (a b : Record) : s.agrees a b = s.agrees b a := by
  simp only [agrees, fun g : FieldGroup => g.agrees_comm a b]

theorem Selection.agrees_congr (s : Selection) {a a' b b' : Record}
    (ha : ∀ f : Field, f.normalize (a.value f) = f.normalize (a'.value f))
    (hb : ∀ f : Field, f.normalize (b.value f) = f.normalize (b'.value f)) :
    s.agrees a b = s.agrees a' b' := by
  have hf : ∀ f : Field, f.agrees a b = f.agrees a' b' := fun f => by
    simp only [Field.agrees, ha, hb]
  have hg : ∀ g : FieldGroup, g.agrees a b = g.agrees a' b' := fun g => by
    simp only [FieldGroup.agrees, hf]
  simp only [agrees, hg]

/-- Where each field that agrees in two records agrees in two others, a rule that the first two
satisfy is satisfied by the others. -/
theorem Selection.agrees_mono (s : Selection) {a a' b b' : Record}
    (hf : ∀ f : Field, f.agrees a' b' = true → f.agrees a b = true)
    (h : s.agrees a' b' = true) : s.agrees a b = true := by
  have hg : ∀ g : FieldGroup, g.agrees a' b' = true → g.agrees a b = true := by
    intro g hg
    unfold FieldGroup.agrees at hg ⊢
    cases hc : g.connective with
    | any =>
      simp only [hc, List.any_eq_true] at hg ⊢
      obtain ⟨f, hmem, hagrees⟩ := hg
      exact ⟨f, hmem, hf f hagrees⟩
    | all =>
      simp only [hc, Bool.and_eq_true, List.all_eq_true] at hg ⊢
      exact ⟨hg.1, fun f hmem => hf f (hg.2 f hmem)⟩
  unfold agrees at h ⊢
  cases hc : s.connective with
  | any =>
    simp only [hc, List.any_eq_true] at h ⊢
    obtain ⟨g, hmem, hagrees⟩ := h
    exact ⟨g, hmem, hg g hagrees⟩
  | all =>
    simp only [hc, List.all_eq_true] at h ⊢
    exact fun g hmem => hg g (h g hmem)

/-! ### The criterion of a candidate -/

namespace Criterion

theorem holds_ofField (a b : Record) (f : Field) : (ofField a f).holds b = f.agrees a b := by
  unfold ofField Field.agrees
  by_cases ha : f.normalize (a.value f) = ""
  · simp [Record.normalValue?, ha]
  · have e : a.normalValue? f = some (f.normalize (a.value f)) := by simp [Record.normalValue?, ha]
    rw [e, holds_equals, Bool.eq_iff_iff, beq_iff_eq, Record.normalValue?_eq_some_iff]
    simp only [Bool.and_eq_true, bne_iff_ne, ne_eq, beq_iff_eq]
    constructor
    · rintro ⟨-, h⟩
      exact ⟨⟨ha, h ▸ ha⟩, h.symm⟩
    · rintro ⟨-, h⟩
      exact ⟨ha, h.symm⟩

theorem holds_ofGroup (a b : Record) (g : FieldGroup) : (ofGroup a g).holds b = g.agrees a b := by
  unfold ofGroup FieldGroup.agrees
  cases g.connective with
  | any => simp [join, List.any_map, Function.comp_def, holds_ofField]
  | all =>
    have hv : ∀ c ∈ g.fields.map (ofField a), c ≠ all [] := by
      intro c hc
      obtain ⟨f, -, rfl⟩ := List.mem_map.1 hc
      exact ne_void_of_reduced (reduced_ofField a f)
    simp [join, holds_conjoin hv, List.all_map, Function.comp_def, holds_ofField]

theorem holds_ofCandidate {s : Selection} (hs : s.groups ≠ []) (a b : Record) :
    (ofCandidate s a).holds b = s.agrees a b := by
  unfold ofCandidate Selection.agrees
  cases s.connective with
  | any => simp [join, List.any_map, Function.comp_def, holds_ofGroup]
  | all =>
    have hv : ∀ c ∈ s.groups.map (ofGroup a), c ≠ all [] := by
      intro c hc
      obtain ⟨g, -, rfl⟩ := List.mem_map.1 hc
      exact ne_void_of_reduced (reduced_ofGroup a g)
    simp [join, holds_conjoin hv, List.all_map, Function.comp_def, holds_ofGroup, hs]

end Criterion

theorem isDuplicate_of_no_groups {s : Selection} (hs : s.groups = []) (a b : Record) :
    isDuplicate s a b = false := by
  have hnever : Criterion.ofCandidate s a = .never := by
    unfold Criterion.ofCandidate
    rw [hs]
    cases s.connective <;> rfl
  rw [isDuplicate, hnever, Criterion.holds_never]

/-- Duplicates agree under the rule, and the rule has a group. -/
theorem agrees_of_isDuplicate {s : Selection} {a b : Record} (h : isDuplicate s a b = true) :
    s.groups ≠ [] ∧ s.agrees a b = true := by
  have hs : s.groups ≠ [] := fun hnil => by
    rw [isDuplicate_of_no_groups hnil] at h
    cases h
  exact ⟨hs, (Criterion.holds_ofCandidate hs a b).symm.trans h⟩

/-- Which of two records is the candidate does not matter under any selection, one without groups
included: there nothing is a duplicate. -/
theorem isDuplicate_swap (s : Selection) (a b : Record) :
    isDuplicate s a b = isDuplicate s b a := by
  by_cases hs : s.groups = []
  · rw [isDuplicate_of_no_groups hs, isDuplicate_of_no_groups hs]
  · rw [isDuplicate, isDuplicate, Criterion.holds_ofCandidate hs, Criterion.holds_ofCandidate hs,
      Selection.agrees_comm]

/-- Where each field that agrees in two records agrees in two others, the others are duplicates if
the first two are, under any selection. -/
theorem isDuplicate_mono (s : Selection) {a a' b b' : Record}
    (hf : ∀ f : Field, f.agrees a' b' = true → f.agrees a b = true)
    (h : isDuplicate s a' b' = true) : isDuplicate s a b = true := by
  by_cases hs : s.groups = []
  · rw [isDuplicate_of_no_groups hs] at h
    cases h
  · rw [isDuplicate, Criterion.holds_ofCandidate hs] at h ⊢
    exact s.agrees_mono hf h

/-! ### Selections that were made -/

namespace Selection

theorem firstOfEach_ne_nil {gs : List FieldGroup} (h : gs ≠ []) : firstOfEach gs ≠ [] := by
  obtain ⟨g, gs, rfl⟩ := List.exists_cons_of_ne_nil h
  rw [firstOfEach, List.eraseDupsBy_cons]
  exact List.cons_ne_nil _ _

theorem groups_ne_nil {catalog : Catalog} {names : List String} {connective : Connective}
    {s : Selection} (h : ofNames catalog names connective = .ok s) : s.groups ≠ [] := by
  unfold ofNames at h
  split at h
  · cases h
  · cases h
  · next gs hgs _ =>
    cases h
    exact firstOfEach_ne_nil fun e => by simp_all

end Selection

section Made

variable {catalog : Catalog} {names : List String} {connective : Connective} {s : Selection}

theorem isDuplicate_of_agrees (h : Selection.ofNames catalog names connective = .ok s)
    (a b : Record) : isDuplicate s a b = s.agrees a b :=
  Criterion.holds_ofCandidate (Selection.groups_ne_nil h) a b

theorem isDuplicate_comm (h : Selection.ofNames catalog names connective = .ok s) (a b : Record) :
    isDuplicate s a b = isDuplicate s b a := by
  rw [isDuplicate_of_agrees h, isDuplicate_of_agrees h, Selection.agrees_comm]

/-- **The criterion implements the rule.** Under any selection that a catalog admits, a record is a
duplicate of another one exactly when the two agree; which of them is the candidate does not
matter. -/
theorem isDuplicate_eq_agrees (h : Selection.ofNames catalog names connective = .ok s) :
    (∀ a b, isDuplicate s a b = s.agrees a b) ∧ ∀ a b, isDuplicate s a b = isDuplicate s b a :=
  ⟨isDuplicate_of_agrees h, isDuplicate_comm h⟩

end Made

/-- A small catalog: two groups share a field, one names a field twice, and one has no field. -/
def Catalog.overlapping : Catalog where
  groups := [⟨"Names", "Names", [.firstName, .lastName, .firstName], .all, 0, false⟩,
    ⟨"Contact", "Contact", [.email 0, .lastName], .any, 1, false⟩,
    ⟨"Nothing", "Nothing", [], .all, 2, false⟩]
  ordered := by decide

/-- Its first two groups and the one without fields, of which one is enough. -/
def Selection.overlapping : Selection where
  groups := [⟨"Contact", "Contact", [.email 0, .lastName], .any, 1, false⟩,
    ⟨"Names", "Names", [.firstName, .lastName, .firstName], .all, 0, false⟩,
    ⟨"Nothing", "Nothing", [], .all, 2, false⟩]
  connective := .any

def addressed (address first last : String) : Record :=
  { Record.blank with
    values := .ofFn fun
      | .email 0 => address
      | .firstName => first
      | .lastName => last
      | _ => "" }

/-- The rule under overlapping groups and one without fields, a name given twice. One address makes
a duplicate, however it is spelled; a given name alone does not. -/
theorem isDuplicate_eq_agrees_overlapping :
    Selection.ofNames .overlapping ["Contact", " Names", "Nothing", "Names "] .any =
        .ok .overlapping ∧
      isDuplicate .overlapping (addressed " Ann@X.org" "Ann" "Lee") (addressed "ann@x.ORG" "Ann" "Poe") =
        true ∧
      isDuplicate .overlapping (addressed "ann@x.org" "Ann" "Lee") (addressed "" "Ann" "Poe") =
        false := by
  have hmade : Selection.ofNames .overlapping ["Contact", " Names", "Nothing", "Names "] .any =
      .ok .overlapping := rfl
  obtain ⟨hrule, -⟩ := isDuplicate_eq_agrees hmade
  refine ⟨hmade, ?_, ?_⟩
  · rw [hrule]
    decide +kernel
  · rw [hrule]
    decide +kernel

end Registrar
