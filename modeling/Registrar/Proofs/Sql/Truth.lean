import Registrar.Proofs.Criterion.Form
import Registrar.Proofs.Registry.Rows
import Registrar.Proofs.Sql.Clause

/-!
The truth of the texts of criteria. Each value of a criterion is bound to the placeholder of its
equation, and about a normal row the condition is true exactly when the criterion matches the record
of the row (`tells_conditionOf`). Nothing stored makes an equation unknown, which is as good as
false, since no condition here negates another one.
-/

namespace Registrar.Sql

/-- The values are bound to the placeholders from `first` on. -/
def Binds (first : Nat) (values : List String) (bound : Nat → Option String) : Prop :=
  ∀ i v, values[i]? = some v → bound (first + i) = some v

theorem Binds.append {first : Nat} {us vs : List String} {bound : Nat → Option String}
    (h : Binds first (us ++ vs) bound) :
    Binds first us bound ∧ Binds (first + us.length) vs bound := by
  constructor
  · intro i v hi
    have hlt : i < us.length := (List.getElem?_eq_some_iff.1 hi).1
    exact h i v (by rw [List.getElem?_append_left hlt, hi])
  · intro i v hi
    have hj := h (us.length + i) v (by
      rw [List.getElem?_append_right (Nat.le_add_right _ _), Nat.add_sub_cancel_left, hi])
    rwa [← Nat.add_assoc] at hj

theorem join_all_iff (a b : Truth) :
    Truth.join .all a b = some true ↔ a = some true ∧ b = some true := by
  rcases a with _ | _ | _ <;> rcases b with _ | _ | _ <;> simp [Truth.join]

theorem join_any_iff (a b : Truth) :
    Truth.join .any a b = some true ↔ a = some true ∨ b = some true := by
  rcases a with _ | _ | _ <;> rcases b with _ | _ | _ <;> simp [Truth.join]

section

variable {uuid : String → Option String} {bound : Nat → Option String} {row : Row} {r : Record}

theorem truth_foldl_all (e : Condition) (es : List Condition) :
    (es.foldl (.joined .all) e).truth uuid bound row = some true ↔
      e.truth uuid bound row = some true ∧ ∀ d ∈ es, d.truth uuid bound row = some true := by
  induction es generalizing e with
  | nil => simp
  | cons d es ih =>
    rw [List.foldl_cons, ih, Condition.truth, join_all_iff, List.forall_mem_cons, and_assoc]

theorem truth_foldl_any (e : Condition) (es : List Condition) :
    (es.foldl (.joined .any) e).truth uuid bound row = some true ↔
      e.truth uuid bound row = some true ∨ ∃ d ∈ es, d.truth uuid bound row = some true := by
  induction es generalizing e with
  | nil => simp
  | cons d es ih =>
    rw [List.foldl_cons, ih, Condition.truth, join_any_iff, List.exists_mem_cons_iff, or_assoc]

/-- The condition says of the row what the criterion says of its record. -/
def Tells (uuid : String → Option String) (bound : Nat → Option String) (row : Row) (r : Record)
    (e : Condition) (c : Criterion) : Prop :=
  e.truth uuid bound row = some true ↔ c.holds r = true

theorem tells_chain_all {es : List Condition} {cs : List Criterion}
    (h : List.Forall₂ (Tells uuid bound row r) es cs) :
    Tells uuid bound row r (chain .all es) (.all cs) := by
  have hall : (∀ e ∈ es, e.truth uuid bound row = some true) ↔ ∀ c ∈ cs, c.holds r = true := by
    induction h with
    | nil => simp
    | cons hec _ ih =>
      rw [List.forall_mem_cons, List.forall_mem_cons, ih]
      exact and_congr_left fun _ => hec
  cases h with
  | nil => simp [Tells, chain, Condition.truth]
  | cons hec hrest =>
    rw [List.forall_mem_cons] at hall
    rw [Tells, chain, truth_foldl_all, hall, Criterion.holds_all]
    simp

theorem tells_chain_any {es : List Condition} {cs : List Criterion}
    (h : List.Forall₂ (Tells uuid bound row r) es cs) :
    Tells uuid bound row r (chain .any es) (.any cs) := by
  have hany : (∃ e ∈ es, e.truth uuid bound row = some true) ↔ ∃ c ∈ cs, c.holds r = true := by
    induction h with
    | nil => simp
    | cons hec _ ih =>
      rw [List.exists_mem_cons_iff, List.exists_mem_cons_iff, ih]
      exact or_congr_left hec
  cases h with
  | nil => simp [Tells, chain, Condition.truth]
  | cons hec hrest =>
    rw [List.exists_mem_cons_iff] at hany
    rw [Tells, chain, truth_foldl_any, hany, Criterion.holds_any, List.any_eq_true]

theorem tells_equals (hn : row.Normal) (hr : row.record = .ok r) (f : Field) {v : String}
    (hv : v ≠ "") {n : Nat} (hb : bound n = some v) :
    Tells uuid bound row r (.equals f.column n []) (.equals f v) := by
  have hvalue : valueOf uuid bound n [] = some v := by
    rw [valueOf, hb]
    rfl
  rw [Tells, Condition.truth, hvalue, Criterion.holds_equals, beq_iff_eq]
  rcases Row.normalValue?_of_normal hn hr f with ⟨hcell, hnone⟩ | ⟨s, hcell, hs⟩
  · rw [hcell, hnone]
    simp
  · rw [hcell, hs v hv]
    simp

theorem tells_conditionsOf {cs : List Criterion}
    (h : ∀ c ∈ cs, ∀ first, Binds first c.values bound →
      Tells uuid bound row r (conditionOf first c) c) {first : Nat}
    (hb : Binds first (cs.flatMap Criterion.values) bound) :
    List.Forall₂ (Tells uuid bound row r) (conditionsOf first cs) cs := by
  induction cs generalizing first with
  | nil => exact .nil
  | cons c cs ih =>
    rw [List.flatMap_cons] at hb
    obtain ⟨hc, hcs⟩ := hb.append
    exact .cons (h c (.head _) first hc) (ih (fun d hd => h d (.tail _ hd)) hcs)

/-- About a normal row the condition of a criterion is true exactly when the criterion matches. -/
theorem tells_conditionOf (hn : row.Normal) (hr : row.record = .ok r) {c : Criterion}
    (hc : c.Each fun _ v => v ≠ "") {first : Nat} (hb : Binds first c.values bound) :
    Tells uuid bound row r (conditionOf first c) c := by
  induction c using Criterion.ind generalizing first with
  | never => simp [Tells, conditionOf, Condition.truth]
  | equals f v =>
    cases hc with
    | equals hv =>
      rw [conditionOf]
      exact tells_equals hn hr f hv (hb 0 v rfl)
  | any ps ih =>
    cases hc with
    | any hps =>
      rw [conditionOf]
      rw [Criterion.values, Criterion.valuesList_eq] at hb
      exact tells_chain_any (tells_conditionsOf (fun p hp _ hb => ih p hp (hps p hp) hb) hb)
  | all ps ih =>
    cases hc with
    | all hps =>
      rw [conditionOf]
      rw [Criterion.values, Criterion.valuesList_eq] at hb
      exact tells_chain_all (tells_conditionsOf (fun p hp _ hb => ih p hp (hps p hp) hb) hb)

end

/-! ### Queries -/

section

variable {uuid : String → Option String} {bound : Nat → Option String} {row : Row} {r : Record}

theorem truth_country {country : String} (h1 : bound 1 = some country) :
    (Condition.equals "country_id" 1 ["text", "uuid"]).truth uuid bound row = some true ↔
      ∃ u, uuid country = some u ∧ row.cell "country_id" = .ok (.text u) := by
  have hvalue : valueOf uuid bound 1 ["text", "uuid"] = uuid country := by
    rw [valueOf, h1]
    simp [cast]
  rw [Condition.truth, hvalue]
  constructor
  · intro h
    split at h
    · next s u hcell hu =>
      have hsu : s = u := by simpa using h
      exact ⟨u, hu, hsu ▸ hcell⟩
    · cases h
  · rintro ⟨u, hu, hcell⟩
    rw [hu, hcell]
    simp

theorem truth_selectCondition (hn : row.Normal) (hr : row.record = .ok r) {c : Criterion}
    (hc : c.Each fun _ v => v ≠ "") {country : String} (h1 : bound 1 = some country)
    (hb : Binds 2 c.values bound) :
    (selectCondition c).truth uuid bound row = some true ↔
      (∃ u, uuid country = some u ∧ row.cell "country_id" = .ok (.text u)) ∧
        r.isDeleted = false ∧ c.holds r = true := by
  have hlive : (Condition.isNull "deleted_at").truth uuid bound row = some true ↔
      r.isDeleted = false := by
    rw [Row.isDeleted_eq_false_iff hr, Condition.truth]
    cases row.cell "deleted_at" with
    | error e => simp
    | ok cell => simp
  have htells : (conditionOf 2 c).truth uuid bound row = some true ↔ c.holds r = true :=
    tells_conditionOf hn hr hc hb
  rw [selectCondition, Condition.truth, join_all_iff, Condition.truth, join_all_iff,
    truth_country h1, hlive, htells, and_assoc]

theorem binds_values (text : String) (values : List String) :
    Binds 1 values (Statement.bound ⟨text, values⟩) := by
  intro i v hi
  rw [Nat.add_comm]
  exact hi

theorem binds_bound (text country : String) (values : List String) :
    Binds 2 values (Statement.bound ⟨text, country :: values⟩) :=
  (@Binds.append 1 [country] values _ (binds_values text (country :: values))).2

theorem asksFor_select (c : Criterion) (country : String) :
    Statement.asksFor uuid ⟨(select c).text, country :: (select c).values⟩ row =
      ((selectCondition c).truth uuid (Statement.bound ⟨"", country :: c.values⟩) row ==
        some true) := by
  unfold Statement.asksFor
  dsimp only
  rw [where?_select]
  rfl

theorem asksFor_select_iff (hn : row.Normal) (hr : row.record = .ok r) {c : Criterion}
    (hc : c.Each fun _ v => v ≠ "") {country : String} :
    Statement.asksFor uuid ⟨(select c).text, country :: (select c).values⟩ row = true ↔
      (∃ u, uuid country = some u ∧ row.cell "country_id" = .ok (.text u)) ∧
        r.isDeleted = false ∧ c.holds r = true := by
  rw [asksFor_select, beq_iff_eq]
  exact truth_selectCondition hn hr hc rfl (binds_bound "" country c.values)

end

/-- **A statement says what its criterion says.** As long as its numbers are words, a criterion has
a statement. The text of a criterion without empty values names one placeholder for each value, in
their order and each once. Read as a condition on a normal row it is true exactly when the criterion
matches the record of the row. The condition of a query is true exactly for the live rows of the
bound country that the criterion matches. -/
theorem ofCriterion_tells {c : Criterion} (hc : c.Each fun _ v => v ≠ "") (first : Nat) :
    (first + c.size < UInt64.size → ofCriterion? first c = some (ofCriterion first c)) ∧
      (ofCriterion first c).values.length = c.size ∧
      placeholders (ofCriterion first c).text = List.range' first c.size ∧
      (placeholders (ofCriterion first c).text).Nodup ∧
      (∃ e, condition? (ofCriterion first c).text = some e ∧
        ∀ uuid bound row r, row.Normal → row.record = .ok r →
          Binds first (ofCriterion first c).values bound →
          (e.truth uuid bound row = some true ↔ c.holds r = true)) ∧
      ∃ e, where? (select c).text = some e ∧
        ∀ uuid bound row r country, row.Normal → row.record = .ok r → bound 1 = some country →
          Binds 2 (select c).values bound →
          (e.truth uuid bound row = some true ↔
            (∃ u, uuid country = some u ∧ row.cell "country_id" = .ok (.text u)) ∧
              r.isDeleted = false ∧ c.holds r = true) := by
  have hnumbers : placeholders (ofCriterion first c).text = List.range' first c.size :=
    placeholders_clause c first
  refine ⟨fun h => ?_, rfl, hnumbers, ?_, ⟨_, condition?_clause first c, ?_⟩,
    ⟨_, where?_select c, ?_⟩⟩
  · rw [ofCriterion?, decide_eq_true h, Bool.or_true, if_pos rfl]
  · rw [hnumbers]
    exact List.nodup_range'
  · intro uuid bound row r hn hr hb
    exact tells_conditionOf hn hr hc hb
  · intro uuid bound row r country hn hr h1 hb
    exact truth_selectCondition hn hr hc h1 hb

/-- A criterion with a conjunction and a part that matches nothing inside a disjunction. -/
def nested : Criterion :=
  .any [.equals (.email 0) "a@b", .all [.equals .firstName "Ann", .any [.equals .lastName "Lee"]],
    .all []]

def cellOfAnn : Field → Cell
  | .firstName => .text "Ann"
  | .lastName => .text "Lee"
  | _ => .null

def textOfAnn : Field → String
  | .firstName => "Ann"
  | .lastName => "Lee"
  | _ => ""

def rowOfAnn (country : String) : Row :=
  ("id", .text "7") :: ("country_id", .text country) :: ("deleted_at", .null) ::
    Field.all.map fun f => (f.column, cellOfAnn f)

/-- The disjunction in the text does not reach beyond the country. -/
theorem ofCriterion_tells_nested :
    nested.Each (fun _ v => v ≠ "") ∧ ∃ e, where? (select nested).text = some e ∧
      e.truth some (Statement.bound ⟨"", "NL" :: nested.values⟩) (rowOfAnn "NL") = some true ∧
      e.truth some (Statement.bound ⟨"", "NL" :: nested.values⟩) (rowOfAnn "BE") ≠ some true := by
  have hc : nested.Each fun _ v => v ≠ "" := by
    refine .any ?_
    simp only [List.forall_mem_cons]
    refine ⟨.equals (by decide), .all ?_, .all (by simp), by simp⟩
    simp only [List.forall_mem_cons]
    exact ⟨.equals (by decide), .any (by simpa using .equals (by decide)), by simp⟩
  have hb : Binds 2 (select nested).values (Statement.bound ⟨"", "NL" :: nested.values⟩) :=
    binds_bound "" "NL" nested.values
  have hr : ∀ country, (rowOfAnn country).record = .ok ⟨"7", country, .ofFn textOfAnn, none⟩ :=
    fun _ => rfl
  obtain ⟨-, -, -, -, -, e, he, htruth⟩ := ofCriterion_tells hc 1
  refine ⟨hc, e, he, ?_, ?_⟩
  · rw [htruth _ _ _ _ "NL" (by decide +kernel) (hr "NL") rfl hb]
    exact ⟨⟨"NL", rfl, rfl⟩, rfl, by decide⟩
  · rw [Ne, htruth _ _ _ _ "NL" (by decide +kernel) (hr "BE") rfl hb]
    rintro ⟨⟨u, hu, hcell⟩, -⟩
    cases hu
    revert hcell
    decide

end Registrar.Sql
