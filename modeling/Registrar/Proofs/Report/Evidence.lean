import Registrar.Proofs.Report.Findings
import Registrar.Proofs.Selection

/-!
What the messages of a report show. The lines of a message are chosen by what is written: a pair has
one for each field that is filled in in one of its rows, a stored duplicate for each that is filled
in in the stored record. The match was made on normal forms, group by group. Since a field without
a text has no normal form, the fields that made the match all have their lines
(`ShowsAgreement.of_isDuplicate`), in each message about a report that a search returned
(`messages_show_agreement`).
-/

namespace Registrar

/-! ### Agreement, field by field -/

theorem Field.agrees_iff {f : Field} {a b : Record} :
    f.agrees a b = true ↔ ∃ v, a.normalValue? f = some v ∧ b.normalValue? f = some v := by
  simp only [agrees, Bool.and_eq_true, bne_iff_ne, beq_iff_eq, Record.normalValue?_eq_some_iff]
  constructor
  · rintro ⟨⟨ha, -⟩, heq⟩
    exact ⟨_, ⟨ha, rfl⟩, ha, heq.symm⟩
  · rintro ⟨v, ⟨hv, rfl⟩, -, heq⟩
    exact ⟨⟨hv, heq ▸ hv⟩, heq.symm⟩

/-- A field that is empty as it was written agrees with nothing. -/
theorem Field.value_ne_empty_of_agrees {f : Field} {a b : Record} (h : f.agrees a b = true) :
    b.value f ≠ "" := by
  intro hb
  obtain ⟨v, -, hv⟩ := agrees_iff.1 h
  obtain ⟨hne, rfl⟩ := Record.normalValue?_eq_some_iff.1 hv
  exact hne (by rw [hb, f.normalize_empty])

theorem FieldGroup.exists_agrees {g : FieldGroup} {a b : Record} (h : g.agrees a b = true) :
    ∃ f ∈ g.fields, f.agrees a b = true := by
  unfold agrees at h
  split at h
  · exact List.any_eq_true.1 h
  · rw [Bool.and_eq_true] at h
    obtain ⟨hne, hall⟩ := h
    obtain ⟨f, hf⟩ := List.exists_mem_of_ne_nil g.fields (by simpa using hne)
    exact ⟨f, hf, List.all_eq_true.1 hall f hf⟩

theorem FieldGroup.agrees_of_all {g : FieldGroup} {a b : Record} (hg : g.connective = .all)
    (h : g.agrees a b = true) : ∀ f ∈ g.fields, f.agrees a b = true := by
  unfold agrees at h
  rw [hg, Bool.and_eq_true] at h
  exact List.all_eq_true.1 h.2

theorem Selection.agrees_of_all {s : Selection} {a b : Record} (hs : s.connective = .all)
    (h : s.agrees a b = true) : ∀ g ∈ s.groups, g.agrees a b = true := by
  unfold agrees at h
  rw [hs] at h
  exact List.all_eq_true.1 h

theorem Selection.exists_agrees {s : Selection} {a b : Record} (hs : s.groups ≠ [])
    (h : s.agrees a b = true) : ∃ g ∈ s.groups, g.agrees a b = true := by
  cases hc : s.connective with
  | any =>
    unfold agrees at h
    rw [hc] at h
    exact List.any_eq_true.1 h
  | all =>
    obtain ⟨g, hg⟩ := List.exists_mem_of_ne_nil s.groups hs
    exact ⟨g, hg, Selection.agrees_of_all hc h g hg⟩

/-! ### Lines -/

/-- Columns are single words, so that the blank after the column tells where it ends. -/
theorem Field.all_ne_blank_column (f : Field) : ∀ c ∈ f.column.toList, c ≠ ' ' := by
  have hcheck : ∀ f ∈ all, f.column.toList.all (· != ' ') = true := by decide +kernel
  simpa using hcheck f f.mem_all

theorem Field.column_injective {f g : Field} (h : f.column = g.column) : f = g :=
  List.inj_on_of_nodup_map Row.nodup_columns (mem_all f) (mem_all g) h

namespace Report

/-- The line of a field, with what it shows of it. -/
def fieldLine (f : Field) (shown : String) : String := ":: " ++ f.column ++ " :: " ++ shown

/-- The lines of fields; a field that counts as empty has none. -/
def fieldLines (empty : Field → Prop) [DecidablePred empty] (shown : Field → String)
    (fields : List Field) : List String :=
  fields.filterMap fun f => if empty f then none else some (fieldLine f (shown f))

theorem fieldLine_inj {f g : Field} {s t : String} :
    fieldLine f s = fieldLine g t ↔ f = g ∧ s = t := by
  refine ⟨fun h => ?_, by rintro ⟨rfl, rfl⟩; rfl⟩
  have hchars : f.column.toList ++ ' ' :: ':' :: ':' :: ' ' :: s.toList =
      g.column.toList ++ ' ' :: ':' :: ':' :: ' ' :: t.toList := by
    simpa [fieldLine, String.toList_append] using congrArg String.toList h
  have hword : ∀ (f : Field) (rest : List Char),
      (f.column.toList ++ ' ' :: rest).takeWhile (· ≠ ' ') = f.column.toList := by
    intro f rest
    rw [List.takeWhile_append_of_pos (by simpa using f.all_ne_blank_column)]
    simp
  have hcolumn : f.column.toList = g.column.toList := by
    simpa only [hword] using congrArg (List.takeWhile (· ≠ ' ')) hchars
  rw [hcolumn, List.append_cancel_left_eq] at hchars
  exact ⟨Field.column_injective (String.ext hcolumn), String.ext (by simpa using hchars)⟩

theorem mem_fieldLines {empty : Field → Prop} [DecidablePred empty] {shown : Field → String}
    {fields : List Field} {f : Field} {text : String} :
    fieldLine f text ∈ fieldLines empty shown fields ↔ f ∈ fields ∧ ¬ empty f ∧ text = shown f := by
  unfold fieldLines
  rw [List.mem_filterMap]
  constructor
  · rintro ⟨g, hg, hline⟩
    split at hline
    · cases hline
    · next hne =>
      obtain ⟨rfl, rfl⟩ := fieldLine_inj.1 (Option.some.inj hline)
      exact ⟨hg, hne, rfl⟩
  · rintro ⟨hf, hne, rfl⟩
    exact ⟨f, hf, if_neg hne⟩

/-- What the line of a field shows of two rows. -/
def pairShown (i j : Nat) (a b : Record) (f : Field) : String :=
  s!"Row {rowNumber i}: " ++ a.value f ++ s!" | Row {rowNumber j}: " ++ b.value f

/-- What the line of a field shows of a row and a stored record. -/
def storedShown (candidate stored : Record) (f : Field) : String :=
  "Database value: " ++ stored.value f ++ " | File value: " ++ candidate.value f

theorem pairDetail_eq (i j : Nat) (a b : Record) (f : Field) : pairDetail i j a b f =
    if a.value f = "" ∧ b.value f = "" then none else some (fieldLine f (pairShown i j a b f)) := by
  have hlabel : toString " :: Row " = " :: " ++ toString "Row " := by decide
  unfold pairDetail fieldLine pairShown
  simp only [hlabel, String.append_assoc]

theorem storedDetail_eq (candidate stored : Record) (f : Field) : storedDetail candidate stored f =
    if stored.value f = "" then none else some (fieldLine f (storedShown candidate stored f)) := by
  have hlabel : " :: Database value: " = " :: " ++ "Database value: " := by decide
  unfold storedDetail fieldLine storedShown
  simp only [hlabel, String.append_assoc]

theorem details_pairMessage (fields : List Field) (i j : Nat) (a b : Record) :
    (pairMessage fields i j a b).details =
      fieldLines (fun f => a.value f = "" ∧ b.value f = "") (pairShown i j a b) fields :=
  List.filterMap_congr fun f _ => pairDetail_eq i j a b f

theorem details_storedMessage (fields : List Field) (i : Nat) (candidate stored : Record) :
    (storedMessage fields i candidate stored).details =
      fieldLines (fun f => stored.value f = "") (storedShown candidate stored) fields :=
  List.filterMap_congr fun f _ => storedDetail_eq candidate stored f

/-! ### The evidence of a match -/

section Evidence

variable (s : Selection) (a b : Record) (shown : Field → String) (details : List String)

/-- A field has one normal form in both records, and its line is there. -/
def ShowsField (f : Field) : Prop :=
  (∃ v, a.normalValue? f = some v ∧ b.normalValue? f = some v) ∧ fieldLine f (shown f) ∈ details

/-- The lines show why the records match: one for a chosen field in which they agree, and where each
group has to agree, one for a field of each group, and for all fields of a group that asks for all
of them. -/
structure ShowsAgreement : Prop where
  someField : ∃ f ∈ s.fields, ShowsField a b shown details f
  eachGroup : s.connective = .all → ∀ g ∈ s.groups, ∃ f ∈ g.fields, ShowsField a b shown details f
  eachField : s.connective = .all → ∀ g ∈ s.groups, g.connective = .all →
    ∀ f ∈ g.fields, ShowsField a b shown details f

end Evidence

/-- The lines of duplicates show why they match, where no field counts as empty that is not empty in
the second record. -/
theorem ShowsAgreement.of_isDuplicate {s : Selection} {a b : Record}
    (h : isDuplicate s a b = true) {empty : Field → Prop} [DecidablePred empty]
    (hempty : ∀ f, empty f → b.value f = "") (shown : Field → String) :
    ShowsAgreement s a b shown (fieldLines empty shown s.fields) := by
  obtain ⟨hs, hagrees⟩ := agrees_of_isDuplicate h
  have hfield : ∀ g ∈ s.groups, ∀ f ∈ g.fields, f.agrees a b = true →
      ShowsField a b shown (fieldLines empty shown s.fields) f := by
    intro g hg f hf hab
    have hshown : ¬ empty f := fun he => Field.value_ne_empty_of_agrees hab (hempty f he)
    exact ⟨Field.agrees_iff.1 hab,
      mem_fieldLines.2 ⟨Selection.mem_fields.2 ⟨g, hg, hf⟩, hshown, rfl⟩⟩
  refine ⟨?_, fun hc g hg => ?_, fun hc g hg hgc f hf => ?_⟩
  · obtain ⟨g, hg, hgab⟩ := Selection.exists_agrees hs hagrees
    obtain ⟨f, hf, hab⟩ := FieldGroup.exists_agrees hgab
    exact ⟨f, Selection.mem_fields.2 ⟨g, hg, hf⟩, hfield g hg f hf hab⟩
  · obtain ⟨f, hf, hab⟩ := FieldGroup.exists_agrees (Selection.agrees_of_all hc hagrees g hg)
    exact ⟨f, hf, hfield g hg f hf hab⟩
  · have hgab := Selection.agrees_of_all hc hagrees g hg
    exact hfield g hg f hf (FieldGroup.agrees_of_all hgc hgab f hf)

/-! ### The messages of a search -/

variable {σ : Type} {registry : Registry (StateM σ)} {s : Selection} {country : String}
  {batch : List Record} {st : σ} {report : Report}

/-- What a search that returns a report lists for a row are duplicates of the row. -/
theorem isDuplicate_of_mem_listed
    (h : ((search registry s country batch).run st).1.value = .ok report) {p : Nat × Record}
    (hp : p ∈ listed report.stored) {a : Record} (ha : batch[p.1]? = some a) :
    isDuplicate s a p.2 = true := by
  rw [value_search] at h
  obtain ⟨stored, hfound, rfl⟩ := map_eq_ok_iff.1 h
  obtain ⟨row, hrow, hmem⟩ := mem_listed.1 hp
  obtain ⟨hi, rfl⟩ := List.getElem?_eq_some_iff.1 ha
  obtain ⟨hj, rfl⟩ := List.getElem?_eq_some_iff.1 hrow
  exact ((Lookup.forall₂_duplicates_of_run_eq_ok hfound).get hi hj p.2 hmem).1

/-- **The messages show the agreement.** Let a search have returned a report on a batch, whatever
the registry answered. Its messages are one for each pair of the report, then one for each stored
duplicate of each row. The lines of each of them show why the two records match. A pair has a line
for exactly those chosen fields in which one of its rows holds something, and a stored duplicate for
exactly those in which the stored record does. -/
theorem messages_show_agreement {σ : Type} {registry : Registry (StateM σ)} {s : Selection}
    {country : String} {batch : List Record} {st : σ} {report : Report}
    (h : ((search registry s country batch).run st).1.value = .ok report) :
    ∃ told found, report.messages batch s = told ++ found ∧
      List.Forall₂ (fun p m => ∃ a b, batch[p.1]? = some a ∧ batch[p.2]? = some b ∧
        m = pairMessage s.fields p.1 p.2 a b ∧
        ShowsAgreement s a b (pairShown p.1 p.2 a b) m.details ∧
        ∀ f shown, fieldLine f shown ∈ m.details ↔
          f ∈ s.fields ∧ ¬ (a.value f = "" ∧ b.value f = "") ∧ shown = pairShown p.1 p.2 a b f)
        report.pairs told ∧
      List.Forall₂ (fun p m => ∃ a, batch[p.1]? = some a ∧
        m = storedMessage s.fields p.1 a p.2 ∧
        ShowsAgreement s a p.2 (storedShown a p.2) m.details ∧
        ∀ f shown, fieldLine f shown ∈ m.details ↔
          f ∈ s.fields ∧ p.2.value f ≠ "" ∧ shown = storedShown a p.2 f)
        (listed report.stored) found := by
  obtain ⟨hscan, hlength⟩ := of_search_eq_ok h
  refine ⟨_, _, rfl, ?_, ?_⟩
  · have hpairs := (List.forall₂_and_left _ _).2
      ⟨fun p hp => duplicates_of_mem_pairs hscan hp, forall₂_pairMessages hscan s.fields⟩
    refine hpairs.imp ?_
    rintro ⟨i, j⟩ m ⟨⟨-, a, b, ha, hb, hdup⟩, a', b', ha', hb', rfl⟩
    obtain rfl : a = a' := Option.some.inj (ha.symm.trans ha')
    obtain rfl : b = b' := Option.some.inj (hb.symm.trans hb')
    refine ⟨a, b, ha, hb, rfl, ?_⟩
    rw [details_pairMessage]
    exact ⟨.of_isDuplicate hdup (fun f hf => hf.2) _, fun f shown => mem_fieldLines⟩
  · have hdups : ∀ p ∈ listed report.stored, ∀ a, batch[p.1]? = some a →
        isDuplicate s a p.2 = true := fun p hp a ha => isDuplicate_of_mem_listed h hp ha
    have hstored := (List.forall₂_and_left _ _).2 ⟨hdups, forall₂_storedMessages hlength s.fields⟩
    refine hstored.imp ?_
    rintro ⟨i, r⟩ m ⟨hdup, a, ha, rfl⟩
    refine ⟨a, ha, rfl, ?_⟩
    rw [details_storedMessage]
    exact ⟨.of_isDuplicate (hdup a ha) (fun f hf => hf) _, fun f shown => mem_fieldLines⟩

/-- The rule that both names agree, and one of two addresses. -/
def namesAndAddress : Selection where
  groups := [⟨"Names", "Names", [.firstName, .lastName], .all, 0, true⟩,
    ⟨"Emails", "E-Mails", [.email 0, .email 1], .any, 1, true⟩]
  connective := .all

def addressed (id first last address : String) : Record :=
  ⟨id, "NL", .ofFn fun
    | .firstName => first
    | .lastName => last
    | .email 1 => address
    | _ => "", none⟩

/-- Two rows of one person, spelled in two ways. -/
def respelled : List Record :=
  [addressed "" "Ann" "Lee" "ann@lee.org", addressed "" "Ann " " Lee" " Ann@Lee.org"]

/-- The pair of the two rows shows its names, but not the address that neither of them has. -/
theorem messages_show_agreement_respelled :
    ∃ report,
      ((search (.lasting 10 1 [addressed "a" "Ann" "Lee" "ann@lee.org"]) namesAndAddress "NL"
        respelled).run 0).1.value = .ok report ∧
      ∃ m ∈ report.messages respelled namesAndAddress,
        ":: first_name :: Row 2: Ann | Row 3: Ann " ∈ m.details ∧
        ∀ shown, fieldLine (.email 0) shown ∉ m.details := by
  have hsearch : ((search (.lasting 10 1 [addressed "a" "Ann" "Lee" "ann@lee.org"]) namesAndAddress
      "NL" respelled).run 0).1.value = .ok ⟨[[1], [0]],
        [[addressed "a" "Ann" "Lee" "ann@lee.org"],
          [addressed "a" "Ann" "Lee" "ann@lee.org"]]⟩ := by
    decide +kernel
  obtain ⟨told, found, hmessages, hpairs, -⟩ := messages_show_agreement hsearch
  have hpair : (⟨[[1], [0]], [[addressed "a" "Ann" "Lee" "ann@lee.org"],
      [addressed "a" "Ann" "Lee" "ann@lee.org"]]⟩ : Report).pairs = [(0, 1)] := by decide
  rw [hpair] at hpairs
  obtain ⟨m, rest, ⟨a, b, ha, hb, -, hshows, hlines⟩, -, rfl⟩ := List.forall₂_cons_left_iff.1 hpairs
  cases ha
  cases hb
  refine ⟨_, hsearch, m, by simp [hmessages], ?_, fun shown hmem => ?_⟩
  · have hfirst := hshows.eachField rfl _ List.mem_cons_self rfl .firstName List.mem_cons_self
    exact hfirst.2
  · exact ((hlines (.email 0) shown).1 hmem).2.1 ⟨by decide, by decide⟩

end Report

end Registrar
