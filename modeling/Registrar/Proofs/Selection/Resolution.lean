import Mathlib.Data.List.Pairwise
import Registrar.Proofs.Selection
import Registrar.Proofs.Selection.Names
import Registrar.Settings

/-!
How names become a selection. A catalog sorts its groups by display order and keeps the given order
among equals, so of several groups with one id it finds the foremost (`foremost_of_find?`). Looking
up names stops at the first one without a group (`lookAll_append_cons`). What comes out for every
list of groups, every list of names and every text with commas is told by `resolved_ofNames`.
-/

namespace Registrar

/-! ### The foremost group -/

namespace Catalog

variable {groups : List FieldGroup} {catalog : Catalog} {id : String} {g : FieldGroup}

/-- Of the groups with the id it is the one of the lowest order, and the first of these. -/
def Foremost (groups : List FieldGroup) (id : String) (g : FieldGroup) : Prop :=
  ∃ before after, groups = before ++ g :: after ∧ g.id = id ∧
    (∀ d ∈ before, d.id = id → g.order < d.order) ∧ ∀ d ∈ after, d.id = id → g.order ≤ d.order

/-- Sorting leaves groups of one order as they were given. -/
theorem filter_ofGroups {p : FieldGroup → Bool} (order : Nat)
    (h : ∀ d, p d = true → d.order = order) :
    (ofGroups groups).groups.filter p = groups.filter p := by
  have trans : ∀ a b c : FieldGroup, decide (a.order ≤ b.order) = true →
      decide (b.order ≤ c.order) = true → decide (a.order ≤ c.order) = true := by
    intro a b c hab hbc
    rw [decide_eq_true_eq] at *
    exact Nat.le_trans hab hbc
  have total : ∀ a b : FieldGroup,
      (decide (a.order ≤ b.order) || decide (b.order ≤ a.order)) = true := by
    intro a b
    rw [Bool.or_eq_true, decide_eq_true_eq, decide_eq_true_eq]
    exact Nat.le_total _ _
  have hsorted : (groups.filter p).Pairwise fun a b => decide (a.order ≤ b.order) = true := by
    refine List.pairwise_of_forall_mem_list fun a ha b hb => decide_eq_true ?_
    rw [h a (List.mem_filter.1 ha).2, h b (List.mem_filter.1 hb).2]
  have hsub := (List.sublist_mergeSort trans total hsorted List.filter_sublist).filter p
  rw [List.filter_filter] at hsub
  simp only [Bool.and_self] at hsub
  exact (hsub.eq_of_length ((List.mergeSort_perm groups _).filter p).length_eq.symm).symm

theorem find?_eq_none_iff : catalog.find? id = none ↔ ¬ ∃ g ∈ catalog.groups, g.id = id := by
  simp [find?]

theorem exists_find?_iff :
    (∃ g, catalog.find? id = some g) ↔ ∃ g ∈ catalog.groups, g.id = id := by
  rw [← Option.ne_none_iff_exists', Ne, find?_eq_none_iff, not_not]

/-- A catalog finds the foremost of the groups that it was made of. -/
theorem foremost_of_find? (h : (ofGroups groups).find? id = some g) : Foremost groups id g := by
  obtain ⟨hid, front, back, hgroups, hfront⟩ := List.find?_eq_some_iff_append.1 h
  have hid : g.id = id := by simpa using hid
  have hfront : ∀ d ∈ front, d.id ≠ id := by simpa using hfront
  have hleast : ∀ d ∈ groups, d.id = id → g.order ≤ d.order := by
    intro d hd hdid
    rw [← mem_ofGroups, hgroups] at hd
    have hordered := (ofGroups groups).ordered
    rw [hgroups] at hordered
    rcases List.mem_append.1 hd with hd | hd
    · exact absurd hdid (hfront d hd)
    · rcases List.mem_cons.1 hd with rfl | hd
      · exact Nat.le_refl _
      · exact List.rel_of_pairwise_cons (List.pairwise_append.1 hordered).2.1 hd
  -- among the groups of its id and its order the given one comes first, sorted or not
  have hfirst : groups.find? (fun d => d.id == id && d.order == g.order) = some g := by
    rw [← List.head?_filter, ← filter_ofGroups g.order (by simp), List.head?_filter]
    refine List.find?_eq_some_iff_append.2 ⟨by simpa using hid, front, back, hgroups, ?_⟩
    exact fun d hd => by simp [hfront d hd]
  obtain ⟨-, before, after, hgiven, hbefore⟩ := List.find?_eq_some_iff_append.1 hfirst
  refine ⟨before, after, hgiven, hid, fun d hd hdid => ?_, fun d hd => ?_⟩
  · have hne : d.order ≠ g.order := by simpa [hdid] using hbefore d hd
    have hle := hleast d (by rw [hgiven]; exact List.mem_append_left _ hd) hdid
    omega
  · exact hleast d (by rw [hgiven]; exact List.mem_append_right _ (List.mem_cons_of_mem _ hd))

end Catalog

namespace Selection

variable {groups : List FieldGroup} {catalog : Catalog} {names : List String} {c : Connective}

/-! ### Looking up -/

def Offered (groups : List FieldGroup) (name : String) : Prop :=
  ∃ g ∈ groups, g.id = Text.trim name

instance (groups : List FieldGroup) (name : String) : Decidable (Offered groups name) :=
  inferInstanceAs (Decidable (∃ g ∈ groups, g.id = Text.trim name))

theorem exists_lookAll_iff : (∃ gs, lookAll catalog names = .ok gs) ↔
    ∀ name ∈ names, Offered catalog.groups name := by
  induction names with
  | nil => exact ⟨fun _ => by simp, fun _ => ⟨[], rfl⟩⟩
  | cons name names ih =>
    rw [List.forall_mem_cons, ← ih, Offered, ← Catalog.exists_find?_iff]
    simp only [lookAll_eq_ok_iff, List.forall₂_cons_left_iff]
    constructor
    · rintro ⟨-, g, gs, hg, hgs, -⟩
      exact ⟨⟨g, hg⟩, gs, hgs⟩
    · rintro ⟨⟨g, hg⟩, gs, hgs⟩
      exact ⟨g :: gs, g, gs, hg, hgs, rfl⟩

theorem lookAll_append_cons {before after : List String} {name : String}
    (hbefore : ∀ n ∈ before, Offered catalog.groups n) (hname : ¬ Offered catalog.groups name) :
    lookAll catalog (before ++ name :: after) = .error (.unknownGroup (Text.trim name)) := by
  induction before with
  | nil => rw [List.nil_append, lookAll, Catalog.find?_eq_none_iff.2 hname]
  | cons n before ih =>
    obtain ⟨hn, hbefore⟩ := List.forall_mem_cons.1 hbefore
    obtain ⟨g, hg⟩ := Catalog.exists_find?_iff.2 hn
    rw [List.cons_append, lookAll, hg]
    dsimp only
    rw [ih hbefore]
    rfl

theorem exists_ofNames_iff : (∃ s, ofNames catalog names c = .ok s) ↔
    names ≠ [] ∧ ∀ name ∈ names, Offered catalog.groups name := by
  rw [← exists_lookAll_iff]
  constructor
  · rintro ⟨s, hs⟩
    obtain ⟨gs, hgs, -⟩ := ofNames_eq_ok hs
    refine ⟨?_, gs, hgs⟩
    rintro rfl
    cases hs
  · rintro ⟨hne, gs, hgs⟩
    cases gs with
    | nil => exact absurd (List.forall₂_nil_right_iff.1 (lookAll_eq_ok_iff.1 hgs)) hne
    | cons g gs => exact ⟨⟨firstOfEach (g :: gs), c⟩, by rw [ofNames, hgs]⟩

/-- What cannot be selected cannot be selected by the other connective either. -/
theorem ofNames_eq_error {e : SelectionError} (h : ofNames catalog names c = .error e)
    (c' : Connective) : ofNames catalog names c' = .error e := by
  unfold ofNames at h ⊢
  split at h
  · exact h
  · exact h
  · cases h

/-- What the groups on offer make of names. -/
structure Resolved (groups : List FieldGroup) (names : List String) (c : Connective)
    (outcome : Except SelectionError Selection) : Prop where
  /-- The first name without a group is the error. -/
  unknown : ∀ before name after, names = before ++ name :: after →
    (∀ n ∈ before, Offered groups n) → ¬ Offered groups name →
      outcome = .error (.unknownGroup (Text.trim name))
  /-- If each name has a group, then having named nothing is the only error. -/
  nothing : (∀ n ∈ names, Offered groups n) → (outcome = .error .nothingSelected ↔ names = [])
  /-- Otherwise each name, at its first place, stands for the foremost group with this id, and the
  fields are those of the groups, each once and at its first place. -/
  made : (∀ n ∈ names, Offered groups n) → names ≠ [] → ∃ s, outcome = .ok s ∧ s.connective = c ∧
    List.Forall₂ (Catalog.Foremost groups) (names.map Text.trim).eraseDups s.groups ∧
    s.fields = (s.groups.flatMap (·.fields)).eraseDups ∧ s.fields.Nodup ∧
    ∀ f, f ∈ s.fields ↔ ∃ g ∈ s.groups, f ∈ g.fields

theorem resolved_of_ofGroups (groups : List FieldGroup) (names : List String) (c : Connective) :
    Resolved groups names c (ofNames (.ofGroups groups) names c) := by
  have hoffered : ∀ name, Offered (Catalog.ofGroups groups).groups name ↔ Offered groups name := by
    intro name
    simp only [Offered, Catalog.mem_ofGroups]
  refine ⟨fun before name after hnames hbefore hname => ?_, fun h => ?_, fun h hne => ?_⟩
  · rw [← hoffered] at hname
    rw [hnames, ofNames, lookAll_append_cons (fun n hn => (hoffered n).2 (hbefore n hn)) hname]
  · constructor
    · intro hnothing
      by_contra hne
      obtain ⟨s, hs⟩ := exists_ofNames_iff.2 ⟨hne, fun n hn => (hoffered n).2 (h n hn)⟩
      cases hs.symm.trans hnothing
    · rintro rfl
      rfl
  · obtain ⟨s, hs⟩ := exists_ofNames_iff.2 ⟨hne, fun n hn => (hoffered n).2 (h n hn)⟩
    exact ⟨s, hs, connective_of_ofNames hs,
      (found_groups hs).imp fun _ _ => Catalog.foremost_of_find?, rfl, nodup_eraseDups _,
      fun _ => mem_fields⟩

end Selection

/-! ### Requests -/

namespace Settings

/-- The selection of a request that lists the names, the settings standing in for a connective that
is left open. -/
def resolve (s : Settings) (catalog : Catalog) (names : List String) (connective : Option String) :
    Except SelectionError Selection := do
  let c ← connective.elim (.ok s.connective) Connective.read
  Selection.ofNames catalog names c

section Resolve

variable {s : Settings} {catalog : Catalog} {names : List String} {text : String}

theorem resolve_none : s.resolve catalog names none = Selection.ofNames catalog names s.connective :=
  rfl

theorem resolve_of_read_ok {c : Connective} (h : Connective.read text = .ok c) :
    s.resolve catalog names (some text) = Selection.ofNames catalog names c := by
  rw [resolve, Option.elim_some, h]
  rfl

theorem resolve_of_read_error {e : SelectionError} (h : Connective.read text = .error e) :
    s.resolve catalog names (some text) = .error e := by
  rw [resolve, Option.elim_some, h]
  rfl

end Resolve

theorem value_select (s : Settings) (catalog : Catalog) (groups connective : Option String) :
    (s.select catalog groups connective).value =
      s.resolve catalog (groups.elim s.groups Selection.names) connective := by
  unfold select resolve Selection.make
  cases connective.elim (.ok s.connective) Connective.read with
  | error e => rfl
  | ok c =>
    dsimp only
    split
    · next hs => exact hs.symm
    · next he => exact he.symm

end Settings

/-- **How a selection is resolved.** Let a catalog be made of any groups. A list of names fails by
its first name without a group, or else by being empty, and otherwise selects the foremost group of
each name, in the order in which the names stand first, with their fields. A text with commas is as
good as the list of its items that are not blank, trimmed; so blanks and blank items between ids do
not change what is selected. -/
theorem Selection.resolved_ofNames (groups : List FieldGroup) :
    (∀ names c, Selection.Resolved groups names c
      (Selection.ofNames (.ofGroups groups) names c)) ∧
    (∀ text : String, ∃ items : List String, (∀ item ∈ items, ',' ∉ item.toList) ∧
      text = ",".intercalate items ∧ ∀ (s : Settings) connective,
        (s.select (.ofGroups groups) (some text) connective).value =
          s.resolve (.ofGroups groups) ((items.map Text.trim).filter (· ≠ "")) connective) ∧
    ∀ ids items, Selection.Padded ids items → (∀ id ∈ ids, Selection.Listable id) →
      ∀ (s : Settings) connective,
        (s.select (.ofGroups groups) (some (",".intercalate items)) connective).value =
          s.resolve (.ofGroups groups) ids connective := by
  refine ⟨resolved_of_ofGroups groups, fun text => ?_, fun ids items hpadded hids s connective => ?_⟩
  · obtain ⟨items, hitems, rfl⟩ := exists_eq_intercalate text
    refine ⟨items, hitems, rfl, fun s connective => ?_⟩
    rw [Settings.value_select, Option.elim_some, names_intercalate hitems]
  · rw [Settings.value_select, Option.elim_some, hpadded.names_intercalate hids]

/-- Two groups of one id and of one display order, behind one that is shown after them. -/
def repeatedIds : List FieldGroup :=
  [⟨"Emails", "E-Mails", [.email 0, .email 1, .email 0], .any, 5, true⟩,
    ⟨"Names", "Names", [.lastName, .email 1], .all, 2, false⟩,
    ⟨"Names", "Other names", [.nativeName], .any, 2, false⟩]

/-- Blanks around the ids and a blank item between them do not matter; the first of the groups with
one id is chosen, and a field that two groups use stands once. -/
theorem Selection.resolved_ofNames_padded :
    Selection.Padded ["Emails", "Names"] [" Emails", "\t", "Names "] ∧
    (∀ id ∈ ["Emails", "Names"], Selection.Listable id) ∧
    (Settings.select ⟨65535, .all, ["Names"]⟩ (.ofGroups repeatedIds) (some " Emails,\t,Names ")
        none).value =
      .ok ⟨[⟨"Emails", "E-Mails", [.email 0, .email 1, .email 0], .any, 5, true⟩,
        ⟨"Names", "Names", [.lastName, .email 1], .all, 2, false⟩], .all⟩ ∧
    Selection.fields ⟨[⟨"Emails", "E-Mails", [.email 0, .email 1, .email 0], .any, 5, true⟩,
      ⟨"Names", "Names", [.lastName, .email 1], .all, 2, false⟩], .all⟩ =
        [.email 0, .email 1, .lastName] := by
  have hpadded : Selection.Padded ["Emails", "Names"] [" Emails", "\t", "Names "] :=
    @Selection.Padded.name _ _ " " "" "Emails" (by decide) (by decide) <|
      .blank (by decide) <|
        @Selection.Padded.name _ _ "" " " "Names" (by decide) (by decide) .nil
  have hlistable : ∀ id ∈ ["Emails", "Names"], Selection.Listable id := by
    simp only [List.forall_mem_cons]
    exact ⟨⟨by decide, by decide, by decide⟩, ⟨by decide, by decide, by decide⟩, by simp⟩
  obtain ⟨-, -, hresolved⟩ := Selection.resolved_ofNames repeatedIds
  refine ⟨hpadded, hlistable, ?_, by decide⟩
  have hselected := hresolved _ _ hpadded hlistable ⟨65535, .all, ["Names"]⟩ none
  rw [show ",".intercalate [" Emails", "\t", "Names "] = " Emails,\t,Names " from rfl] at hselected
  have hshown : Catalog.ofGroups repeatedIds =
      ⟨repeatedIds.tail ++ repeatedIds.take 1, by decide⟩ := by
    simp [Catalog.ofGroups, repeatedIds, List.mergeSort]
  rw [hselected, hshown]
  rfl

end Registrar
