import Registrar.Environment.Basic
import Registrar.Proofs.Selection.Resolution

/-!
Which settings from the environment can be used. A limit and a connective that make no sense are put
aside when they are read, so that a request finds usable ones. Names of groups are not held against
the catalog: a name that no group has is kept, and every request that leaves the groups open fails
by it. So the settings are usable exactly where the environment names groups on offer
(`usable_read_iff`).
-/

namespace Registrar.Settings

variable {catalog : Catalog}

/-- The settings make up for what a request leaves open: what fails does so by what it gave. -/
structure Usable (s : Settings) (catalog : Catalog) : Prop where
  limit : 2 ≤ s.limit
  nothing : ∃ selection, (s.select catalog none none).value = .ok selection
  connective : ∀ text e, (s.select catalog none (some text)).value = .error e →
    Connective.read text = .error e
  groups : ∀ list e, (s.select catalog (some list) none).value = .error e →
    ∀ c, Selection.ofNames catalog (Selection.names list) c = .error e

/-! ### Requests -/

/-- A request that gives groups alone fails by these groups, whatever the settings are. -/
theorem select_groups_eq_error {s : Settings} {list : String} {e : SelectionError}
    (h : (s.select catalog (some list) none).value = .error e) (c : Connective) :
    Selection.ofNames catalog (Selection.names list) c = .error e := by
  rw [value_select, resolve_none] at h
  exact Selection.ofNames_eq_error h c

theorem usable_iff {s : Settings} : s.Usable catalog ↔ 2 ≤ s.limit ∧
    s.groups ≠ [] ∧ ∀ name ∈ s.groups, Selection.Offered catalog.groups name := by
  rw [← Selection.exists_ofNames_iff (c := s.connective)]
  constructor
  · rintro ⟨hlimit, ⟨selection, hselection⟩, -, -⟩
    rw [value_select, resolve_none] at hselection
    exact ⟨hlimit, selection, hselection⟩
  · rintro ⟨hlimit, selection, hselection⟩
    have hnone : (s.select catalog none none).value = .ok selection := by
      rw [value_select, resolve_none]
      exact hselection
    refine ⟨hlimit, ⟨selection, hnone⟩, fun text e h => ?_, fun list e => select_groups_eq_error⟩
    rw [value_select] at h
    cases hread : Connective.read text with
    | error e' =>
      rw [resolve_of_read_error hread] at h
      exact congrArg Except.error (Except.error.inj h)
    | ok c =>
      rw [resolve_of_read_ok hread] at h
      -- the groups that fail with one connective fail with the other
      cases hselection.symm.trans (Selection.ofNames_eq_error h s.connective)

/-! ### What is read -/

/-- The limit admits a value beside the country. -/
theorem two_le_value_readLimit (raw : Option String) : 2 ≤ (readLimit raw).value := by
  have hdefault : 2 ≤ databaseLimit := by decide
  unfold readLimit
  cases raw with
  | none => exact hdefault
  | some text =>
    dsimp only
    split
    · next n hn =>
      show 2 ≤ n
      simpa using (Option.filter_eq_some_iff.1 hn).2
    · exact hdefault

theorem mem_preselected {name : String} :
    name ∈ catalog.preselected ↔ ∃ g ∈ catalog.groups, g.preselected = true ∧ g.id = name := by
  simp [Catalog.preselected, and_assoc]

theorem preselected_standard : Catalog.standard.preselected ≠ [] ∧
    ∀ name ∈ Catalog.standard.preselected, Selection.Offered Catalog.standard.groups name := by
  constructor
  · refine List.ne_nil_of_mem (a := "Ids") (mem_preselected.2 ?_)
    exact ⟨_, Catalog.mem_ofGroups.2 (.head _), rfl, rfl⟩
  · intro name hname
    obtain ⟨g, hg, -, rfl⟩ := mem_preselected.1 hname
    have htrim : ∀ g ∈ Catalog.standard.groups, Text.trim g.id = g.id := by
      simp only [Catalog.standard, Catalog.mem_ofGroups]
      decide
    exact ⟨g, hg, (htrim g hg).symm⟩

theorem offered_readGroups_iff {raw : Option String} :
    (readGroups .standard raw ≠ [] ∧
      ∀ name ∈ readGroups .standard raw, Selection.Offered Catalog.standard.groups name) ↔
    ∀ text, raw = some text → ∀ name ∈ Selection.names text,
      Selection.Offered Catalog.standard.groups name := by
  unfold readGroups
  split
  · next hnil =>
    refine iff_of_true preselected_standard ?_
    rintro text rfl name hname
    rw [Option.getD_some] at hnil
    rw [hnil] at hname
    cases hname
  · next hne =>
    cases raw with
    | none => exact absurd (by decide) hne
    | some text =>
      constructor
      · rintro ⟨-, h⟩ _ ⟨⟩
        exact h
      · exact fun h => ⟨hne, h text rfl⟩

/-- **When the settings are usable.** Whatever the variables of an environment are, the limit admits
a value beside the country, and a request that gives groups alone fails by these groups alone. But
the settings stand in for all that a request may leave open exactly where the variable for the
groups, if it is set, names no group that is not on offer. -/
theorem usable_read_iff (lookup : String → Option String) :
    2 ≤ (read .standard lookup).value.limit ∧
    (∀ list e, ((read .standard lookup).value.select .standard (some list) none).value = .error e →
      ∀ c, Selection.ofNames .standard (Selection.names list) c = .error e) ∧
    ((read .standard lookup).value.Usable .standard ↔
      ∀ raw, lookup "DEDUP_DEFAULT_GROUPS" = some raw → ∀ name ∈ Selection.names raw,
        Selection.Offered Catalog.standard.groups name) := by
  have hlimit : 2 ≤ (read .standard lookup).value.limit := two_le_value_readLimit _
  refine ⟨hlimit, fun list e => select_groups_eq_error, ?_⟩
  rw [usable_iff, ← offered_readGroups_iff]
  exact and_iff_right hlimit

def mistaken (name : String) : Option String :=
  Environment.get? [("DEDUP_DEFAULT_GROUPS", "Passport")] name

/-- Under it a request that leaves everything open fails. -/
theorem select_mistaken :
    ((read .standard mistaken).value.select .standard none none).value =
      .error (.unknownGroup "Passport") := by
  have hgroups : (read .standard mistaken).value.groups = ["Passport"] := by decide
  rw [value_select, resolve_none, Option.elim_none, hgroups]
  exact (Selection.resolved_of_ofGroups _ ["Passport"] _).unknown [] "Passport" [] rfl (by simp)
    (by decide)

end Registrar.Settings
