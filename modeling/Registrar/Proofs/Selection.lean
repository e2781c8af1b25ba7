import Mathlib.Data.List.Basic
import Registrar.Proofs.Criterion.Rule
import Registrar.Proofs.Fallible

/-!
What a selection is made of. Its groups are those that the catalog has for the names, trimmed, each
at the first place of its name (`found_groups`), and so the same ones in whatever order and however
often the names were given (`mem_groups`). More groups agree more often where one of them is enough
(`agrees_of_subset_any`), and less often where each of them has to (`agrees_of_subset_all`).
-/

namespace Registrar

namespace Selection

/-! ### Repetitions -/

section Repetitions

variable {α β : Type}

/-- Induction over a list of which only some items are looked at behind the first one. -/
theorem ind_filter {motive : List α → Prop} (nil : motive [])
    (cons : ∀ a as, (∀ p : α → Bool, motive (as.filter p)) → motive (a :: as)) (as : List α) :
    motive as := by
  induction hn : as.length using Nat.strongRecOn generalizing as with
  | ind n ih =>
    cases as with
    | nil => exact nil
    | cons a as =>
      refine cons a as fun p => ih _ ?_ _ rfl
      rw [← hn, List.length_cons]
      exact Nat.lt_succ_of_le (List.length_filter_le p as)

theorem mem_of_mem_eraseDupsBy {r : α → α → Bool} {as : List α} {a : α}
    (h : a ∈ as.eraseDupsBy r) : a ∈ as := by
  induction as using ind_filter with
  | nil => exact h
  | cons b as ih =>
    rw [List.eraseDupsBy_cons, List.mem_cons] at h
    exact List.mem_cons.2 (h.imp_right fun h => List.mem_of_mem_filter (ih _ h))

variable [BEq β]

/-- Keeping the first item of each key keeps the first of each key. -/
theorem map_eraseDupsBy (key : α → β) (as : List α) :
    (as.eraseDupsBy fun a b => key a == key b).map key = (as.map key).eraseDups := by
  induction as using ind_filter with
  | nil => rfl
  | cons a as ih =>
    have hfilter : (as.filter fun b => decide ((key b == key a) = false)) =
        as.filter fun b => !key b == key a :=
      List.filter_congr fun b _ => by cases key b == key a <;> rfl
    rw [List.eraseDupsBy_cons, List.map_cons, List.map_cons, List.eraseDups_cons, hfilter, ih,
      List.filter_map]
    rfl

theorem nodup_eraseDups [LawfulBEq β] (bs : List β) : bs.eraseDups.Nodup := by
  induction bs using ind_filter with
  | nil => exact List.nodup_nil
  | cons b bs ih =>
    rw [List.eraseDups_cons, List.nodup_cons, List.mem_eraseDups]
    exact ⟨by simp, ih _⟩

end Repetitions

/-! ### Fields -/

theorem mem_fields {s : Selection} {f : Field} : f ∈ s.fields ↔ ∃ g ∈ s.groups, f ∈ g.fields := by
  rw [fields, List.mem_eraseDups, List.mem_flatMap]

/-! ### Groups -/

theorem id_of_find? {catalog : Catalog} {id : String} {g : FieldGroup}
    (h : catalog.find? id = some g) : g.id = id := by
  have hid := List.find?_some h
  simpa using hid

/-- Looking up names gives the group that the catalog has for each. -/
theorem lookAll_eq_ok_iff {catalog : Catalog} {names : List String} {gs : List FieldGroup} :
    lookAll catalog names = .ok gs ↔
      List.Forall₂ (fun name g => catalog.find? (Text.trim name) = some g) names gs := by
  induction names generalizing gs with
  | nil =>
    rw [List.forall₂_nil_left_iff]
    exact ⟨fun h => (Except.ok.inj h).symm, fun h => congrArg Except.ok h.symm⟩
  | cons name names ih =>
    rw [lookAll, List.forall₂_cons_left_iff]
    cases hfind : catalog.find? (Text.trim name) with
    | none => simp
    | some d =>
      dsimp only
      rw [map_eq_ok_iff]
      constructor
      · rintro ⟨rest, hrest, rfl⟩
        exact ⟨d, rest, rfl, ih.1 hrest, rfl⟩
      · rintro ⟨d', rest, hd', hrest, rfl⟩
        obtain rfl := Option.some.inj hd'
        exact ⟨rest, ih.2 hrest, rfl⟩

section Found

variable {catalog : Catalog} {ids : List String} {gs : List FieldGroup}

/-- Dropping repeated ids leaves the group of each id, at its first place. -/
theorem found_firstOfEach (h : List.Forall₂ (fun id g => catalog.find? id = some g) ids gs) :
    List.Forall₂ (fun id g => catalog.find? id = some g) ids.eraseDups (firstOfEach gs) := by
  have hids : ids = gs.map (·.id) := by
    rw [← List.forall₂_eq_eq_eq, List.forall₂_map_right_iff]
    exact h.imp fun _ _ hfind => (id_of_find? hfind).symm
  have hfound : ∀ g ∈ gs, catalog.find? g.id = some g := by
    rw [hids, List.forall₂_map_left_iff, List.forall₂_same] at h
    exact h
  rw [hids, ← map_eraseDupsBy, List.forall₂_map_left_iff]
  exact List.forall₂_same.2 fun g hg => hfound g (mem_of_mem_eraseDupsBy hg)

theorem mem_of_found (h : List.Forall₂ (fun id g => catalog.find? id = some g) ids gs)
    {g : FieldGroup} : g ∈ gs ↔ ∃ id ∈ ids, catalog.find? id = some g := by
  induction h with
  | nil => simp
  | cons hfind _ ih =>
    rw [List.mem_cons, ih, List.exists_mem_cons_iff, hfind, Option.some.injEq, eq_comm]

end Found

section Made

variable {catalog : Catalog} {names names' : List String} {connective connective' : Connective}
  {s t : Selection}

theorem ofNames_eq_ok (h : ofNames catalog names connective = .ok s) :
    ∃ gs, lookAll catalog names = .ok gs ∧ s = ⟨firstOfEach gs, connective⟩ := by
  unfold ofNames at h
  split at h
  · cases h
  · cases h
  · next gs _ hgs =>
    cases h
    exact ⟨gs, hgs, rfl⟩

theorem found_groups (h : ofNames catalog names connective = .ok s) :
    List.Forall₂ (fun id g => catalog.find? id = some g) (names.map Text.trim).eraseDups
      s.groups := by
  obtain ⟨gs, hgs, rfl⟩ := ofNames_eq_ok h
  exact found_firstOfEach (List.forall₂_map_left_iff.2 (lookAll_eq_ok_iff.1 hgs))

theorem mem_groups (h : ofNames catalog names connective = .ok s) {g : FieldGroup} :
    g ∈ s.groups ↔ ∃ name ∈ names, catalog.find? (Text.trim name) = some g := by
  rw [mem_of_found (found_groups h)]
  simp only [List.mem_eraseDups, List.mem_map, exists_exists_and_eq_and]

theorem connective_of_ofNames (h : ofNames catalog names connective = .ok s) :
    s.connective = connective := by
  obtain ⟨gs, -, rfl⟩ := ofNames_eq_ok h
  rfl

theorem groups_subset (hs : ofNames catalog names connective = .ok s)
    (ht : ofNames catalog names' connective' = .ok t)
    (hnames : ∀ name ∈ names, Text.trim name ∈ names'.map Text.trim) : s.groups ⊆ t.groups := by
  intro g hg
  obtain ⟨name, hname, hfind⟩ := (mem_groups hs).1 hg
  obtain ⟨name', hname', e⟩ := List.mem_map.1 (hnames name hname)
  exact (mem_groups ht).2 ⟨name', hname', e ▸ hfind⟩

end Made

/-! ### More groups -/

theorem agrees_of_subset_any {s t : Selection} (hs : s.connective = .any) (ht : t.connective = .any)
    (h : s.groups ⊆ t.groups) {a b : Record} (hab : s.agrees a b = true) : t.agrees a b = true := by
  unfold agrees at hab ⊢
  rw [hs] at hab
  rw [ht]
  obtain ⟨g, hg, hagrees⟩ := List.any_eq_true.1 hab
  exact List.any_eq_true.2 ⟨g, h hg, hagrees⟩

theorem agrees_of_subset_all {s t : Selection} (hs : s.connective = .all) (ht : t.connective = .all)
    (h : s.groups ⊆ t.groups) {a b : Record} (hab : t.agrees a b = true) : s.agrees a b = true := by
  unfold agrees at hab ⊢
  rw [ht] at hab
  rw [hs]
  exact List.all_eq_true.2 fun g hg => List.all_eq_true.1 hab g (h hg)

end Selection

section Names

variable {catalog : Catalog} {names names' : List String} {connective : Connective}
  {s t : Selection}

/-- Where one group is enough, more names make more duplicates. -/
theorem isDuplicate_of_names_any (hs : Selection.ofNames catalog names .any = .ok s)
    (ht : Selection.ofNames catalog names' .any = .ok t)
    (hnames : ∀ name ∈ names, Text.trim name ∈ names'.map Text.trim) {a b : Record}
    (hab : isDuplicate s a b = true) : isDuplicate t a b = true := by
  rw [isDuplicate_of_agrees hs] at hab
  rw [isDuplicate_of_agrees ht]
  exact Selection.agrees_of_subset_any (Selection.connective_of_ofNames hs)
    (Selection.connective_of_ofNames ht) (Selection.groups_subset hs ht hnames) hab

/-- Where each group has to agree, more names make fewer duplicates. -/
theorem isDuplicate_of_names_all (hs : Selection.ofNames catalog names .all = .ok s)
    (ht : Selection.ofNames catalog names' .all = .ok t)
    (hnames : ∀ name ∈ names, Text.trim name ∈ names'.map Text.trim) {a b : Record}
    (hab : isDuplicate t a b = true) : isDuplicate s a b = true := by
  rw [isDuplicate_of_agrees ht] at hab
  rw [isDuplicate_of_agrees hs]
  exact Selection.agrees_of_subset_all (Selection.connective_of_ofNames hs)
    (Selection.connective_of_ofNames ht) (Selection.groups_subset hs ht hnames) hab

/-- The same names, in any order and however often, make the same duplicates. -/
theorem isDuplicate_of_same_names (hs : Selection.ofNames catalog names connective = .ok s)
    (ht : Selection.ofNames catalog names' connective = .ok t)
    (hnames : ∀ name ∈ names, Text.trim name ∈ names'.map Text.trim)
    (hback : ∀ name ∈ names', Text.trim name ∈ names.map Text.trim) (a b : Record) :
    isDuplicate s a b = isDuplicate t a b := by
  rw [Bool.eq_iff_iff]
  cases connective with
  | any => exact ⟨isDuplicate_of_names_any hs ht hnames, isDuplicate_of_names_any ht hs hback⟩
  | all => exact ⟨isDuplicate_of_names_all ht hs hback, isDuplicate_of_names_all hs ht hnames⟩

end Names

end Registrar
