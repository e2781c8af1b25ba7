import Registrar.Batch.SharedIds
import Registrar.Lookup.Run
import Registrar.Proofs.Criterion.Rule
import Registrar.Proofs.Registry.Rows
import Mathlib.Data.List.Forall2
import Mathlib.Data.List.Pairwise

/-!
Registries without double registrations. What keeps one sound is that the rows of a new batch are no
duplicates of each other and of no live row but their own, and that the database refuses an id which
it knows. A row can only be missed as a candidate's own record if it carries the id of the
candidate, and then the candidate does not get in (`Sound.append`).
-/

namespace Registrar

namespace Import

/-- The rows are in normal form, no two of them carry one id, and no two live rows of the country
are duplicates of each other. -/
structure Sound (s : Selection) (country : String) (rows : List Record) : Prop where
  normal : ∀ r ∈ rows, r.normalize = r
  distinct : (rows.map (·.id)).Nodup
  noDuplicates : ∀ a ∈ rows, ∀ b ∈ rows, a ≠ b → a.liveIn country = true → b.liveIn country = true →
    isDuplicate s a b = false

/-- A search of the batch among the rows found nothing. -/
structure Clear (s : Selection) (country : String) (batch rows : List Record) : Prop where
  inBatch : batch.Pairwise fun a b => isDuplicate s a b = false
  stored : ∀ candidate ∈ batch, ∀ r ∈ rows, r.liveIn country = true →
    isDuplicate s candidate r = true → Lookup.isOwn candidate r = true

/-- The ids of the new rows are new, also among themselves. -/
structure Fresh (rows new : List Record) : Prop where
  unstored : ∀ a ∈ new, ∀ b ∈ rows, a.id ≠ b.id
  distinct : new.Pairwise fun a b => a.id ≠ b.id

/-- The row holds what the candidate was entered with beside the other rows. None of these carries
an id that the candidate has; the new row need not spell the id as the candidate does. -/
structure Entered (country : String) (rows : List Record) (candidate row : Record) : Prop where
  country : row.country = country
  value : ∀ f, row.value f = f.normalize (candidate.value f)
  trimmed : Text.trim row.id = row.id
  unknown : Text.trim candidate.id ≠ "" →
    ∀ b ∈ rows, Text.sameIgnoringCase (Text.trim candidate.id) b.id = false

variable {catalog : Catalog} {names : List String} {connective : Connective} {s : Selection}
  {country : String} {a a' b b' candidate row : Record} {batch rows new : List Record}

/-! ### Entered rows -/

theorem Entered.normal (h : Entered country rows candidate row) (hc : Text.unpad country = country) :
    row.normalize = row := by
  refine Record.normalize_eq_self_iff.2 ⟨Text.unpad_eq_self h.trimmed, ?_, fun f => ?_⟩
  · rw [h.country, hc]
  · rw [h.value, Field.normalize_normalize]

theorem Entered.agrees (h : Entered country rows candidate row) (f : Field) :
    f.normalize (row.value f) = f.normalize (candidate.value f) := by
  rw [h.value, Field.normalize_normalize]

/-- Matching cannot tell entered rows from their candidates. -/
theorem isDuplicate_congr (hs : Selection.ofNames catalog names connective = .ok s)
    (ha : ∀ f : Field, f.normalize (a.value f) = f.normalize (a'.value f))
    (hb : ∀ f : Field, f.normalize (b.value f) = f.normalize (b'.value f)) :
    isDuplicate s a b = isDuplicate s a' b' := by
  rw [isDuplicate_of_agrees hs, isDuplicate_of_agrees hs, s.agrees_congr ha hb]

theorem isDuplicate_entered (hs : Selection.ofNames catalog names connective = .ok s)
    (hclear : Clear s country batch rows) (hcandidate : candidate ∈ batch)
    (hentered : Entered country rows candidate row) (hb : b ∈ rows)
    (hlive : b.liveIn country = true) : isDuplicate s row b = false := by
  rw [← Bool.not_eq_true, isDuplicate_congr hs hentered.agrees fun _ => rfl]
  intro hdup
  -- only the candidate's own record is passed over, and then its id is taken
  have hown := hclear.stored candidate hcandidate b hb hlive hdup
  simp only [Lookup.isOwn, Bool.and_eq_true, bne_iff_ne, ne_eq] at hown
  exact Bool.false_ne_true ((hentered.unknown hown.1 b hb).symm.trans hown.2)

theorem pairwise_entered (hs : Selection.ofNames catalog names connective = .ok s)
    (hentered : List.Forall₂ (Entered country rows) batch new)
    (h : batch.Pairwise fun a b => isDuplicate s a b = false) :
    new.Pairwise fun a b => isDuplicate s a b = false := by
  induction hentered with
  | nil => exact List.Pairwise.nil
  | @cons a a' as as' ha has ih =>
    obtain ⟨hhead, htail⟩ := List.pairwise_cons.1 h
    refine List.pairwise_cons.2 ⟨fun b' hb' => ?_, ih htail⟩
    obtain ⟨b, hb, hbb'⟩ := exists_of_forall₂ has hb'
    rw [isDuplicate_congr hs ha.agrees hbb'.agrees]
    exact hhead b hb

/-! ### Sound registries -/

theorem nodup_append (hrows : (rows.map (·.id)).Nodup) (hfresh : Fresh rows new) :
    ((rows ++ new).map (·.id)).Nodup := by
  rw [List.map_append, List.nodup_append]
  refine ⟨hrows, List.pairwise_map.2 hfresh.distinct, ?_⟩
  intro x hx y hy e
  obtain ⟨b, hb, rfl⟩ := List.mem_map.1 hx
  obtain ⟨a, ha, rfl⟩ := List.mem_map.1 hy
  exact hfresh.unstored a ha b hb e.symm

/-- A sound registry stays sound when a batch is entered that a search found nothing about. -/
theorem Sound.append (hs : Selection.ofNames catalog names connective = .ok s)
    (hcountry : Text.unpad country = country) (hsound : Sound s country rows)
    (hclear : Clear s country batch rows) (hentered : List.Forall₂ (Entered country rows) batch new)
    (hfresh : Fresh rows new) : Sound s country (rows ++ new) := by
  have hnew : ∀ a ∈ new, ∀ b ∈ rows, b.liveIn country = true → isDuplicate s a b = false := by
    intro a ha b hb hlive
    obtain ⟨candidate, hcandidate, h⟩ := exists_of_forall₂ hentered ha
    exact isDuplicate_entered hs hclear hcandidate h hb hlive
  have hpair : ∀ a ∈ new, ∀ b ∈ new, a ≠ b → isDuplicate s a b = false := by
    have hsymm : Std.Symm fun a b : Record => isDuplicate s a b = false := by
      refine ⟨fun a b h => ?_⟩
      rwa [isDuplicate_comm hs]
    exact fun a ha b hb => (pairwise_entered hs hentered hclear.inBatch).forall ha hb
  constructor
  case normal =>
    intro r hr
    rcases List.mem_append.1 hr with hr | hr
    · exact hsound.normal r hr
    · obtain ⟨candidate, -, h⟩ := exists_of_forall₂ hentered hr
      exact h.normal hcountry
  case distinct => exact nodup_append hsound.distinct hfresh
  case noDuplicates =>
    intro a ha b hb hne hla hlb
    rcases List.mem_append.1 ha with ha | ha <;> rcases List.mem_append.1 hb with hb | hb
    · exact hsound.noDuplicates a ha b hb hne hla hlb
    · rw [isDuplicate_comm hs]
      exact hnew b hb a ha hla
    · exact hnew a ha b hb hlb
    · exact hpair a ha b hb hne

/-- Some rows were withdrawn. -/
def Withdrawn (rows rows' : List Record) : Prop :=
  List.Forall₂ (fun r r' => r' = r ∨ ∃ t : Instant, r' = { r with deletedAt := some t }) rows rows'

theorem Withdrawn.mem_of_liveIn {rows' : List Record} (h : Withdrawn rows rows') {r : Record}
    (hr : r ∈ rows') (hlive : r.liveIn country = true) : r ∈ rows := by
  obtain ⟨r', hr', e | ⟨t, e⟩⟩ := exists_of_forall₂ h hr
  · rwa [e]
  · rw [e] at hlive
    simp [Record.liveIn, Record.isDeleted] at hlive

theorem Withdrawn.map_id {rows' : List Record} (h : Withdrawn rows rows') :
    rows'.map (·.id) = rows.map (·.id) := by
  induction h with
  | nil => rfl
  | @cons r r' rows rows' hr _ ih =>
    have hid : r'.id = r.id := by
      rcases hr with rfl | ⟨t, rfl⟩ <;> rfl
    rw [List.map_cons, List.map_cons, hid, ih]

theorem Sound.withdraw (hsound : Sound s country rows) {rows' : List Record}
    (h : Withdrawn rows rows') : Sound s country rows' := by
  constructor
  case normal =>
    intro r' hr'
    obtain ⟨r, hr, e | ⟨t, e⟩⟩ := exists_of_forall₂ h hr'
    · rw [e, hsound.normal r hr]
    · have hnormal := Record.normalize_eq_self_iff.1 (hsound.normal r hr)
      rw [e]
      exact Record.normalize_eq_self_iff.2 hnormal
  case distinct =>
    rw [h.map_id]
    exact hsound.distinct
  case noDuplicates =>
    intro a ha b hb hne hla hlb
    exact hsound.noDuplicates a (h.mem_of_liveIn ha hla) b (h.mem_of_liveIn hb hlb) hne hla hlb

end Import

end Registrar
