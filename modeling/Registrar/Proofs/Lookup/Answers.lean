import Mathlib.Data.List.Sort
import Mathlib.Data.String.Basic
import Registrar.Lookup.Run
import Registrar.Proofs.Lookup.Plan

/-!
Sharing out the answers. What a candidate gets comes by ascending id, each id once, and no id that
came back for it gets lost. Where the answers to a plan are exact, a candidate receives exactly its
duplicates, its own record aside (`mem_received_iff`).
-/

namespace Registrar.Lookup

/-- Records by ascending id, each id once. -/
def Ascending (rows : List Record) : Prop := rows.Pairwise fun a b => a.id < b.id

theorem Ascending.ext {rows rows' : List Record} (h : Ascending rows) (h' : Ascending rows')
    (e : ∀ r, r ∈ rows ↔ r ∈ rows') : rows = rows' := by
  have : Std.Irrefl fun a b : Record => a.id < b.id := ⟨fun a => lt_irrefl a.id⟩
  have : Std.Antisymm fun a b : Record => a.id < b.id := ⟨fun a b h1 h2 => absurd h1 (lt_asymm h2)⟩
  exact List.Pairwise.eq_of_mem_iff h h' e

/-! ### Records by id -/

section ById

variable {row r : Record} {found rows : List Record}

theorem mem_of_mem_insertById (h : r ∈ insertById row found) : r = row ∨ r ∈ found := by
  induction found with
  | nil => simpa [insertById] using h
  | cons f found ih =>
    unfold insertById at h
    split at h
    · simpa using h
    · split at h
      · exact .inr h
      · rcases List.mem_cons.1 h with rfl | h
        · exact .inr List.mem_cons_self
        · exact (ih h).imp_right (List.mem_cons_of_mem _)

theorem mem_insertById_of_mem (row : Record) (h : r ∈ found) : r ∈ insertById row found := by
  induction found with
  | nil => simp at h
  | cons f found ih =>
    unfold insertById
    split
    · exact List.mem_cons_of_mem _ h
    · split
      · exact h
      · rcases List.mem_cons.1 h with rfl | h
        · exact List.mem_cons_self
        · exact List.mem_cons_of_mem _ (ih h)

/-- The id of an inserted record is in the list, be it with another record. -/
theorem exists_id_insertById (row : Record) (found : List Record) :
    ∃ r ∈ insertById row found, r.id = row.id := by
  induction found with
  | nil => exact ⟨row, by simp [insertById], rfl⟩
  | cons f found ih =>
    unfold insertById
    split
    · exact ⟨row, List.mem_cons_self, rfl⟩
    · split
      · next e => exact ⟨f, List.mem_cons_self, e.symm⟩
      · obtain ⟨r, hr, e⟩ := ih
        exact ⟨r, List.mem_cons_of_mem _ hr, e⟩

theorem ascending_insertById (row : Record) (h : Ascending found) :
    Ascending (insertById row found) := by
  induction found with
  | nil => exact List.pairwise_singleton _ _
  | cons f found ih =>
    obtain ⟨hf, hfound⟩ := List.pairwise_cons.1 h
    unfold insertById
    split
    · next hlt =>
      refine List.pairwise_cons.2 ⟨fun r hr => ?_, h⟩
      rcases List.mem_cons.1 hr with rfl | hr
      · exact hlt
      · exact lt_trans hlt (hf r hr)
    · next hlt =>
      split
      · exact h
      · next hne =>
        refine List.pairwise_cons.2 ⟨fun r hr => ?_, ih hfound⟩
        rcases mem_of_mem_insertById hr with rfl | hr
        · exact lt_of_le_of_ne (not_lt.1 hlt) (Ne.symm hne)
        · exact hf r hr

theorem foldl_insertById (rows found : List Record) :
    (Ascending found → Ascending (rows.foldl (fun found row => insertById row found) found)) ∧
    (∀ r ∈ rows.foldl (fun found row => insertById row found) found, r ∈ found ∨ r ∈ rows) ∧
    (∀ r ∈ found, r ∈ rows.foldl (fun found row => insertById row found) found) ∧
    ∀ r ∈ rows, ∃ r' ∈ rows.foldl (fun found row => insertById row found) found, r'.id = r.id := by
  induction rows generalizing found with
  | nil => simp
  | cons row rows ih =>
    obtain ⟨hasc, hmem, hkeep, hid⟩ := ih (insertById row found)
    simp only [List.foldl_cons]
    refine ⟨fun h => hasc (ascending_insertById row h), fun r hr => ?_,
      fun r hr => hkeep r (mem_insertById_of_mem row hr), fun r hr => ?_⟩
    · rcases hmem r hr with hr | hr
      · rcases mem_of_mem_insertById hr with rfl | hr
        · exact .inr List.mem_cons_self
        · exact .inl hr
      · exact .inr (List.mem_cons_of_mem _ hr)
    · rcases List.mem_cons.1 hr with rfl | hr
      · obtain ⟨r', hr', e⟩ := exists_id_insertById r found
        exact ⟨r', hkeep r' hr', e⟩
      · exact hid r hr

theorem ascending_byId (rows : List Record) : Ascending (byId rows) :=
  (foldl_insertById rows []).1 List.Pairwise.nil

theorem mem_of_mem_byId (h : r ∈ byId rows) : r ∈ rows :=
  ((foldl_insertById rows []).2.1 r h).resolve_left List.not_mem_nil

theorem exists_id_byId (h : r ∈ rows) : ∃ r' ∈ byId rows, r'.id = r.id :=
  (foldl_insertById rows []).2.2.2 r h

theorem mem_byId_iff (h : ∀ a ∈ rows, ∀ b ∈ rows, a.id = b.id → a = b) :
    r ∈ byId rows ↔ r ∈ rows := by
  refine ⟨mem_of_mem_byId, fun hr => ?_⟩
  obtain ⟨r', hr', e⟩ := exists_id_byId hr
  exact h r' (mem_of_mem_byId hr') r hr e ▸ hr'

end ById

/-! ### What a candidate receives -/

/-- Everything that comes back for a candidate, answer by answer. -/
def received (index : Nat) (candidate : Record) (answers : List (List Probe × List Record)) :
    List Record :=
  answers.flatMap fun (chunk, rows) => share index candidate chunk rows

variable {batch : List Record} {answers : List (List Probe × List Record)}

theorem getElem?_shareOut (batch : List Record) (answers : List (List Probe × List Record))
    (i : Nat) : (shareOut batch answers)[i]? =
      (batch[i]?).map fun candidate => byId (received i candidate answers) := by
  simp only [shareOut, List.getElem?_map, List.getElem?_zipIdx, Option.map_map, Nat.zero_add]
  rfl

theorem isOwn_eq_false_iff {candidate r : Record} : isOwn candidate r = false ↔
    ¬ (Text.trim candidate.id ≠ "" ∧
      Text.sameIgnoringCase (Text.trim candidate.id) r.id = true) := by
  simp [isOwn]

theorem mem_received {i : Nat} {candidate r : Record} :
    r ∈ received i candidate answers ↔ ∃ a ∈ answers, r ∈ a.2 ∧
      ∃ p ∈ a.1, p.candidate = i ∧ takes candidate p r = true := by
  simp [received, share]

/-- Exact answers to a plan give a candidate its duplicates among the records of `L`, and those
only, but never its own record. -/
theorem mem_received_iff {limit i : Nat} {s : Selection} {candidate r : Record}
    {probes : List Probe} {L : Record → Prop} (hplan : (plan limit s batch).value = .ok probes)
    (hflat : answers.flatMap (·.1) = probes)
    (hexact : ∀ a ∈ answers, ∀ r, r ∈ a.2 ↔ L r ∧ (request a.1).holds r = true)
    (hi : batch[i]? = some candidate) :
    r ∈ received i candidate answers ↔
      L r ∧ isDuplicate s candidate r = true ∧ isOwn candidate r = false := by
  have serves := plan_serves hplan hi
  have takes_iff : ∀ p : Probe, takes candidate p r = true ↔
      isOwn candidate r = false ∧ p.keep.holds r = true := by simp [takes]
  rw [mem_received]
  constructor
  · rintro ⟨a, ha, hr, p, hp, hpi, ht⟩
    obtain ⟨hown, hkeep⟩ := (takes_iff p).1 ht
    have hmem : p ∈ probes := hflat ▸ List.mem_flatMap.2 ⟨a, ha, hp⟩
    exact ⟨((hexact a ha r).1 hr).1,
      serves.sound p (List.mem_filter.2 ⟨hmem, by simpa using hpi⟩) r hkeep, hown⟩
  · rintro ⟨hL, hdup, hown⟩
    obtain ⟨p, hp, hkeep, hask⟩ := serves.complete r hdup
    obtain ⟨hmem, hpi⟩ := List.mem_filter.1 hp
    obtain ⟨a, ha, hpa⟩ := List.mem_flatMap.1 (hflat ▸ hmem)
    have hreq : (request a.1).holds r = true := by
      simpa [request] using ⟨p, hpa, hask⟩
    exact ⟨a, ha, (hexact a ha r).2 ⟨hL, hreq⟩, p, hpa, by simpa using hpi,
      (takes_iff p).2 ⟨hown, hkeep⟩⟩

end Registrar.Lookup
