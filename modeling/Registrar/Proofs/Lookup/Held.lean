import Registrar.Proofs.Criterion.Rule
import Registrar.Proofs.Lookup.Run
import Registrar.Proofs.Record
import Registrar.Registry.Held

/-!
Lookups in a registry held in memory. Whatever the limit is, as long as it admits a value beside the
country, every candidate gets exactly its duplicates among the live records of the country, by id:
splitting a criterion, weakening a conjunction, asking for several candidates at once and sharing
out the answers lose nothing, add nothing and repeat nothing.
-/

namespace Registrar

namespace Held

/-- What a lookup is expected to find for a candidate: its duplicates among the live records of the
country, its own record aside. -/
def duplicates (held : Held) (selection : Selection) (country : String) (candidate : Record) :
    List Record :=
  held.records.filter fun r =>
    r.liveIn country && isDuplicate selection candidate r && !Lookup.isOwn candidate r

variable {limit : Nat} {records batch : List Record} {country : String} {s : Selection}

/-! ### What is held -/

theorem ascending_ofRecords (limit : Nat) (h : (records.map fun r => r.normalize.id).Nodup) :
    Lookup.Ascending (ofRecords limit records).records := by
  have sorted : (ofRecords limit records).records.Pairwise fun a b => a.id ≤ b.id := by
    have trans : ∀ a b c : Record, decide (a.id ≤ b.id) = true → decide (b.id ≤ c.id) = true →
        decide (a.id ≤ c.id) = true := by
      intro a b c hab hbc
      rw [decide_eq_true_eq] at *
      exact le_trans hab hbc
    have total : ∀ a b : Record, (decide (a.id ≤ b.id) || decide (b.id ≤ a.id)) = true := by
      intro a b
      rw [Bool.or_eq_true, decide_eq_true_eq, decide_eq_true_eq]
      exact le_total _ _
    exact (List.pairwise_mergeSort trans total (records.map Record.normalize)).imp of_decide_eq_true
  have nodup : ((ofRecords limit records).records.map (·.id)).Nodup := by
    have hp := (List.mergeSort_perm (records.map Record.normalize)
      fun a b => decide (a.id ≤ b.id)).map (·.id)
    refine hp.nodup_iff.2 ?_
    rwa [List.map_map]
  have distinct : (ofRecords limit records).records.Pairwise fun a b => a.id ≠ b.id :=
    List.pairwise_map.1 nodup
  exact (sorted.and distinct).imp fun h => lt_of_le_of_ne h.1 h.2

theorem mem_rows {held : Held} {c : Criterion} {r : Record} :
    r ∈ held.rows country c ↔
      (r ∈ held.records ∧ r.liveIn country = true) ∧ c.holds r = true := by
  simp [rows, Record.liveIn, and_assoc]

theorem eq_of_id_eq (hids : (records.map fun r => r.normalize.id).Nodup) {a b : Record}
    (ha : a ∈ (ofRecords limit records).records) (hb : b ∈ (ofRecords limit records).records)
    (e : a.id = b.id) : a = b := by
  rw [mem_ofRecords] at ha hb
  obtain ⟨x, hx, rfl⟩ := ha
  obtain ⟨y, hy, rfl⟩ := hb
  rw [List.inj_on_of_nodup_map hids hx hy e]

theorem mem_duplicates {held : Held} {candidate r : Record} :
    r ∈ held.duplicates s country candidate ↔ (r ∈ held.records ∧ r.liveIn country = true) ∧
      isDuplicate s candidate r = true ∧ Lookup.isOwn candidate r = false := by
  simp [duplicates, and_assoc]

/-! ### Lookups -/

theorem run_find (held : Held) (country : String) (c : Criterion) (asked : Nat) :
    ((held.registry.find country c).run asked).1 = held.answer country c := by
  show ((do if c.size + 1 ≤ held.limit then modify (· + 1)
            return held.answer country c : StateM Nat _).run asked).1 = _
  split <;> rfl

theorem ensures_rows {held : Held} {c : Criterion} :
    Ensures (fun _ => True) (held.registry.find country c) fun answer _ =>
      ∀ rows, answer.value = .ok rows → rows = held.rows country c := by
  intro asked _ rows h
  rw [run_find] at h
  unfold answer at h
  dsimp only at h
  split at h
  · cases h
  · exact (Except.ok.inj h).symm

theorem ensures_find {held : Held} {c : Criterion} (h : c.size + 1 ≤ held.limit) :
    Ensures (fun _ => True) (held.registry.find country c) fun answer _ =>
      ∀ e, answer.value ≠ .error e := by
  intro asked _ e he
  rw [run_find, answer, if_neg (Nat.not_lt.2 h)] at he
  cases he

variable {probes : List Lookup.Probe}

theorem ensures_request {held : Held} (hl : 2 ≤ held.limit) {chunks : List (List Lookup.Probe)}
    (hcut : Chunks.cut (Lookup.budget held.limit) (·.ask.size) probes = .ok chunks)
    {chunk : List Lookup.Probe} (hchunk : chunk ∈ chunks) :
    Ensures (fun _ => True) (held.registry.find country (Lookup.request chunk)) fun answer _ =>
      ∀ e, answer.value ≠ .error e := by
  have hle : (Lookup.request chunk).size + 1 ≤ held.limit := by
    have hc := Lookup.size_request_le hcut hchunk
    unfold Lookup.budget at hc
    omega
  exact ensures_find hle

/-- A lookup ends with lists, if all values together fit a word. -/
theorem exists_value_run {held : Held} (hl : 2 ≤ held.limit)
    (hsize : (batch.map fun a => (Criterion.ofCandidate s a).size).sum < UInt64.size)
    (asked : Nat) :
    ∃ found, ((Lookup.run held.registry s country batch).run asked).1.value = .ok found := by
  have hb : 1 ≤ Lookup.budget held.limit := by unfold Lookup.budget; omega
  obtain ⟨probes, hplan⟩ : ∃ probes, (Lookup.plan held.limit s batch).value = .ok probes :=
    Lookup.exists_planFrom hb 0 _
  have ensured := @Lookup.ensures_run _ held.registry country s batch probes
    (fun _ => True) (fun _ _ => True) (fun _ _ => False) hplan
    fun _ hcut _ hchunk => (ensures_request hl hcut hchunk).imp fun answer _ h =>
      ⟨fun _ _ => ⟨trivial, trivial⟩, h⟩
  obtain ⟨-, herr⟩ := ensured asked trivial
  cases hv : ((Lookup.run held.registry s country batch).run asked).1.value with
  | ok found => exact ⟨found, rfl⟩
  | error e =>
    rcases herr e hv with h | ⟨-, cause, -, hcut⟩
    · exact h.elim
    · obtain ⟨chunks, hcut'⟩ := Lookup.exists_cut_plan (Nat.ne_of_gt hb) hplan hsize
      exact absurd (hcut'.symm.trans hcut) (by simp)

/-- What a candidate gets of exact answers is what it is expected to get. -/
theorem byId_received (hids : (records.map fun r => r.normalize.id).Nodup)
    (hplan : (Lookup.plan limit s batch).value = .ok probes)
    {answers : List (List Lookup.Probe × List Record)} (hflat : answers.flatMap (·.1) = probes)
    (hrows : ∀ a ∈ answers, a.2 = (ofRecords limit records).rows country (Lookup.request a.1))
    {i : Nat} {candidate : Record} (hi : batch[i]? = some candidate) :
    Lookup.byId (Lookup.received i candidate answers) =
      (ofRecords limit records).duplicates s country candidate := by
  have hmem : ∀ r, r ∈ Lookup.received i candidate answers ↔
      r ∈ (ofRecords limit records).duplicates s country candidate := by
    intro r
    have hanswers : ∀ a ∈ answers, ∀ row, row ∈ a.2 ↔
        (row ∈ (ofRecords limit records).records ∧ row.liveIn country = true) ∧
          (Lookup.request a.1).holds row = true := by
      intro a ha row
      rw [hrows a ha]
      exact mem_rows
    rw [mem_duplicates]
    exact Lookup.mem_received_iff (L := fun row => row ∈ (ofRecords limit records).records ∧
      row.liveIn country = true) hplan hflat hanswers hi
  have huniq : ∀ a ∈ Lookup.received i candidate answers,
      ∀ b ∈ Lookup.received i candidate answers, a.id = b.id → a = b := by
    intro a ha b hb e
    have hla := (mem_duplicates.1 ((hmem a).1 ha)).1.1
    have hlb := (mem_duplicates.1 ((hmem b).1 hb)).1.1
    exact eq_of_id_eq hids hla hlb e
  refine (Lookup.ascending_byId _).ext ?_ fun r => (Lookup.mem_byId_iff huniq).trans (hmem r)
  exact (ascending_ofRecords limit hids).sublist List.filter_sublist

theorem eq_of_value_run (hids : (records.map fun r => r.normalize.id).Nodup) (hl : 2 ≤ limit)
    {asked : Nat} {found : List (List Record)}
    (h : ((Lookup.run (ofRecords limit records).registry s country batch).run asked).1.value =
      .ok found) : found = batch.map ((ofRecords limit records).duplicates s country) := by
  have hb : 1 ≤ Lookup.budget limit := by unfold Lookup.budget; omega
  obtain ⟨probes, hplan⟩ : ∃ probes, (Lookup.plan limit s batch).value = .ok probes :=
    Lookup.exists_planFrom hb 0 _
  have ensured := @Lookup.ensures_run _ (ofRecords limit records).registry country s batch probes
    (fun _ => True) (fun chunk rows => rows = (ofRecords limit records).rows country
      (Lookup.request chunk)) (fun _ _ => True) hplan
    fun _ _ _ _ => ensures_rows.imp fun answer _ hrows =>
      ⟨fun rows e => ⟨trivial, hrows rows e⟩, fun _ _ => trivial⟩
  obtain ⟨-, answers, rfl, hflat, hrows⟩ := (ensured asked trivial).1 found h
  refine List.ext_getElem? fun i => ?_
  rw [Lookup.getElem?_shareOut, List.getElem?_map]
  cases hi : batch[i]? with
  | none => rfl
  | some candidate => exact congrArg some (byId_received hids hplan hflat hrows hi)

/-- A lookup finds what is expected, if all values together fit a word. -/
theorem value_run (hids : (records.map fun r => r.normalize.id).Nodup) (hl : 2 ≤ limit)
    (hsize : (batch.map fun a => (Criterion.ofCandidate s a).size).sum < UInt64.size)
    (asked : Nat) :
    ((Lookup.run (ofRecords limit records).registry s country batch).run asked).1.value =
      .ok (batch.map ((ofRecords limit records).duplicates s country)) := by
  obtain ⟨found, hv⟩ := @exists_value_run batch country s (ofRecords limit records) hl hsize asked
  rw [hv, eq_of_value_run hids hl hv]

/-- **A lookup is exact, whatever the limit.** If the held ids are distinct and the limit admits a
value beside the country, then each candidate gets its duplicates among the live records of the
country, its own record aside, by id and each once. The lists do not depend on the limit. -/
theorem exists_found_forall₂ {records : List Record}
    (hids : (records.map fun r => r.normalize.id).Nodup) (s : Selection) (country : String)
    {batch : List Record}
    (hsize : (batch.map fun a => (Criterion.ofCandidate s a).size).sum < UInt64.size) :
    ∃ found : List (List Record),
      (∀ limit, 2 ≤ limit → ∀ asked,
        ((Lookup.run (ofRecords limit records).registry s country batch).run asked).1.value =
          .ok found) ∧
      List.Forall₂ (fun candidate rows => Lookup.Ascending rows ∧ ∀ r, r ∈ rows ↔
        (∃ stored ∈ records, stored.normalize = r) ∧ r.country = country ∧ r.isDeleted = false ∧
          isDuplicate s candidate r = true ∧
          ¬ (Text.trim candidate.id ≠ "" ∧
            Text.sameIgnoringCase (Text.trim candidate.id) r.id = true)) batch found := by
  refine ⟨batch.map ((ofRecords 2 records).duplicates s country), fun limit hl asked => ?_, ?_⟩
  · -- the limit takes no part in what is held, nor in what is expected
    exact value_run hids hl hsize asked
  · rw [List.forall₂_map_right_iff]
    refine List.forall₂_same.2 fun candidate _ => ⟨?_, fun r => ?_⟩
    · exact (ascending_ofRecords 2 hids).sublist List.filter_sublist
    · rw [mem_duplicates, mem_ofRecords, Lookup.isOwn_eq_false_iff]
      simp only [Record.liveIn, Bool.and_eq_true, beq_iff_eq, Bool.not_eq_true', and_assoc]

def named (id country first last : String) : Record :=
  ⟨id, country, .ofFn fun
    | .firstName => first
    | .lastName => last
    | _ => "", none⟩

def bothNames : Selection :=
  ⟨[⟨"Names", "Names", [.firstName, .lastName], .all, 0, true⟩], .any⟩

/-- Three records; the last one belongs to another country. -/
def threeNamed : List Record :=
  [named "b " "NL" "Ann" "Lee", named "a" "NL" "Ann" "Poe", named "c" "BE" "Ann" "Lee"]

/-- Two names do not fit a query of two values; the match is found all the same. -/
theorem exists_found_forall₂_named :
    (threeNamed.map fun r => r.normalize.id).Nodup ∧
      ([named "" "" " Ann" "Lee "].map fun a => (Criterion.ofCandidate bothNames a).size).sum <
        UInt64.size ∧
      ∃ rows, (∀ limit, 2 ≤ limit → ∀ asked,
          ((Lookup.run (ofRecords limit threeNamed).registry bothNames "NL"
            [named "" "" " Ann" "Lee "]).run asked).1.value = .ok [rows]) ∧
        named "b" "NL" "Ann" "Lee" ∈ rows ∧ named "a" "NL" "Ann" "Poe" ∉ rows := by
  refine ⟨by decide, by decide, ?_⟩
  obtain ⟨found, hrun, hfound⟩ := @exists_found_forall₂ threeNamed (by decide) bothNames "NL"
    [named "" "" " Ann" "Lee "] (by decide)
  obtain ⟨rows, rest, ⟨-, hrows⟩, hrest, rfl⟩ := List.forall₂_cons_left_iff.1 hfound
  obtain rfl := List.forall₂_nil_left_iff.1 hrest
  refine ⟨rows, hrun, ?_, ?_⟩
  · rw [hrows]
    exact ⟨⟨_, .head _, by decide⟩, rfl, rfl, by decide, by decide⟩
  · rw [hrows]
    rintro ⟨-, -, -, hdup, -⟩
    exact absurd hdup (by decide)

end Held

end Registrar
