import Registrar.Proofs.Lookup.Dialogue
import Registrar.Proofs.Lookup.Held
import Registrar.Sql

/-!
The limit on bound values, seen from a lookup. A limit of one or less leaves no room for a value
beside the country: then a lookup that has something to ask fails before its first query. In every
other case all queries stay within the limit and ask for at least one value, and a lookup fails only
with the failure of a query (`run_within_limit`).
-/

namespace Registrar.Lookup

variable {limit : Nat} {c : Criterion} {cs : List Criterion} {s : Selection} {country : String}
  {batch : List Record} {probes : List Probe}

/-! ### Without room for a value -/

theorem probesOfPart_eq_error (hb : budget limit = 0) (index : Nat) (hc : c.Filled) :
    probesOfPart limit index c = .error (.overLimit (c.size + 1) limit) := by
  rw [probesOfPart, hb, Criterion.cover_zero hc]

theorem probesOf_eq_error (hb : budget limit = 0) (index : Nat) (hc : c.Reduced) :
    ∃ required, 2 ≤ required ∧
      (probesOf limit index c).value = .error (.overLimit required limit) := by
  obtain ⟨part, parts, hparts⟩ := List.exists_cons_of_ne_nil (Criterion.disjuncts_ne_nil hc)
  have hpart : part.Filled :=
    (Criterion.reduced_of_mem_disjuncts hc (hparts ▸ List.mem_cons_self)).filled
  have hsize : ¬ c.size ≤ budget limit := by
    have := hc.filled.one_le_size
    omega
  refine ⟨part.size + 1, Nat.succ_le_succ hpart.one_le_size, ?_⟩
  rw [probesOf, hc.isNever_eq_false, if_neg Bool.false_ne_true, if_neg hsize, hparts, probesOfParts,
    probesOfPart_eq_error hb index hpart]
  rfl

theorem value_planFrom_cons_of_never (index : Nat) (hc : c.isNever = true) :
    (planFrom limit index (c :: cs)).value = (planFrom limit (index + 1) cs).value := by
  rw [planFrom, probesOf, if_pos hc]
  simp only [Noted.andThen, Noted.quiet, Noted.map]
  cases (planFrom limit (index + 1) cs).value <;> rfl

theorem planFrom_eq_error (hb : budget limit = 0) (index : Nat)
    (hcs : ∀ c ∈ cs, c = .never ∨ c.Reduced) (h : ∃ c ∈ cs, c.isNever = false) :
    ∃ required, 2 ≤ required ∧
      (planFrom limit index cs).value = .error (.overLimit required limit) := by
  induction cs generalizing index with
  | nil => simp at h
  | cons c cs ih =>
    obtain ⟨hc, hcs⟩ := List.forall_mem_cons.1 hcs
    cases hn : c.isNever with
    | true =>
      rw [value_planFrom_cons_of_never index hn]
      obtain ⟨d, hd, hdn⟩ := h
      refine ih (index + 1) hcs ⟨d, (List.mem_cons.1 hd).resolve_left ?_, hdn⟩
      rintro rfl
      rw [hn] at hdn
      cases hdn
    | false =>
      have hc : c.Reduced := hc.resolve_left fun e => by simp [e, Criterion.isNever] at hn
      obtain ⟨required, htwo, hvalue⟩ := probesOf_eq_error hb index hc
      refine ⟨required, htwo, ?_⟩
      rw [planFrom, Noted.andThen, hvalue]
      rfl

/-- A lookup that has something to ask, but no room for a value, goes through no chunk. -/
theorem chunks_eq_error (hl : limit ≤ 1)
    (h : ∃ a ∈ batch, (Criterion.ofCandidate s a).isNever = false) :
    ∃ required, 2 ≤ required ∧ chunks limit s batch = .error (.overLimit required limit) := by
  have hb : budget limit = 0 := by unfold budget; omega
  obtain ⟨required, htwo, hvalue⟩ := @planFrom_eq_error limit
    (batch.map (Criterion.ofCandidate s)) hb 0
    (List.forall_mem_map.2 fun a _ => Criterion.reduced_ofCandidate s a)
    (by simpa using h)
  exact ⟨required, htwo, by rw [chunks, plan, hvalue]⟩

/-! ### With nothing to ask -/

theorem planFrom_of_never (index : Nat) (h : ∀ c ∈ cs, c.isNever = true) :
    (planFrom limit index cs).value = .ok [] := by
  induction cs generalizing index with
  | nil => rfl
  | cons c cs ih =>
    obtain ⟨hc, hcs⟩ := List.forall_mem_cons.1 h
    rw [value_planFrom_cons_of_never index hc]
    exact ih (index + 1) hcs

theorem plan_of_never (limit : Nat) (h : ∀ a ∈ batch, (Criterion.ofCandidate s a).isNever = true) :
    (plan limit s batch).value = .ok [] :=
  planFrom_of_never 0 (List.forall_mem_map.2 h)

theorem shareOut_nil (batch : List Record) : shareOut batch [] = batch.map fun _ => [] := by
  refine List.ext_getElem? fun i => ?_
  rw [getElem?_shareOut, List.getElem?_map]
  rfl

/-! ### Within the limit -/

/-- Where a value has room, or nothing is asked, there is a plan, and it can be cut, if all values
together fit a word. -/
theorem exists_plan
    (hsize : (batch.map fun a => (Criterion.ofCandidate s a).size).sum < UInt64.size)
    (h : 2 ≤ limit ∨ ∀ a ∈ batch, (Criterion.ofCandidate s a).isNever = true) :
    ∃ probes, (plan limit s batch).value = .ok probes ∧
      (probes ≠ [] → ∃ cs, Chunks.cut (budget limit) (·.ask.size) probes = .ok cs) := by
  rcases h with hl | hnever
  · have hb : 1 ≤ budget limit := by unfold budget; omega
    obtain ⟨probes, hplan⟩ : ∃ probes, (plan limit s batch).value = .ok probes :=
      exists_planFrom hb 0 _
    exact ⟨probes, hplan, fun _ => exists_cut_plan (Nat.ne_of_gt hb) hplan hsize⟩
  · exact ⟨[], plan_of_never limit hnever, fun h => absurd rfl h⟩

theorem exists_chunks
    (hsize : (batch.map fun a => (Criterion.ofCandidate s a).size).sum < UInt64.size)
    (h : 2 ≤ limit ∨ ∀ a ∈ batch, (Criterion.ofCandidate s a).isNever = true) :
    ∃ cs, chunks limit s batch = .ok cs := by
  obtain ⟨probes, hplan, hcut⟩ := exists_plan hsize h
  unfold chunks
  rw [hplan]
  cases probes with
  | nil => exact ⟨[], rfl⟩
  | cons p probes =>
    obtain ⟨cs, hcut⟩ := hcut (List.cons_ne_nil p probes)
    exact ⟨cs, by dsimp only; rw [hcut]⟩

/-- A lookup asks for one value at least, and for no more than the limit admits beside the
country. -/
theorem size_of_mem_queries {q : Query} (hq : q ∈ queries limit s country batch) :
    q.country = country ∧ 1 ≤ q.criterion.size ∧ q.criterion.size + 1 ≤ limit := by
  unfold queries at hq
  split at hq
  · cases hq
  · next cs hcs =>
    obtain ⟨chunk, hchunk, rfl⟩ := List.mem_map.1 hq
    obtain ⟨probes, hplan, hflat, hcut⟩ := chunks_eq_ok hcs
    have hcut := hcut (List.ne_nil_of_mem hchunk)
    have hle : (request chunk).size ≤ budget limit := size_request_le hcut hchunk
    have hone : 1 ≤ (request chunk).size := by
      obtain ⟨p, ps, rfl⟩ := List.exists_cons_of_ne_nil (Chunks.ne_nil_of_mem_cut hcut chunk hchunk)
      have hp : p ∈ probes := hflat ▸ List.mem_flatten_of_mem hchunk List.mem_cons_self
      have := (reduced_of_mem_plan hplan hp).1.filled.one_le_size
      rw [size_request, List.map_cons, List.sum_cons]
      omega
    refine ⟨rfl, hone, ?_⟩
    show (request chunk).size + 1 ≤ limit
    unfold budget at hle
    omega

theorem exists_plan_single (hlimit : limit < UInt64.size) (hne : batch ≠ [])
    (hask : ∀ a ∈ batch, (Criterion.ofCandidate s a).isNever = false)
    (htotal : (batch.map fun a => (Criterion.ofCandidate s a).size).sum + 1 ≤ limit) :
    ∃ probes, (plan limit s batch).value = .ok probes ∧ probes ≠ [] ∧
      Chunks.cut (budget limit) (·.ask.size) probes = .ok [probes] ∧
      (request probes).size = (batch.map fun a => (Criterion.ofCandidate s a).size).sum := by
  have hle : ∀ a ∈ batch, (Criterion.ofCandidate s a).size ≤
      (batch.map fun a => (Criterion.ofCandidate s a).size).sum :=
    fun a ha => List.le_sum_of_mem (List.mem_map_of_mem ha)
  have hpos : 1 ≤ (batch.map fun a => (Criterion.ofCandidate s a).size).sum := by
    obtain ⟨a, rest, rfl⟩ := List.exists_cons_of_ne_nil hne
    have ha : a ∈ a :: rest := List.mem_cons_self
    have hreduced : (Criterion.ofCandidate s a).Reduced :=
      (Criterion.reduced_ofCandidate s a).resolve_left fun e => by
        have hnever := hask a ha
        rw [e] at hnever
        cases hnever
    exact Nat.le_trans hreduced.filled.one_le_size (hle a ha)
  have hfits : ∀ c ∈ batch.map (Criterion.ofCandidate s),
      c.isNever = false ∧ c.size ≤ budget limit := by
    intro c hc
    obtain ⟨a, ha, rfl⟩ := List.mem_map.1 hc
    have hsize := hle a ha
    refine ⟨hask a ha, ?_⟩
    unfold budget
    omega
  obtain ⟨probes, hplan, hprobes⟩ := exists_planFrom_of_fits 0 hfits
  have hweights : (probes.map fun p => p.ask.size).sum =
      (batch.map fun a => (Criterion.ofCandidate s a).size).sum := by
    have hsizes := congrArg (List.map Criterion.size) hprobes
    rw [List.map_map, List.map_map] at hsizes
    exact congrArg List.sum hsizes
  have hprobesNe : probes ≠ [] := by
    rintro rfl
    rw [List.map_nil, List.sum_nil] at hweights
    omega
  refine ⟨probes, hplan, hprobesNe, ?_, by rw [size_request, hweights]⟩
  unfold budget
  exact Chunks.cut_of_sum_le (by omega) (by omega) hprobesNe (by omega)

/-! ### Lookups -/

variable {σ : Type}

/-- **Which lookups fail, and what they send.** Let the values of all candidates together fit a
word. A limit of one or less fails a lookup that has something to ask, and nothing is asked. In
every other case the chunks can be planned and cut, every query names a value and stays within the
limit, both as a criterion and as a statement, and a failure is the answer to a query. A lookup
without anything to ask finds nothing for anyone. -/
theorem run_within_limit (registry : Registry (StateM σ)) (s : Selection) (country : String)
    (batch : List Record) (st : σ)
    (hsize : (batch.map fun a => (Criterion.ofCandidate s a).size).sum < UInt64.size) :
    (registry.limit ≤ 1 → (∃ a ∈ batch, (Criterion.ofCandidate s a).isNever = false) →
      exchanges registry s country batch st = [] ∧ ∃ required, 2 ≤ required ∧
        ((run registry s country batch).run st).1.value =
          .error (.overLimit required registry.limit)) ∧
    (2 ≤ registry.limit ∨ (∀ a ∈ batch, (Criterion.ofCandidate s a).isNever = true) →
      (∃ probes, (plan registry.limit s batch).value = .ok probes ∧
        (probes ≠ [] → ∃ cs,
          Chunks.cut (budget registry.limit) (·.ask.size) probes = .ok cs)) ∧
      (∀ x ∈ exchanges registry s country batch st, x.query.country = country ∧
        x.query.criterion.isNever = false ∧ 1 ≤ x.query.criterion.size ∧
        x.query.criterion.size + 1 ≤ registry.limit ∧
        (Sql.select x.query.criterion).values.length + 1 ≤ registry.limit) ∧
      ∀ e, ((run registry s country batch).run st).1.value = .error e →
        ∃ x ∈ exchanges registry s country batch st, x.answer = .error e) ∧
    ((∀ a ∈ batch, (Criterion.ofCandidate s a).isNever = true) →
      exchanges registry s country batch st = [] ∧
        ((run registry s country batch).run st).1.value = .ok (batch.map fun _ => [])) := by
  refine ⟨fun hl hany => ?_, fun h => ⟨exists_plan hsize h, fun x hx => ?_, fun e he => ?_⟩,
    fun hnever => ?_⟩
  · obtain ⟨required, htwo, hchunks⟩ := chunks_eq_error hl hany
    rw [exchanges_eq, value_run_eq, queries, hchunks]
    exact ⟨rfl, required, htwo, rfl⟩
  · rw [exchanges_eq] at hx
    obtain ⟨hcountry, hone, hle⟩ := size_of_mem_queries (Registry.query_mem_of_mem_dialogue hx)
    refine ⟨hcountry, ?_, hone, hle, ?_⟩
    · exact Criterion.isNever_eq_false_of_one_le_size hone
    · rwa [Sql.values_select]
  · obtain ⟨cs, hchunks⟩ := exists_chunks hsize h
    rw [value_run_eq, hchunks] at he
    rw [exchanges_eq, queries, hchunks]
    dsimp only at he ⊢
    cases houtcome : Exchange.outcome (registry.dialogue (queriesOf country cs) st) with
    | ok rowss => simp [houtcome, Except.map] at he
    | error e' =>
      rw [houtcome] at he
      cases he
      exact Exchange.exists_of_outcome_eq_error houtcome
  · have hchunks : chunks registry.limit s batch = .ok [] := by
      rw [chunks, plan_of_never registry.limit hnever]
    rw [exchanges_eq, value_run_eq, queries, hchunks]
    exact ⟨rfl, congrArg Except.ok (shareOut_nil batch)⟩

/-- Two names cannot be asked for with a limit of one; with a limit of two one of them is. -/
theorem run_within_limit_named :
    ([Held.named "" "" "Ann" "Lee"].map fun a =>
        (Criterion.ofCandidate Held.bothNames a).size).sum < UInt64.size ∧
      (∃ a ∈ [Held.named "" "" "Ann" "Lee"],
        (Criterion.ofCandidate Held.bothNames a).isNever = false) ∧
      (exchanges (.lasting 1 1 []) Held.bothNames "NL" [Held.named "" "" "Ann" "Lee"] 0 = [] ∧
        ∃ required, 2 ≤ required ∧
          ((run (.lasting 1 1 []) Held.bothNames "NL" [Held.named "" "" "Ann" "Lee"]).run
            0).1.value = .error (.overLimit required 1)) ∧
      ∃ x ∈ exchanges (.lasting 2 0 []) Held.bothNames "NL" [Held.named "" "" "Ann" "Lee"] 0,
        x.answer = .error (.database "no answer") ∧ 1 ≤ x.query.criterion.size ∧
          x.query.criterion.size + 1 ≤ 2 := by
  have hsize : ([Held.named "" "" "Ann" "Lee"].map fun a =>
      (Criterion.ofCandidate Held.bothNames a).size).sum < UInt64.size := by decide
  have hask : ∃ a ∈ [Held.named "" "" "Ann" "Lee"],
      (Criterion.ofCandidate Held.bothNames a).isNever = false := ⟨_, .head _, by decide⟩
  have one := run_within_limit (.lasting 1 1 []) Held.bothNames "NL" [Held.named "" "" "Ann" "Lee"]
    0 hsize
  have two := run_within_limit (.lasting 2 0 []) Held.bothNames "NL" [Held.named "" "" "Ann" "Lee"]
    0 hsize
  obtain ⟨-, hwithin, herror⟩ := two.2.1 (.inl (by decide))
  obtain ⟨x, hx, hanswer⟩ := herror (.database "no answer") (by decide)
  obtain ⟨-, -, hone, hle, -⟩ := hwithin x hx
  exact ⟨hsize, hask, one.1 (by decide) hask, x, hx, hanswer, hone, hle⟩

end Registrar.Lookup
