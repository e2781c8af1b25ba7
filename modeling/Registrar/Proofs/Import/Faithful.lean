import Registrar.Proofs.Batch
import Registrar.Proofs.Import.Sound
import Registrar.Proofs.Lookup.Run
import Registrar.Registry.Table

/-!
What imports rely on. The database shows a transaction the committed rows and what the transaction
wrote, answers a query with the live rows of the country that satisfy it, and accepts an insert only
if every id is well formed and new, be it in another case. Of such a database a search that found
nothing is a clear one (`ensures_search`), and an insert that was accepted entered the normal forms
of its records under fresh ids (`ensures_insert`).
-/

namespace Registrar.Import

/-- The rows of a database: those committed, and those that the open transaction sees. -/
structure Contents where
  committed : List Record
  seen : List Record

/-- The row stores the record beside the other rows, none of which has its id, be it in another
case. How the database spells the id of the new row is left open. -/
structure StoredAs (wellFormed : String → Prop) (country : String) (rows : List Record)
    (r row : Record) : Prop where
  given : wellFormed r.id
  unknown : ∀ t ∈ rows, Text.sameIgnoringCase r.id t.id = false
  wellFormed : wellFormed row.id
  country : row.country = country
  value : ∀ f, row.value f = r.value f

/-- The rows grew by rows that store the records, under fresh ids. -/
def Grown (wellFormed : String → Prop) (country : String) (rows records rows' : List Record) :
    Prop :=
  ∃ new, rows' = rows ++ new ∧ List.Forall₂ (StoredAs wellFormed country rows) records new ∧
    Fresh rows new

variable {σ : Type}

/-- The database does what is assumed of it, as far as one country is concerned; `contents` tells
what a state of it holds. -/
structure Faithful (db : Database (StateM σ)) (contents : σ → Contents) (country : String)
    (wellFormed : String → Prop) : Prop where
  trim : ∀ id, wellFormed id → Text.trim id = id
  connect : ∀ login C, Ensures (fun st => (contents st).committed = C) (db.connect login)
    fun _ st => (contents st).committed = C
  probe : ∀ statement C, Ensures (fun st => (contents st).committed = C) (db.probe statement)
    fun _ st => (contents st).committed = C
  begin : ∀ C, Ensures (fun st => (contents st).committed = C) (db.transact .begin)
    fun outcome st => (contents st).committed = C ∧ (outcome = .ok () → (contents st).seen = C)
  commit : ∀ K, Ensures (fun st => contents st = K) (db.transact .commit)
    fun _ st => (contents st).committed = K.committed ∨ (contents st).committed = K.seen
  rollback : ∀ K, Ensures (fun st => contents st = K) (db.transact .rollback)
    fun _ st => (contents st).committed = K.committed
  /-- A query leaves everything as it is and is answered exactly. -/
  select : ∀ c : Criterion, (c.Each fun _ v => v ≠ "") → ∀ K, (∀ r ∈ K.seen, r.normalize = r) →
    Ensures (fun st => contents st = K)
      (db.select ⟨(Sql.select c).text, country :: (Sql.select c).values⟩) fun answer st =>
        contents st = K ∧ ∀ rows found, answer = .ok rows → Row.records rows = .ok found →
          ∀ r, r ∈ found ↔ (r ∈ K.seen ∧ r.liveIn country = true) ∧ c.holds r = true
  /-- An insert commits nothing; it fails as a whole for an id that is malformed or known. -/
  insert : ∀ records, (∀ r ∈ records, r.country = country) → ∀ K,
    Ensures (fun st => contents st = K) (db.execute (Sql.insert records)) fun answer st =>
      (contents st).committed = K.committed ∧ ∀ n, answer = .ok n →
        Grown wellFormed country K.seen records (contents st).seen

variable {db : Database (StateM σ)} {contents : σ → Contents} {country : String}
  {wellFormed : String → Prop} {limit : Nat} {s : Selection} {batch : List Record} {K : Contents}

/-! ### Searching -/

theorem ensures_find (hdb : Faithful db contents country wellFormed) {c : Criterion}
    (hc : c.Each fun _ v => v ≠ "") (hK : ∀ r ∈ K.seen, r.normalize = r) :
    Ensures (fun st => contents st = K) ((db.registry limit).find country c) fun answer st =>
      contents st = K ∧ ∀ rows, answer.value = .ok rows →
        ∀ r, r ∈ rows ↔ (r ∈ K.seen ∧ r.liveIn country = true) ∧ c.holds r = true := by
  unfold Database.registry
  dsimp only
  split
  · exact Ensures.pure fun st hst => ⟨hst, fun rows h => by cases h⟩
  · refine Ensures.bind (hdb.select c hc K hK) fun answer => ?_
    cases answer with
    | error reason => exact Ensures.pure fun st hst => ⟨hst.1, fun rows h => by cases h⟩
    | ok rows =>
      dsimp only
      cases hrows : Row.records rows with
      | error reason => exact Ensures.pure fun st hst => ⟨hst.1, fun rows h => by cases h⟩
      | ok found =>
        refine Ensures.pure fun st hst => ⟨hst.1, fun found' h => ?_⟩
        cases h
        exact hst.2 rows found rfl hrows

theorem each_request {probes : List Lookup.Probe}
    (hplan : (Lookup.plan limit s batch).value = .ok probes) {chunks : List (List Lookup.Probe)}
    (hcut : Chunks.cut (Lookup.budget limit) (·.ask.size) probes = .ok chunks)
    {chunk : List Lookup.Probe} (hchunk : chunk ∈ chunks) :
    (Lookup.request chunk).Each fun _ v => v ≠ "" := by
  refine Criterion.each_disjoin fun c hc => ?_
  obtain ⟨p, hp, rfl⟩ := List.mem_map.1 hc
  refine Lookup.each_of_mem_plan hplan ?_
  rw [← Chunks.flatten_cut hcut]
  exact List.mem_flatten_of_mem hchunk hp

theorem ensures_lookup (hdb : Faithful db contents country wellFormed)
    (hK : ∀ r ∈ K.seen, r.normalize = r) :
    Ensures (fun st => contents st = K) (Lookup.run (db.registry limit) s country batch)
      fun found st => contents st = K ∧ ∀ lists, found.value = .ok lists →
        ∃ probes answers, (Lookup.plan limit s batch).value = .ok probes ∧
          lists = Lookup.shareOut batch answers ∧ answers.flatMap (·.1) = probes ∧
          ∀ a ∈ answers, ∀ r, r ∈ a.2 ↔
            (r ∈ K.seen ∧ r.liveIn country = true) ∧ (Lookup.request a.1).holds r = true := by
  cases hplan : (Lookup.plan limit s batch).value with
  | error e =>
    unfold Lookup.run
    dsimp only
    have hplan' : (Lookup.plan (db.registry limit).limit s batch).value = .error e := hplan
    rw [hplan']
    exact Ensures.pure fun st hst => ⟨hst, fun lists h => by cases h⟩
  | ok probes =>
    have run := @Lookup.ensures_run σ (db.registry limit) country s batch probes
      (fun st => contents st = K)
      (fun chunk rows => ∀ r, r ∈ rows ↔
        (r ∈ K.seen ∧ r.liveIn country = true) ∧ (Lookup.request chunk).holds r = true)
      (fun _ st => contents st = K) hplan (by
        intro chunks hcut chunk hchunk
        refine (ensures_find hdb (each_request hplan hcut hchunk) hK).imp ?_
        exact fun answer st h => ⟨fun rows e => ⟨h.1, h.2 rows e⟩, fun _ _ => h.1⟩)
    refine run.imp fun found st h => ⟨?_, fun lists e => ?_⟩
    · cases hv : found.value with
      | error e =>
        rcases h.2 e hv with h | h
        · exact h
        · exact h.1
      | ok lists => exact (h.1 lists hv).1
    · obtain ⟨-, answers, hlists, hflat, hrows⟩ := h.1 lists e
      exact ⟨probes, answers, rfl, hlists, hflat, hrows⟩

/-- A lookup that found nothing passed over nothing but own records. -/
theorem isOwn_of_shareOut {probes : List Lookup.Probe}
    {answers : List (List Lookup.Probe × List Record)} {rows : List Record}
    (hplan : (Lookup.plan limit s batch).value = .ok probes)
    (hflat : answers.flatMap (·.1) = probes)
    (hrows : ∀ a ∈ answers, ∀ r, r ∈ a.2 ↔
      (r ∈ rows ∧ r.liveIn country = true) ∧ (Lookup.request a.1).holds r = true)
    (hnone : (Lookup.shareOut batch answers).any (!·.isEmpty) = false)
    {candidate r : Record} (hcandidate : candidate ∈ batch) (hr : r ∈ rows)
    (hlive : r.liveIn country = true) (hdup : isDuplicate s candidate r = true) :
    Lookup.isOwn candidate r = true := by
  by_contra hown
  obtain ⟨i, hi⟩ := List.mem_iff_getElem?.1 hcandidate
  have hreceived : r ∈ Lookup.received i candidate answers :=
    (Lookup.mem_received_iff (L := fun r => r ∈ rows ∧ r.liveIn country = true)
      hplan hflat hrows hi).2 ⟨⟨hr, hlive⟩, hdup, by simpa using hown⟩
  obtain ⟨r', hr', -⟩ := Lookup.exists_id_byId hreceived
  have hmem : Lookup.byId (Lookup.received i candidate answers) ∈
      Lookup.shareOut batch answers := by
    refine List.mem_of_getElem? (i := i) ?_
    rw [Lookup.getElem?_shareOut, hi]
    rfl
  rw [List.any_eq_false] at hnone
  have hempty := hnone _ hmem
  simp only [Bool.not_eq_true', Bool.not_eq_false, List.isEmpty_iff] at hempty
  rw [hempty] at hr'
  cases hr'

/-- If the findings of a search are clean, then the search was clear. -/
theorem ensures_search (hdb : Faithful db contents country wellFormed)
    (hK : ∀ r ∈ K.seen, r.normalize = r) :
    Ensures (fun st => contents st = K) (Report.search (db.registry limit) s country batch)
      fun found st => contents st = K ∧ ∀ report, found.value = .ok report →
        (Findings.ofReport s batch report).clean = true → Clear s country batch K.seen := by
  unfold Report.search
  refine Ensures.bind (ensures_lookup hdb hK) fun found => ?_
  obtain ⟨events, value⟩ := found
  cases value with
  | error e => exact Ensures.pure fun st hst => ⟨hst.1, fun report h => by cases h⟩
  | ok stored =>
    refine Ensures.pure fun st hst => ⟨hst.1, fun report h hclean => ?_⟩
    cases h
    obtain ⟨-, hscan, hnone⟩ := Findings.of_clean hclean
    obtain ⟨probes, answers, hplan, rfl, hflat, hrows⟩ := hst.2 stored rfl
    refine ⟨Batch.pairwise_of_scan hscan, fun candidate hcandidate r hr hlive hdup => ?_⟩
    exact isOwn_of_shareOut hplan hflat hrows hnone hcandidate hr hlive hdup

/-! ### Inserting -/

theorem Grown.refl (rows : List Record) : Grown wellFormed country rows [] rows := by
  refine ⟨[], (List.append_nil rows).symm, .nil, ?_, .nil⟩
  intro a ha
  cases ha

theorem StoredAs.mono {rows rows' : List Record} {r row : Record} (hrows : rows' ⊆ rows)
    (h : StoredAs wellFormed country rows r row) : StoredAs wellFormed country rows' r row :=
  { h with unknown := fun t ht => h.unknown t (hrows ht) }

theorem Grown.trans {rows seen seen' done records : List Record}
    (h : Grown wellFormed country rows done seen)
    (h' : Grown wellFormed country seen records seen') :
    Grown wellFormed country rows (done ++ records) seen' := by
  obtain ⟨before, rfl, hbefore, hfresh⟩ := h
  obtain ⟨new, rfl, hnew, hfresh'⟩ := h'
  have hrows : rows ⊆ rows ++ before := List.subset_append_left rows before
  refine ⟨before ++ new, List.append_assoc _ _ _,
    List.rel_append hbefore (hnew.imp fun r row => StoredAs.mono hrows), ?_, ?_⟩
  · intro a ha t ht
    rcases List.mem_append.1 ha with ha | ha
    · exact hfresh.unstored a ha t ht
    · exact hfresh'.unstored a ha t (hrows ht)
  · refine List.pairwise_append.2 ⟨hfresh.distinct, hfresh'.distinct, fun a ha b hb => ?_⟩
    exact (hfresh'.unstored b hb a (List.mem_append_right _ ha)).symm

theorem ensures_insertChunk (hdb : Faithful db contents country wellFormed)
    {done records : List Record} (hcountry : ∀ r ∈ records, r.country = country) (counts : List Nat)
    (n : Nat) :
    Ensures (fun st => (contents st).committed = K.committed ∧
        Grown wellFormed country K.seen done (contents st).seen)
      (db.insertChunk counts n records) fun answer st =>
        (contents st).committed = K.committed ∧ ∀ rows, answer.value = .ok rows →
          Grown wellFormed country K.seen (done ++ records) (contents st).seen := by
  refine Ensures.of_contents contents (p := fun K' => K'.committed = K.committed ∧
    Grown wellFormed country K.seen done K'.seen) fun K' hK' => ?_
  obtain ⟨hcommitted, hgrown⟩ := hK'
  refine Ensures.bind (hdb.insert records hcountry K') fun answer => ?_
  cases answer with
  | error reason =>
    refine Ensures.pure fun st hst => ⟨hst.1.trans hcommitted, fun rows h => ?_⟩
    cases h
  | ok n =>
    dsimp only
    split
    · refine Ensures.pure fun st hst => ⟨hst.1.trans hcommitted, fun rows h => ?_⟩
      cases h
    · refine Ensures.pure fun st hst => ⟨hst.1.trans hcommitted, fun rows h => ?_⟩
      exact hgrown.trans (hst.2 n rfl)

theorem ensures_insert (hdb : Faithful db contents country wellFormed) {records : List Record}
    (hcountry : ∀ r ∈ records, r.normalize.country = country) :
    Ensures (fun st => contents st = K) (db.insert limit records) fun answer st =>
      (contents st).committed = K.committed ∧ ∀ n, answer.value = .ok n →
        Grown wellFormed country K.seen (records.map Record.normalize) (contents st).seen := by
  unfold Database.insert
  split
  · next hempty =>
    rw [List.isEmpty_iff] at hempty
    subst hempty
    refine Ensures.pure fun st hst => ⟨congrArg _ hst, fun n _ => ?_⟩
    rw [hst]
    exact Grown.refl K.seen
  · have run := @Chunks.ensures_run Record Nat StoreError σ (limit / Sql.valuesPerRecord)
      (fun _ => 1) (records.map Record.normalize)
      (fun done st => (contents st).committed = K.committed ∧
        Grown wellFormed country K.seen done.flatten (contents st).seen)
      (fun _ _ => True) (fun _ st => (contents st).committed = K.committed) db.insertChunk (by
        intro chunks hcut done counts n chunk hchunk
        have hchunkCountry : ∀ r ∈ chunk, r.country = country := by
          intro r hr
          have hmem : r ∈ records.map Record.normalize := by
            rw [← Chunks.flatten_cut hcut]
            exact List.mem_flatten_of_mem hchunk hr
          obtain ⟨r', hr', rfl⟩ := List.mem_map.1 hmem
          exact hcountry r' hr'
        refine (ensures_insertChunk hdb hchunkCountry counts n).imp fun answer st h => ?_
        refine ⟨fun rows e => ⟨⟨h.1, ?_⟩, trivial⟩, fun _ _ => h.1⟩
        rw [List.flatten_append, List.flatten_singleton]
        exact h.2 rows e)
    refine Ensures.bind (run.mono (fun st hst => ?_) fun _ _ h => h) fun outcome => ?_
    · rw [hst]
      exact ⟨rfl, Grown.refl K.seen⟩
    · cases outcome with
      | error cause =>
        refine Ensures.pure fun st hst => ⟨(hst.1 cause rfl).1.1, fun n h => ?_⟩
        cases h
      | ok answers =>
        dsimp only
        cases hresults : Chunks.results answers with
        | error e =>
          refine Ensures.pure fun st hst => ?_
          obtain ⟨chunks, -, -, hfailed⟩ := hst.2 answers rfl
          refine ⟨hfailed e hresults, fun n h => ?_⟩
          cases h
        | ok counts =>
          refine Ensures.pure fun st hst => ?_
          obtain ⟨chunks, hcut, hdone, -⟩ := hst.2 answers rfl
          obtain ⟨hcommitted, hgrown⟩ := (hdone counts hresults).1
          rw [Chunks.flatten_cut hcut] at hgrown
          exact ⟨hcommitted, fun _ _ => hgrown⟩

end Registrar.Import
