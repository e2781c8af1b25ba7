import Registrar.Proofs.Import.Acts
import Registrar.Proofs.Lookup.Limit
import Registrar.Proofs.Registry.Texts
import Registrar.Proofs.Report
import Registrar.Settings

/-!
The limit from the environment against the limit of the database. All that is sent stays within the
limit that was set, the queries of searches by the check before each query and the statements of
inserts by the way records are cut. But the setting has no upper bound of its own: a search with
enough values fills a query up to the limit that was set. So no statement has more values than the
database takes exactly where the environment sets no higher limit (`statements_fit_iff`).
-/

namespace Registrar

/-! ### The setting -/

namespace Settings

variable {raw : Option String}

theorem value_readLimit_lt (raw : Option String) : (readLimit raw).value < UInt64.size := by
  have hdefault : databaseLimit < UInt64.size := by decide
  unfold readLimit
  cases raw with
  | none => exact hdefault
  | some text =>
    dsimp only
    split
    · next n hn =>
      obtain ⟨hword, -⟩ := Option.filter_eq_some_iff.1 hn
      exact Text.lt_of_wordBelow? hword
    · exact hdefault

/-- The limit exceeds that of the database only where the variable says so. -/
theorem value_readLimit_le_iff : (readLimit raw).value ≤ databaseLimit ↔
    ∀ text n, raw = some text → word? text = some n → n ≤ databaseLimit := by
  unfold readLimit
  cases raw with
  | none => simp [Noted.quiet]
  | some text =>
    dsimp only
    split
    · next n hn =>
      obtain ⟨hword, -⟩ := Option.filter_eq_some_iff.1 hn
      constructor
      · rintro hle _ n' ⟨⟩ hn'
        obtain rfl : n = n' := Option.some.inj (hword.symm.trans hn')
        exact hle
      · intro h
        exact h text n rfl hword
    · next hnone =>
      refine ⟨?_, fun _ => Nat.le_refl _⟩
      rintro - _ n ⟨⟩ hn
      -- a number that was put aside is too small
      have hsmall : ¬ 2 ≤ n := by
        intro htwo
        rw [hn, Option.filter_some, if_pos (by simpa using htwo)] at hnone
        cases hnone
      have hdefault : 2 ≤ databaseLimit := by decide
      omega

end Settings

/-! ### The queries of a search -/

namespace Database

variable {σ : Type} {db : Database (StateM σ)} {limit : Nat} {s : Selection} {country : String}
  {batch : List Record}

def searchQueries (db : Database (StateM σ)) (limit : Nat) (s : Selection) (country : String)
    (batch : List Record) (st : σ) : List Sql.Statement :=
  ((Report.search (db.watched.registry limit) s country batch).run (st, [])).2.2.filterMap
    Act.selected?

/-- Besides the values of its criterion a query carries the country. -/
theorem length_values_queryStatement (country : String) (c : Criterion) :
    (Import.queryStatement country c).values.length = c.size + 1 := rfl

/-- A query within the limit is sent, whatever comes of it, and one above it is not. -/
theorem ensures_find_sends (db : Database (StateM σ)) (limit : Nat) (country : String)
    (c : Criterion) (acts : List Act) :
    Ensures (fun st => st.2 = acts) ((db.watched.registry limit).find country c) fun _ st =>
      c.size + 1 ≤ limit ∧
          (∃ answer, st.2 = acts ++ [.select (Import.queryStatement country c) answer]) ∨
        limit < c.size + 1 ∧ st.2 = acts := by
  unfold registry
  dsimp only
  split
  · next habove => exact Ensures.pure fun st hst => .inr ⟨habove, hst⟩
  · next hwithin =>
    have hsize : c.size + 1 ≤ limit := Nat.le_of_not_lt hwithin
    refine Ensures.bind (ensures_noting _ _ acts) fun outcome => ?_
    cases outcome with
    | error reason => exact Ensures.pure fun st hst => .inl ⟨hsize, _, hst⟩
    | ok rows =>
      dsimp only
      split
      · exact Ensures.pure fun st hst => .inl ⟨hsize, _, hst⟩
      · exact Ensures.pure fun st hst => .inl ⟨hsize, _, hst⟩

/-- Every query among the acts has at most so many values. -/
def QueriesWithin (limit : Nat) (acts : List Act) : Prop :=
  ∀ q ∈ acts.filterMap Act.selected?, q.values.length ≤ limit

theorem ensures_find_within (limit : Nat) (country : String) (c : Criterion) :
    Ensures (fun st => QueriesWithin limit st.2) ((db.watched.registry limit).find country c)
      fun _ st => QueriesWithin limit st.2 := by
  refine Ensures.of_contents Prod.snd fun acts hacts => ?_
  refine (ensures_find_sends db limit country c acts).imp fun _ st h => ?_
  rcases h with ⟨hsize, answer, hst⟩ | ⟨-, hst⟩
  · rw [hst, QueriesWithin, List.filterMap_append]
    refine List.forall_mem_append.2 ⟨hacts, List.forall_mem_singleton.2 ?_⟩
    rwa [length_values_queryStatement]
  · rwa [hst]

theorem queriesWithin_search (db : Database (StateM σ)) (limit : Nat) (s : Selection)
    (country : String) (batch : List Record) (st : σ) :
    ∀ q ∈ db.searchQueries limit s country batch st, q.values.length ≤ limit := by
  have hstart : QueriesWithin limit ([] : List Act) := by simp [QueriesWithin]
  show QueriesWithin limit
    ((Report.search (db.watched.registry limit) s country batch).run (st, [])).2.2
  rw [Report.state_search]
  cases hplan : (Lookup.plan limit s batch).value with
  | error e =>
    obtain ⟨events, hrun⟩ := @Lookup.run_of_plan_eq_error _ (db.watched.registry limit) country s
      batch e hplan
    rw [hrun]
    exact hstart
  | ok probes =>
    have ensured := @Lookup.ensures_run _ (db.watched.registry limit) country s batch probes
      (fun st => QueriesWithin limit st.2) (fun _ _ => True)
      (fun _ st => QueriesWithin limit st.2) hplan fun _ _ chunk _ =>
        (ensures_find_within limit country _).imp fun _ _ h => ⟨fun _ _ => ⟨h, trivial⟩, fun _ _ => h⟩
    obtain ⟨hok, herr⟩ := ensured (st, []) hstart
    cases hv : ((Lookup.run (db.watched.registry limit) s country batch).run (st, [])).1.value with
    | ok lists => exact (hok lists hv).1
    | error e => exact (herr e hv).elim id fun h => h.1

/-- A search whose values fit one query together sends that query. -/
theorem exists_searchQueries_eq (db : Database (StateM σ)) (st : σ) (hlimit : limit < UInt64.size)
    (country : String) (hne : batch ≠ [])
    (hask : ∀ a ∈ batch, (Criterion.ofCandidate s a).isNever = false)
    (htotal : (batch.map fun a => (Criterion.ofCandidate s a).size).sum + 1 ≤ limit) :
    ∃ q, db.searchQueries limit s country batch st = [q] ∧
      q.values.length = (batch.map fun a => (Criterion.ofCandidate s a).size).sum + 1 := by
  obtain ⟨probes, hplan, hprobes, hcut, hsize⟩ :=
    Lookup.exists_plan_single hlimit hne hask htotal
  have hstate := @Lookup.state_run_of_single _ (db.watched.registry limit) country s batch probes
    hplan hprobes hcut (st, [])
  refine ⟨Import.queryStatement country (Lookup.request probes), ?_, by
    rw [length_values_queryStatement, hsize]⟩
  unfold searchQueries
  rw [Report.state_search, hstate]
  rcases ensures_find_sends db limit country (Lookup.request probes) [] (st, []) rfl with
    ⟨-, answer, hst⟩ | ⟨habove, -⟩
  · rw [hst]
    rfl
  · omega

def surname : Selection := ⟨[⟨"Names", "Names", [.lastName], .all, 0, true⟩], .any⟩

/-- As many people of one name. -/
def namesakes (n : Nat) : List Record := List.replicate n (Held.named "" "" "Ann" "Lee")

/-- A search for namesakes fills a query up to the limit, whatever the limit is. -/
theorem exists_searchQueries_namesakes (db : Database (StateM σ)) (st : σ) (country : String)
    {n : Nat} (hn : n ≠ 0) (h : n + 1 ≤ limit) (hlimit : limit < UInt64.size) :
    ∃ q, db.searchQueries limit surname country (namesakes n) st = [q] ∧
      q.values.length = n + 1 := by
  have hcriterion : ∀ a ∈ namesakes n, (Criterion.ofCandidate surname a).isNever = false ∧
      (Criterion.ofCandidate surname a).size = 1 := by
    intro a ha
    rw [List.eq_of_mem_replicate ha]
    exact ⟨by decide, by decide⟩
  have htotal : ((namesakes n).map fun a => (Criterion.ofCandidate surname a).size).sum = n := by
    rw [List.map_congr_left fun a ha => (hcriterion a ha).2, Chunks.sum_map_one, namesakes,
      List.length_replicate]
  have hne : namesakes n ≠ [] := by simp [namesakes, hn]
  have hsent := exists_searchQueries_eq db st hlimit country hne
    (fun a ha => (hcriterion a ha).1) (by rwa [htotal])
  rwa [htotal] at hsent

/-- **When all statements fit the database.** Let the limit on bound values be read from an
environment. Whatever the catalog and the database are, no query of a search and no statement of an
insert has more values than the database takes, for every selection, country, batch and list of
records, exactly where the variable for the limit is not set, or is no number of 64 bits, or is a
number up to what the database takes. -/
theorem statements_fit_iff (catalog : Catalog) (lookup : String → Option String)
    (db : Database (StateM σ)) (st : σ) :
    ((∀ s country batch, ∀ q ∈ db.searchQueries (Settings.read catalog lookup).value.limit s country
        batch st, q.values.length ≤ databaseLimit) ∧
      ∀ records, ∀ q ∈ (db.insertActs (Settings.read catalog lookup).value.limit records
        st).filterMap Act.executed?, q.values.length ≤ databaseLimit) ↔
    ∀ raw n, lookup "DEDUP_MAX_QUERY_PARAMS" = some raw → Settings.word? raw = some n →
      n ≤ databaseLimit := by
  have hread : (Settings.read catalog lookup).value.limit =
      (Settings.readLimit (lookup "DEDUP_MAX_QUERY_PARAMS")).value := rfl
  have hlimit := Settings.value_readLimit_lt (lookup "DEDUP_MAX_QUERY_PARAMS")
  rw [hread, ← Settings.value_readLimit_le_iff]
  constructor
  · rintro ⟨hqueries, -⟩
    by_contra habove
    obtain ⟨q, hsent, hlength⟩ := exists_searchQueries_namesakes db st "" (n := databaseLimit)
      (by decide) (Nat.lt_of_not_le habove) hlimit
    have hfits := hqueries surname "" (namesakes databaseLimit) q (hsent ▸ List.mem_singleton_self q)
    omega
  · intro hle
    refine ⟨fun s country batch q hq => ?_, fun records q hq => ?_⟩
    · exact Nat.le_trans (queriesWithin_search db _ s country batch st q hq) hle
    · exact Nat.le_trans (length_le_of_executed hq) hle

/-- An environment that sets a limit far above that of the database. -/
def generous (name : String) : Option String :=
  Environment.get? [("DEDUP_MAX_QUERY_PARAMS", "99999999")] name

/-- Under it an insert of 3121 records is one statement of 65541 values. -/
theorem exists_statement_above_generous :
    ∃ q ∈ (willing.insertActs (Settings.read .standard generous).value.limit
        (List.replicate 3121 Record.blank) ()).filterMap Act.executed?,
      q.values.length = 65541 ∧ databaseLimit < q.values.length := by
  have hread : (Settings.read .standard generous).value.limit = 99999999 := by decide
  have hne : List.replicate 3121 Record.blank ≠ [] :=
    List.ne_nil_of_length_pos (by rw [List.length_replicate]; decide)
  have hsent := @executed_insertActs_of_fits _ 99999999 _ willing () (by decide) hne
    (by rw [List.length_replicate]; decide)
  have hlength : (Sql.insert ((List.replicate 3121 Record.blank).map
      Record.normalize)).values.length = 65541 := by
    rw [Sql.length_values_insert, List.length_map, List.length_replicate]
    decide
  refine ⟨_, by rw [hread, hsent]; exact List.mem_singleton_self _, hlength, ?_⟩
  rw [hlength]
  decide

end Database

end Registrar
