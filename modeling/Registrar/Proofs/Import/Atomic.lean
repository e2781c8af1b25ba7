import Registrar.Proofs.Import.Acts
import Registrar.Proofs.Import.Reachable

/-!
What an import may write, and when. An import searches first; it inserts only if the search found
nothing or duplicates are allowed; and it commits only after the last insert, if all went well
(`attempts_runInsert_watched`). So nothing is written behind a failure, nothing stays written of
half a batch, and what a commit makes last is the batch (`acts_atomic`).
-/

namespace Registrar.Import

variable {σ : Type} {host : Host (StateM σ)} {env : Environment} {catalog : Catalog}
  {settings : Settings} {request : Request} {allow : Bool}

/-! ### The course of an import -/

def inCountry (country : String) (read : List Record) : List Record :=
  read.map fun r => { r with country := country }

/-- The finished search of an import: every chunk of its lookup was asked for, in order, and was
answered. -/
structure Searched (env : Environment) (catalog : Catalog) (settings : Settings)
    (request : Request) where
  selection : Selection
  selected : (settings.select catalog request.groups request.connective).value = .ok selection
  /-- The text of the file. -/
  text : String
  read : List Record
  parsed : Batch.read? text = some read
  answers : List (List Lookup.Probe × List Record)
  selects : List Act
  asks : AsksFor settings.limit selection request.country (inCountry request.country read) answers
    selects

namespace Searched

def batch (x : Searched env catalog settings request) : List Record :=
  inCountry request.country x.read

def report (x : Searched env catalog settings request) : Report :=
  ⟨Batch.scan x.selection x.batch, Lookup.shareOut x.batch x.answers⟩

/-- No id is shared, and no duplicates were found. -/
def Clean (x : Searched env catalog settings request) : Prop :=
  Batch.sharedIds x.batch = [] ∧ x.report.hasDuplicates = false

/-- What was done until the search was finished. -/
def acts (x : Searched env catalog settings request) : List Act :=
  opening env request x.text ++ x.selects

end Searched

/-- An import that is ready to insert: its search is finished, it is clean or duplicates are
allowed, and all its records have ids. -/
structure Prepared (env : Environment) (catalog : Catalog) (settings : Settings)
    (request : Request) (allow : Bool) extends Searched env catalog settings request where
  cleared : allow = true ∨ toSearched.Clean
  /-- The findings. -/
  printed : String
  ids : List String
  records : List Record
  filled : Filled toSearched.batch ids records

/-- What was done until the first insert. -/
def Prepared.allActs (p : Prepared env catalog settings request allow) : List Act :=
  p.acts ++ [.print p.printed] ++ p.ids.map .newId

/-- What an import can do. -/
inductive Course (env : Environment) (catalog : Catalog) (settings : Settings) (request : Request)
    (allow : Bool) : List Act → Prop
  | unwritten {acts : List Act} (h : Quiet acts) : Course env catalog settings request allow acts
  /-- The insert was stopped; a chunk was the last act. -/
  | stopped (p : Prepared env catalog settings request allow) (chunks : List (List Record))
      (hchunks : Database.insertChunks settings.limit p.records = .ok chunks) (e : StoreError)
      (acts : List Act) (h : Database.Inserted chunks (.error e) acts) :
      Course env catalog settings request allow (p.allActs ++ acts)
  /-- All was inserted; the commit is the last act. -/
  | committed (p : Prepared env catalog settings request allow) (sent : List (List Record × Nat))
      (hsent : Database.insertChunks settings.limit p.records = .ok (sent.map (·.1)))
      (answer : Except String Unit) :
      Course env catalog settings request allow
        (p.allActs ++ Database.wrote sent ++ [.transact .commit answer])

theorem quiet_allActs (p : Prepared env catalog settings request allow) : Quiet p.allActs := by
  have hids : Quiet (p.ids.map .newId) := by
    intro act hact
    obtain ⟨id, -, rfl⟩ := List.mem_map.1 hact
    rfl
  have hsearched := (quiet_opening env request p.text).append (quiet_of_answers p.asks.answered)
  exact (hsearched.concat rfl).append hids

theorem attempts_insert_watched (p : Prepared env catalog settings request allow) (clean : Bool) :
    Attempts (fun st => st.2 = p.allActs)
      (do
        let _ ← Command.orEnd (Command.registryOutcome "Failed to insert individuals") do
          return (← host.watched.database.insert settings.limit p.records).value
        Command.orFail "Failed to commit import" (host.watched.database.transact .commit)
        return clean : Command.Attempt (StateM (σ × List Act)) Bool)
      (fun _ st => Course env catalog settings request allow st.2)
      (fun st => Course env catalog settings request allow st.2) := by
  have hinsert := @Database.ensures_insert_watched σ host.database settings.limit p.records p.allActs
  refine Attempts.bind (Q := fun _ st => ∃ sent, st.2 = p.allActs ++ Database.wrote sent ∧
    Database.insertChunks settings.limit p.records = .ok (sent.map (·.1)))
    (attempts_orEnd (Ensures.bind hinsert fun answer => Ensures.pure fun st hst => ?_))
    fun _ => Attempts.of_exists fun sent => Attempts.of_imp fun hsent => ?_
  · obtain ⟨hnone, hall⟩ := hst
    cases hchunks : Database.insertChunks settings.limit p.records with
    | error cause =>
      obtain ⟨hvalue, hacts⟩ := hnone cause hchunks
      rw [hvalue]
      refine ⟨fun n hn => (by cases hn), fun e he => ?_⟩
      rw [hacts]
      exact .unwritten (quiet_allActs p)
    | ok chunks =>
      obtain ⟨more, hmore, hinserted⟩ := hall chunks hchunks
      rw [hmore]
      refine ⟨fun n hn => ?_, fun e he => ?_⟩
      · rw [hn] at hinserted
        cases hinserted with
        | written sent hsent => exact ⟨sent, rfl, congrArg Except.ok hsent.symm⟩
      · rw [he] at hinserted
        exact .stopped p chunks hchunks e more hinserted
  · have hcommit : Attempts _ (Command.orFail "Failed to commit import"
        (host.watched.database.transact .commit)) _ _ :=
      attempts_noting _ (.transact .commit) (host.database.transact .commit)
        (p.allActs ++ Database.wrote sent)
    refine Attempts.bind (hcommit.imp_error ?_) fun _ => Attempts.pure ?_
    · rintro st ⟨e, he⟩
      rw [he]
      exact .committed p sent hsent (.error e)
    · intro st hst
      rw [hst]
      exact .committed p sent hsent _

theorem clean_of_findings {x : Searched env catalog settings request}
    (h : (Findings.ofReport x.selection x.batch x.report).clean = true) : x.Clean := by
  have hboth : (Batch.sharedIds x.batch).isEmpty = true ∧ (!x.report.hasDuplicates) = true :=
    Bool.and_eq_true_iff.1 h
  exact ⟨List.isEmpty_iff.1 hboth.1, by simpa using hboth.2⟩

theorem attempts_decide_watched (x : Searched env catalog settings request) (printed : String)
    {clean : Bool} (hclean : clean = (Findings.ofReport x.selection x.batch x.report).clean) :
    Attempts (fun st => st.2 = x.acts ++ [.print printed])
      (do
        if !clean && !allow then
          Command.orFail "Failed to roll back import" (host.watched.database.transact .rollback)
          return false
        let records ← (Command.withIds host.watched x.batch : StateM (σ × List Act) _)
        let _ ← Command.orEnd (Command.registryOutcome "Failed to insert individuals") do
          return (← host.watched.database.insert settings.limit records).value
        Command.orFail "Failed to commit import" (host.watched.database.transact .commit)
        return clean : Command.Attempt (StateM (σ × List Act)) Bool)
      (fun _ st => Course env catalog settings request allow st.2)
      (fun st => Course env catalog settings request allow st.2) := by
  have hsearched := (quiet_opening env request x.text).append (quiet_of_answers x.asks.answered)
  have hprinted : Quiet (x.acts ++ [.print printed]) := hsearched.concat rfl
  split
  · have hrollback : Attempts _ (Command.orFail "Failed to roll back import"
        (host.watched.database.transact .rollback)) _ _ :=
      attempts_noting_quiet _ (host.database.transact .rollback) hprinted fun e => rfl
    refine Attempts.bind (hrollback.imp_error fun st h => .unwritten h) fun _ =>
      Attempts.pure fun st hst => ?_
    rw [hst]
    exact .unwritten (hprinted.concat rfl)
  · next hcleared =>
    have hallowed : allow = true ∨ x.Clean := by
      cases allow with
      | true => exact .inl rfl
      | false =>
        have hfindings : (Findings.ofReport x.selection x.batch x.report).clean = true := by
          rw [← hclean]
          simpa using hcleared
        exact .inr (clean_of_findings hfindings)
    refine Attempts.bind (Attempts.lift (ensures_withIds_watched x.batch _)) fun records =>
      Attempts.of_exists fun ids => Attempts.of_imp fun hfilled => ?_
    exact attempts_insert_watched ⟨x, hallowed, printed, ids, records, hfilled⟩ clean

/-- An import takes one of its courses, however the database answers. -/
theorem attempts_runInsert_watched (env : Environment) (catalog : Catalog) (settings : Settings)
    (request : Request) (allow : Bool) :
    Attempts (fun st => st.2 = [])
      (Command.runInsert host.watched env catalog settings request allow)
      (fun _ st => Course env catalog settings request allow st.2)
      (fun st => Course env catalog settings request allow st.2) := by
  have hquiet : ∀ st : σ × List Act, Quiet st.2 → Course env catalog settings request allow st.2 :=
    fun st h => .unwritten h
  unfold Command.runInsert Command.selectionOf
  dsimp only
  cases hselected : (settings.select catalog request.groups request.connective).value with
  | error e =>
    refine Attempts.bind (Q := fun _ _ => False) (Attempts.throw fun st hst => hquiet st ?_)
      fun _ st hst => hst.elim
    rw [hst]
    exact quiet_nil
  | ok s =>
    dsimp only
    rw [pure_bind]
    refine Attempts.bind ((attempts_batchOf_watched request).imp_error hquiet) fun read =>
      Attempts.of_exists fun text => Attempts.of_imp fun hparsed => ?_
    have hread : Quiet [.read request.input (some text)] := quiet_nil.concat rfl
    refine Attempts.bind ((attempts_connect_watched env hread).imp_error hquiet) fun _ => ?_
    have hconnected : Quiet ([.read request.input (some text)] ++
        [.connect (Command.login env) (.ok ())] ++ [.probe Command.probeStatement (.ok ())]) :=
      (hread.concat rfl).concat rfl
    have hbegin : Attempts _ (Command.orFail "Failed to start import transaction"
        (host.watched.database.transact .begin)) _ _ :=
      attempts_noting_quiet _ (host.database.transact .begin) hconnected fun e => rfl
    refine Attempts.bind (hbegin.imp_error hquiet) fun _ => ?_
    change Attempts (fun st : σ × List Act => st.2 = opening env request text) _ _ _
    have hopening := quiet_opening env request text
    have hsearch : Attempts _ (Command.search host.watched.database settings s request.country
        (inCountry request.country read)) _ _ := attempts_search_watched settings hopening
    refine Attempts.bind (hsearch.imp_error hquiet) fun report => Attempts.of_exists fun answers =>
      Attempts.of_exists fun selects => Attempts.of_imp fun hsearched => ?_
    obtain ⟨hasks, rfl⟩ := hsearched
    let x : Searched env catalog settings request :=
      ⟨s, hselected, text, read, hparsed, answers, selects, hasks⟩
    have hprint : Attempts _ (Command.printFindings host.watched s x.batch x.report) _ _ :=
      attempts_printFindings_watched x.report x.acts
    exact Attempts.bind (hprint.imp_error hquiet) fun clean => Attempts.of_imp fun hclean =>
      Attempts.of_exists fun printed => attempts_decide_watched x printed hclean

/-- What an import does outside, in order. -/
def importActs (host : Host (StateM σ)) (env : Environment) (catalog : Catalog)
    (settings : Settings) (request : Request) (allow : Bool) (st : σ) : List Act :=
  ((Command.runInsert host.watched env catalog settings request allow).run.run (st, [])).2.2

theorem course_importActs (host : Host (StateM σ)) (env : Environment) (catalog : Catalog)
    (settings : Settings) (request : Request) (allow : Bool) (st : σ) :
    Course env catalog settings request allow
      (importActs host env catalog settings request allow st) := by
  have hcourse : Attempts _ (Command.runInsert host.watched env catalog settings request allow)
      _ _ := attempts_runInsert_watched env catalog settings request allow
  exact hcourse.state_run rfl

/-! ### Before and behind an act -/

variable {before after early rest : List Act} {act last : Act}

/-- What writes stands behind what is quiet. -/
theorem exists_of_quiet_append (hearly : Quiet early) (hact : act.writes = true)
    (h : early ++ rest = before ++ act :: after) :
    ∃ between, before = early ++ between ∧ rest = between ++ act :: after := by
  rcases List.append_eq_append_iff.1 h with ⟨between, hbefore, hrest⟩ | ⟨left, hleft, hrest⟩
  · exact ⟨between, hbefore, hrest⟩
  · cases left with
    | nil => exact ⟨[], by simp [hleft], hrest.symm⟩
    | cons a left =>
      have hmem : act ∈ early := by
        rw [hleft, (List.cons.inj hrest).1]
        simp
      rw [hearly act hmem] at hact
      cases hact

/-- An act among the inserts is one of them or the last act. -/
theorem wrote_append_cases {sent : List (List Record × Nat)}
    (h : Database.wrote sent ++ [last] = before ++ act :: after) :
    ∃ done left, sent = done ++ left ∧ before = Database.wrote done ∧
      (left = [] ∧ act = last ∧ after = [] ∨
        ∃ statement n, act = .execute statement (.ok n) ∧
          ∃ later, after = Database.wrote later ++ [last]) := by
  rcases List.eq_nil_or_concat after with rfl | ⟨later, z, rfl⟩
  · obtain ⟨hwrote, hlast⟩ := List.append_inj' h rfl
    exact ⟨sent, [], (List.append_nil sent).symm, hwrote.symm,
      .inl ⟨rfl, (List.cons.inj hlast).1.symm, rfl⟩⟩
  · rw [List.concat_eq_append] at h ⊢
    rw [← List.cons_append, ← List.append_assoc] at h
    obtain ⟨hwrote, hlast⟩ := List.append_inj' h rfl
    obtain ⟨done, left, rfl, rfl, hleft⟩ := List.map_eq_append_iff.1 hwrote
    obtain ⟨⟨chunk, n⟩, left', rfl, rfl, rfl⟩ := List.map_eq_cons_iff.1 hleft
    refine ⟨done, _, rfl, rfl, .inr ⟨_, n, rfl, left', ?_⟩⟩
    rw [hlast]
    rfl

theorem isSelect_wrote_append {sent : List (List Record × Nat)} (hlast : last.isSelect = false) :
    ∀ act ∈ Database.wrote sent ++ [last], act.isSelect = false := by
  refine List.forall_mem_append.2 ⟨fun act hact => ?_, List.forall_mem_singleton.2 hlast⟩
  obtain ⟨_, -, rfl⟩ := List.mem_map.1 hact
  rfl

/-- An act of an insert that was stopped is a statement behind statements that wrote. -/
theorem cases_of_inserted_error {chunks : List (List Record)} {e : StoreError}
    (h : Database.Inserted chunks (.error e) (before ++ act :: after)) :
    ∃ done, before = Database.wrote done ∧ (∃ statement answer, act = .execute statement answer) ∧
      ∀ a ∈ after, a.isSelect = false := by
  have hcases : ∀ (sent : List (List Record × Nat)) (statement : Sql.Statement)
      (answer : Except String Nat),
      Database.wrote sent ++ [.execute statement answer] = before ++ act :: after →
        ∃ done, before = Database.wrote done ∧
          (∃ statement answer, act = .execute statement answer) ∧
          ∀ a ∈ after, a.isSelect = false := by
    intro sent statement answer hacts
    obtain ⟨done, left, rfl, rfl, ⟨-, rfl, rfl⟩ | ⟨statement', n, rfl, later, rfl⟩⟩ :=
      wrote_append_cases hacts
    · exact ⟨done, rfl, ⟨statement, answer, rfl⟩, by simp⟩
    · exact ⟨done, rfl, ⟨statement', .ok n, rfl⟩, isSelect_wrote_append rfl⟩
  generalize hacts : before ++ act :: after = acts at h
  cases h with
  | refused sent chunk _ reason => exact hcases sent _ _ hacts.symm
  | overflowed sent chunk _ n _ => exact hcases sent _ _ hacts.symm

/-- What an act that writes can be, and what stands before it and behind it. -/
theorem Course.cases_writes {acts : List Act}
    (h : Course env catalog settings request allow acts) (hacts : acts = before ++ act :: after)
    (hact : act.writes = true) :
    ∃ (p : Prepared env catalog settings request allow) (done : List (List Record × Nat)),
      before = p.allActs ++ Database.wrote done ∧
      ((∃ statement answer, act = .execute statement answer) ∧ (∀ a ∈ after, a.isSelect = false) ∨
        after = [] ∧ ∃ answer, act = .transact .commit answer ∧
          Database.insertChunks settings.limit p.records = .ok (done.map (·.1))) := by
  cases h with
  | unwritten hquiet =>
    have hfalse := hquiet act (hacts ▸ by simp)
    rw [hact] at hfalse
    cases hfalse
  | stopped p chunks _ e more hinserted =>
    obtain ⟨between, rfl, rfl⟩ := exists_of_quiet_append (quiet_allActs p) hact hacts
    obtain ⟨done, rfl, hexecute, hafter⟩ := cases_of_inserted_error hinserted
    exact ⟨p, done, rfl, .inl ⟨hexecute, hafter⟩⟩
  | committed p sent hsent answer =>
    rw [List.append_assoc] at hacts
    obtain ⟨between, rfl, hrest⟩ := exists_of_quiet_append (quiet_allActs p) hact hacts
    obtain ⟨done, left, rfl, rfl, ⟨rfl, rfl, rfl⟩ | ⟨statement, n, rfl, later, rfl⟩⟩ :=
      wrote_append_cases hrest
    · rw [List.append_nil] at hsent
      exact ⟨p, done, rfl, .inr ⟨rfl, answer, rfl, hsent⟩⟩
    · exact ⟨p, done, rfl, .inl ⟨⟨statement, .ok n, rfl⟩, isSelect_wrote_append rfl⟩⟩

/-! ### What the acts before an insert show -/

theorem succeeded_allActs (p : Prepared env catalog settings request allow) :
    ∀ act ∈ p.allActs, act.succeeded = true := by
  have hopening : ∀ act ∈ opening env request p.text, act.succeeded = true := by
    simp [opening, Act.succeeded, Except.isOk, Except.toBool]
  have hselects : ∀ act ∈ p.selects, act.succeeded = true := by
    intro act hact
    obtain ⟨answer, -, rows, rfl, hrows⟩ := exists_of_forall₂ p.asks.answered hact
    show (Row.records rows).isOk = true
    rw [hrows]
    rfl
  have hids : ∀ act ∈ p.ids.map Act.newId, act.succeeded = true := by
    intro act hact
    obtain ⟨id, -, rfl⟩ := List.mem_map.1 hact
    rfl
  intro act hact
  rcases List.mem_append.1 hact with hact | hact
  · rcases List.mem_append.1 hact with hact | hact
    · rcases List.mem_append.1 hact with hact | hact
      · exact hopening act hact
      · exact hselects act hact
    · rw [List.mem_singleton.1 hact]
      rfl
  · exact hids act hact

theorem succeeded_before (p : Prepared env catalog settings request allow)
    (done : List (List Record × Nat)) :
    ∀ act ∈ p.allActs ++ Database.wrote done, act.succeeded = true :=
  List.forall_mem_append.2 ⟨succeeded_allActs p, fun _ => Database.succeeded_wrote⟩

/-- Acts have one reading as answers to chunks. -/
theorem answers_unique {country : String} {as bs : List (List Lookup.Probe × List Record)}
    {selects : List Act} (ha : List.Forall₂ (Answers country) as selects)
    (hb : List.Forall₂ (Answers country) bs selects) (h : as.map (·.1) = bs.map (·.1)) : as = bs := by
  induction ha generalizing bs with
  | nil => exact (List.forall₂_nil_right_iff.1 hb).symm
  | @cons a act as selects haact _ ih =>
    obtain ⟨b, bs, hbact, hbs, rfl⟩ := List.forall₂_cons_right_iff.1 hb
    obtain ⟨hchunk, hrest⟩ := List.cons.inj h
    obtain ⟨rows, rfl, hrows⟩ := haact
    obtain ⟨rows', e, hrows'⟩ := hbact
    injection e with _ e
    cases e
    have hrecords : a.2 = b.2 := Except.ok.inj (hrows.symm.trans hrows')
    rw [ih hbs hrest, Prod.ext hchunk hrecords]

/-- The acts of an import show one search. -/
theorem Searched.unique {acts : List Act} {x y : Searched env catalog settings request}
    (hx : x.acts <+: acts) (hy : y.acts <+: acts) : x.batch = y.batch ∧ x.report = y.report := by
  obtain ⟨later, hx⟩ := hx
  obtain ⟨later', hy⟩ := hy
  have hacts := hx.trans hy.symm
  unfold Searched.acts at hacts
  have hselection : x.selection = y.selection :=
    Except.ok.inj (x.selected.symm.trans y.selected)
  have htext : x.text = y.text := by
    injection hacts with hread _
    injection hread with _ htext
    exact Option.some.inj htext
  have hread : x.read = y.read := by
    have hparsed := x.parsed
    rw [htext, y.parsed] at hparsed
    exact (Option.some.inj hparsed).symm
  have hchunks : x.answers.map (·.1) = y.answers.map (·.1) := by
    have hplanned := x.asks.planned
    rw [hselection, hread, y.asks.planned] at hplanned
    exact (Except.ok.inj hplanned).symm
  have hselects : x.selects = y.selects := by
    rw [htext, List.append_assoc, List.append_assoc] at hacts
    refine (List.append_inj (List.append_cancel_left hacts) ?_).1
    rw [← x.asks.answered.length_eq, ← y.asks.answered.length_eq]
    simpa using congrArg List.length hchunks
  have hanswers : x.answers = y.answers :=
    answers_unique x.asks.answered (hselects ▸ y.asks.answered) hchunks
  unfold Searched.report Searched.batch
  rw [hselection, hread, hanswers]
  exact ⟨rfl, rfl⟩

/-- A commit is the last act, all acts before it went well, and what they wrote is the batch. -/
theorem Course.of_commit {acts : List Act} {answer : Except String Unit}
    (h : Course env catalog settings request allow acts)
    (hacts : acts = before ++ .transact .commit answer :: after) :
    after = [] ∧ ∃ (p : Prepared env catalog settings request allow)
      (sent : List (List Record × Nat)), before = p.allActs ++ Database.wrote sent ∧
        sent.flatMap (·.1) = p.records.map Record.normalize := by
  obtain ⟨p, sent, rfl, hcases⟩ := h.cases_writes hacts rfl
  rcases hcases with ⟨⟨_, _, e⟩, -⟩ | ⟨rfl, _, -, hsent⟩
  · cases e
  · refine ⟨rfl, p, sent, rfl, ?_⟩
    rw [List.flatMap_def]
    exact Database.flatten_insertChunks hsent

/-- **Imports write only what they may, and all or nothing.** Whatever the database answers, an
insert is executed only behind a search that asked for all its chunks and was answered each time, if
duplicates are allowed or the search was clean, and nothing is asked behind it. A commit comes last,
behind acts that all went well; the statements executed before it write the normal forms of the
batch, in order and each once, for the country of the request, with their own ids, or with new ids
where they have none. So where anything fails before the commit, or a search that is not clean comes
without leave, there is no commit. -/
theorem acts_atomic (host : Host (StateM σ)) (env : Environment) (catalog : Catalog)
    (settings : Settings) (request : Request) (allow : Bool) (st : σ) :
    (∀ before statement answer after,
      importActs host env catalog settings request allow st =
        before ++ .execute statement answer :: after →
      (∀ act ∈ before, act.succeeded = true) ∧ (∀ act ∈ after, act.isSelect = false) ∧
        ∃ (p : Prepared env catalog settings request allow) (done : List (List Record × Nat)),
          before = p.allActs ++ Database.wrote done ∧
            (allow = true ∨ Batch.sharedIds p.batch = [] ∧ p.report.hasDuplicates = false)) ∧
    (∀ before answer after,
      importActs host env catalog settings request allow st =
        before ++ .transact .commit answer :: after →
      (∀ act ∈ before, act.succeeded = true) ∧ after = [] ∧
        ∃ (p : Prepared env catalog settings request allow) (sent : List (List Record × Nat)),
          before = p.allActs ++ Database.wrote sent ∧
            (allow = true ∨ Batch.sharedIds p.batch = [] ∧ p.report.hasDuplicates = false) ∧
            sent.flatMap (·.1) = p.records.map Record.normalize ∧
            Filled (p.read.map fun r => { r with country := request.country }) p.ids p.records) ∧
    (∀ act ∈ importActs host env catalog settings request allow st, act.succeeded = false →
      (∀ answer, act ≠ .transact .commit answer) →
      ∀ answer, .transact .commit answer ∉ importActs host env catalog settings request allow st) ∧
    (allow = false → ∀ x : Searched env catalog settings request,
      x.acts <+: importActs host env catalog settings request allow st →
      Batch.sharedIds x.batch ≠ [] ∨ x.report.hasDuplicates = true →
      ∀ answer, .transact .commit answer ∉
        importActs host env catalog settings request allow st) := by
  have hcourse := course_importActs host env catalog settings request allow st
  generalize importActs host env catalog settings request allow st = acts at hcourse ⊢
  refine ⟨?_, ?_, ?_, ?_⟩
  · intro before statement answer after hacts
    obtain ⟨p, done, rfl, hcases⟩ := hcourse.cases_writes hacts rfl
    refine ⟨succeeded_before p done, ?_, p, done, rfl, p.cleared⟩
    rcases hcases with ⟨-, hafter⟩ | ⟨-, _, e, -⟩
    · exact hafter
    · cases e
  · intro before answer after hacts
    obtain ⟨rfl, p, sent, rfl, hsent⟩ := hcourse.of_commit hacts
    exact ⟨succeeded_before p sent, rfl, p, sent, rfl, p.cleared, hsent, p.filled⟩
  · intro act hact hfailed hother answer hcommit
    obtain ⟨before, after, hacts⟩ := List.append_of_mem hcommit
    obtain ⟨rfl, p, sent, rfl, -⟩ := hcourse.of_commit hacts
    rw [hacts] at hact
    rcases List.mem_append.1 hact with hact | hact
    · rw [succeeded_before p sent act hact] at hfailed
      cases hfailed
    · exact hother answer (List.mem_singleton.1 hact)
  · rintro rfl x hx hfound answer hcommit
    obtain ⟨before, after, hacts⟩ := List.append_of_mem hcommit
    obtain ⟨rfl, p, sent, rfl, -⟩ := hcourse.of_commit hacts
    have hp : p.acts <+: acts := by
      rw [hacts]
      unfold Prepared.allActs
      simp only [List.append_assoc]
      exact List.prefix_append _ _
    obtain ⟨hbatch, hreport⟩ := Searched.unique hx hp
    rcases p.cleared with h | ⟨hids, hduplicates⟩
    · cases h
    · rw [hbatch, hreport, hids, hduplicates] at hfound
      simp at hfound

def fromFile : Request := ⟨home, "batch.json", none, none⟩

def actsOf (text : String) : List Act :=
  importActs (Table.host text) [] addresses fewValues fromFile false nobody

/-- A batch with an id that no table of identifiers takes. -/
def batchOfStray : String := "[\x7b\"id\": \"x\"\x7d]"

/-- A batch of two rows with one id. -/
def batchOfTwins : String := "[\x7b\"id\": \"x\"\x7d, \x7b\"id\": \" x\"\x7d]"

/-- The search of the twins, who have no address to ask for. -/
def searchOfTwins : Searched [] addresses fewValues fromFile where
  selection := sameAddresses
  selected := by decide +kernel
  text := batchOfTwins
  read := [{ Record.blank with id := "x" }, { Record.blank with id := " x" }]
  parsed := by decide +kernel
  answers := []
  selects := []
  asks := ⟨by rfl, .nil⟩

/-- Ann gets in by a commit behind one insert. A stray id is refused, and twins are found out; then
there is no commit. -/
theorem acts_atomic_ann :
    (∃ before after,
      actsOf batchOfAnn = before ++ .execute (Sql.insert [rowForAnn]) (.ok 1) :: after ∧
        ∀ act ∈ after, act.isSelect = false) ∧
    (∃ (p : Prepared [] addresses fewValues fromFile false) (sent : List (List Record × Nat)),
      actsOf batchOfAnn = p.allActs ++ Database.wrote sent ++ [.transact .commit (.ok ())] ∧
        sent.flatMap (·.1) = p.records.map Record.normalize) ∧
    (∀ answer, .transact .commit answer ∉ actsOf batchOfStray) ∧
    Batch.sharedIds searchOfTwins.batch = [⟨"x", [0, 1]⟩] ∧
    ∀ answer, .transact .commit answer ∉ actsOf batchOfTwins := by
  have hatomic (text : String) := acts_atomic (Table.host text) [] addresses fewValues fromFile
    false nobody
  refine ⟨?_, ?_, ?_, ?_⟩
  · have hmem : .execute (Sql.insert [rowForAnn]) (.ok 1) ∈ actsOf batchOfAnn := by decide +kernel
    obtain ⟨before, after, hacts⟩ := List.append_of_mem hmem
    exact ⟨before, after, hacts, ((hatomic batchOfAnn).1 before _ _ after hacts).2.1⟩
  · have hcommit : (actsOf batchOfAnn).getLast? = some (.transact .commit (.ok ())) := by
      decide +kernel
    obtain ⟨before, hacts⟩ := List.getLast?_eq_some_iff.1 hcommit
    obtain ⟨-, -, p, sent, rfl, -, hsent, -⟩ := (hatomic batchOfAnn).2.1 before _ [] hacts
    exact ⟨p, sent, hacts, hsent⟩
  · have hrefused : .execute (Sql.insert [{ Record.blank with id := "x", country := home }])
        (.error "refused") ∈ actsOf batchOfStray := by decide +kernel
    exact (hatomic batchOfStray).2.2.1 _ hrefused rfl fun answer h => by cases h
  · have hshared : Batch.sharedIds searchOfTwins.batch = [⟨"x", [0, 1]⟩] := by decide +kernel
    have hshown : searchOfTwins.acts <+: actsOf batchOfTwins := by decide +kernel
    refine ⟨hshared, (hatomic batchOfTwins).2.2.2 rfl searchOfTwins hshown (.inl ?_)⟩
    rw [hshared]
    simp

end Registrar.Import
