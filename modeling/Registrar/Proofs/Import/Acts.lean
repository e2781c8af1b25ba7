import Registrar.Command.Run
import Registrar.Proofs.Import.Run
import Registrar.Proofs.Lookup.Dialogue
import Registrar.Proofs.Registry.Acts

/-!
The acts of an import, step by step. Each step of an import on a watched host adds its acts to those
before it: the file is read, the database is connected to and a transaction begun, the lookup asks
its queries, the findings are printed, and new ids are given.
-/

namespace Registrar

variable {σ : Type}

/-- The host with a list of what was done with it. -/
def Host.watched (host : Host (StateM σ)) : Host (StateM (σ × List Act)) where
  fileText path := noting (.read path) (host.fileText path)
  print text := noting (fun _ => .print text) (host.print text)
  newId := noting .newId host.newId
  database := host.database.watched

namespace Import

variable {host : Host (StateM σ)} {db : Database (StateM σ)} {acts : List Act}

theorem attempts_noting {ε α : Type} (message : String) (note : Except ε α → Act)
    (x : StateM σ (Except ε α)) (acts : List Act) :
    Attempts (fun st => st.2 = acts) (Command.orFail message (noting note x))
      (fun a st => st.2 = acts ++ [note (.ok a)])
      (fun st => ∃ e, st.2 = acts ++ [note (.error e)]) := by
  refine attempts_orEnd ((ensures_noting note x acts).imp fun outcome st h => ?_)
  refine ⟨fun a ha => ha ▸ h, fun e he => ⟨e, he ▸ h⟩⟩

/-- A step that writes nothing leaves quiet what was quiet, if it fails. -/
theorem attempts_noting_quiet {ε α : Type} (message : String) {note : Except ε α → Act}
    (x : StateM σ (Except ε α)) (hacts : Quiet acts) (hnote : ∀ e, (note (.error e)).writes = false) :
    Attempts (fun st => st.2 = acts) (Command.orFail message (noting note x))
      (fun a st => st.2 = acts ++ [note (.ok a)]) (fun st => Quiet st.2) := by
  refine (attempts_noting message note x acts).imp_error ?_
  rintro st ⟨e, he⟩
  rw [he]
  exact hacts.concat (hnote e)

/-! ### Before the search -/

/-- What an import does until it searches, once it has got the text of its file. -/
def opening (env : Environment) (request : Request) (text : String) : List Act :=
  [.read request.input (some text), .connect (Command.login env) (.ok ()),
    .probe Command.probeStatement (.ok ()), .transact .begin (.ok ())]

theorem quiet_opening (env : Environment) (request : Request) (text : String) :
    Quiet (opening env request text) := by
  simp [Quiet, opening, Act.writes]

theorem attempts_batchOf_watched (request : Request) :
    Attempts (fun st => st.2 = []) (Command.batchOf host.watched request)
      (fun read st => ∃ text, st.2 = [.read request.input (some text)] ∧
        Batch.read? text = some read) (fun st => Quiet st.2) := by
  have hquiet : ∀ text, Quiet [.read request.input text] := fun text =>
    List.forall_mem_singleton.2 rfl
  unfold Command.batchOf
  refine Attempts.bind (Attempts.lift (ensures_noting _ _ [])) fun text => ?_
  cases text with
  | none => exact Attempts.throw fun st hst => hst ▸ hquiet none
  | some text =>
    dsimp only
    split
    · next read hread => exact Attempts.pure fun st hst => ⟨text, hst, hread⟩
    · exact Attempts.throw fun st hst => hst ▸ hquiet (some text)

theorem attempts_connect_watched (env : Environment) (hacts : Quiet acts) :
    Attempts (fun st => st.2 = acts) (Command.connect db.watched env)
      (fun _ st => st.2 = acts ++ [.connect (Command.login env) (.ok ())] ++
        [.probe Command.probeStatement (.ok ())])
      (fun st => Quiet st.2) := by
  refine Attempts.bind (attempts_noting_quiet _ _ hacts fun e => rfl) fun _ => ?_
  exact attempts_noting_quiet _ _ (hacts.concat rfl) fun e => rfl

/-! ### The search -/

/-- The statement of a query; the country is its first value. -/
def queryStatement (country : String) (c : Criterion) : Sql.Statement :=
  ⟨(Sql.select c).text, country :: (Sql.select c).values⟩

/-- The act asks for the chunk and gets its rows. -/
def Answers (country : String) (answer : List Lookup.Probe × List Record) (act : Act) : Prop :=
  ∃ rows, act = .select (queryStatement country (Lookup.request answer.1)) (.ok rows) ∧
    Row.records rows = .ok answer.2

/-- The acts ask for all chunks of a lookup, in order, and get these answers. -/
structure AsksFor (limit : Nat) (s : Selection) (country : String) (batch : List Record)
    (answers : List (List Lookup.Probe × List Record)) (selects : List Act) : Prop where
  planned : Lookup.chunks limit s batch = .ok (answers.map (·.1))
  answered : List.Forall₂ (Answers country) answers selects

variable {country : String} {s : Selection} {batch : List Record} {limit : Nat}

theorem ensures_find_watched (c : Criterion) (acts : List Act) :
    Ensures (fun st => st.2 = acts) ((db.watched.registry limit).find country c) fun answer st =>
      (∀ records, answer.value = .ok records → ∃ rows, Row.records rows = .ok records ∧
        st.2 = acts ++ [.select (queryStatement country c) (.ok rows)]) ∧
      ∀ e, answer.value = .error e → ∃ more, st.2 = acts ++ more ∧ Quiet more := by
  unfold Database.registry
  dsimp only
  split
  · refine Ensures.pure fun st hst => ⟨fun records h => by simp [Noted.quiet] at h, fun e _ => ?_⟩
    exact ⟨[], by rw [hst, List.append_nil], quiet_nil⟩
  · refine Ensures.bind (ensures_noting _ _ acts) fun outcome => ?_
    cases outcome with
    | error reason =>
      refine Ensures.pure fun st hst => ⟨fun records h => by simp at h, fun e _ => ?_⟩
      exact ⟨_, hst, List.forall_mem_singleton.2 rfl⟩
    | ok rows =>
      dsimp only
      split
      · refine Ensures.pure fun st hst => ⟨fun records h => by simp at h, fun e _ => ?_⟩
        exact ⟨_, hst, List.forall_mem_singleton.2 rfl⟩
      · next records hrecords =>
        refine Ensures.pure fun st hst => ⟨fun records' h => ?_, fun e h => by simp at h⟩
        cases h
        exact ⟨rows, hrecords, hst⟩

theorem quiet_of_answers {answers : List (List Lookup.Probe × List Record)} {selects : List Act}
    (h : List.Forall₂ (Answers country) answers selects) : Quiet selects := by
  induction h with
  | nil => exact quiet_nil
  | cons ha _ ih =>
    obtain ⟨rows, rfl, -⟩ := ha
    exact List.forall_mem_cons.2 ⟨rfl, ih⟩

/-- A lookup that ends with lists has asked for its chunks, one after another, and each was
answered. -/
theorem ensures_run_watched (hacts : Quiet acts) :
    Ensures (fun st => st.2 = acts) (Lookup.run (db.watched.registry limit) s country batch)
      fun found st =>
        (∀ lists, found.value = .ok lists → ∃ answers selects, st.2 = acts ++ selects ∧
          AsksFor limit s country batch answers selects ∧ lists = Lookup.shareOut batch answers) ∧
        ∀ e, found.value = .error e → Quiet st.2 := by
  cases hplan : (Lookup.plan limit s batch).value with
  | error e =>
    obtain ⟨events, hrun⟩ := @Lookup.run_of_plan_eq_error _ (db.watched.registry limit) country s
      batch e hplan
    rw [hrun]
    exact Ensures.pure fun st hst => ⟨fun lists h => by simp at h, fun e _ => hst ▸ hacts⟩
  | ok probes =>
    have answered := @Lookup.ensures_run_answers _ (db.watched.registry limit) country s batch probes
      (fun answers st => ∃ selects, st.2 = acts ++ selects ∧
        List.Forall₂ (Answers country) answers selects) (fun _ st => Quiet st.2) hplan
      (by
        rintro chunks - done chunk - st ⟨selects, hst, hdone⟩
        obtain ⟨hok, herr⟩ := ensures_find_watched (Lookup.request chunk) (acts ++ selects) st hst
        refine ⟨fun records hrecords => ?_, fun e he => ?_⟩
        · obtain ⟨rows, hrows, hselect⟩ := hok records hrecords
          rw [hselect, List.append_assoc]
          exact ⟨_, rfl, List.rel_append hdone (.cons ⟨rows, rfl, hrows⟩ .nil)⟩
        · obtain ⟨more, hmore, hquiet⟩ := herr e he
          rw [hmore]
          exact (hacts.append (quiet_of_answers hdone)).append hquiet)
    refine answered.mono (fun st hst => ⟨[], by rw [hst, List.append_nil], .nil⟩) fun found st h => ?_
    refine ⟨fun lists hlists => ?_, fun e he => ?_⟩
    · obtain ⟨answers, ⟨selects, hst, hselects⟩, hlists, hcut⟩ := h.1 lists hlists
      refine ⟨answers, selects, hst, ⟨?_, hselects⟩, hlists⟩
      rw [Lookup.chunks_eq, hplan]
      exact hcut
    · rcases h.2 e he with hquiet | ⟨⟨selects, hst, hselects⟩, -⟩
      · exact hquiet
      · rw [hst]
        exact hacts.append (quiet_of_answers hselects)

/-- A search that ends with a report has asked for all chunks of its lookup, and the report is what
the answers make. -/
theorem ensures_search_watched (hacts : Quiet acts) :
    Ensures (fun st => st.2 = acts) (Report.search (db.watched.registry limit) s country batch)
      fun found st =>
        (∀ report, found.value = .ok report → ∃ answers selects, st.2 = acts ++ selects ∧
          AsksFor limit s country batch answers selects ∧
          report = ⟨Batch.scan s batch, Lookup.shareOut batch answers⟩) ∧
        ∀ e, found.value = .error e → Quiet st.2 := by
  unfold Report.search
  dsimp only
  refine Ensures.bind (ensures_run_watched hacts) fun found => ?_
  obtain ⟨events, value⟩ := found
  cases value with
  | error e =>
    exact Ensures.pure fun st hst => ⟨fun report h => by simp at h, fun _ _ => hst.2 e rfl⟩
  | ok lists =>
    refine Ensures.pure fun st hst => ⟨fun report h => ?_, fun e h => by simp at h⟩
    cases h
    obtain ⟨answers, selects, hselects, hasks, rfl⟩ := hst.1 lists rfl
    exact ⟨answers, selects, hselects, hasks, rfl⟩

theorem attempts_search_watched (settings : Settings) (hacts : Quiet acts) :
    Attempts (fun st => st.2 = acts) (Command.search db.watched settings s country batch)
      (fun report st => ∃ answers selects, st.2 = acts ++ selects ∧
        AsksFor settings.limit s country batch answers selects ∧
        report = ⟨Batch.scan s batch, Lookup.shareOut batch answers⟩)
      (fun st => Quiet st.2) :=
  attempts_orEnd (Ensures.bind (ensures_search_watched hacts) fun _ =>
    Ensures.pure fun _ hst => hst)

theorem attempts_printFindings_watched (report : Report) (acts : List Act) :
    Attempts (fun st => st.2 = acts) (Command.printFindings host.watched s batch report)
      (fun clean st => (∃ text, st.2 = acts ++ [.print text]) ∧
        clean = (Findings.ofReport s batch report).clean) (fun st => Quiet st.2) := by
  have hprint (text : String) : Ensures (fun st => st.2 = acts) (host.watched.print text)
      fun _ st => st.2 = acts ++ [.print text] := ensures_noting _ _ acts
  refine Attempts.bind (Attempts.lift (hprint _)) fun _ => ?_
  exact Attempts.pure fun st hst => ⟨⟨_, hst⟩, rfl⟩

/-! ### New ids -/

/-- The records are those of the batch, in order, each with the id that it has, or with the next of
the new ids if it has none. All new ids are used up. -/
inductive Filled : List Record → List String → List Record → Prop
  | nil : Filled [] [] []
  | known {r : Record} {rs : List Record} {ids : List String} {records : List Record}
      (hid : Batch.knownId r ≠ "") (h : Filled rs ids records) :
      Filled (r :: rs) ids (r :: records)
  | blank {r : Record} {rs : List Record} {id : String} {ids : List String} {records : List Record}
      (hid : Batch.knownId r = "") (h : Filled rs ids records) :
      Filled (r :: rs) (id :: ids) ({ r with id := id } :: records)

theorem ensures_withIds_watched (batch : List Record) (acts : List Act) :
    Ensures (fun st => st.2 = acts) (Command.withIds host.watched batch) fun records st =>
      ∃ ids, st.2 = acts ++ ids.map .newId ∧ Filled batch ids records := by
  induction batch generalizing acts with
  | nil => exact Ensures.pure fun st hst => ⟨[], by rw [hst, List.map_nil, List.append_nil], .nil⟩
  | cons r rs ih =>
    have goOn : ∀ (r' : Record) (acts : List Act), Ensures (fun st => st.2 = acts)
        (do return r' :: (← Command.withIds host.watched rs)) fun records st =>
          ∃ ids rest, st.2 = acts ++ ids.map .newId ∧ records = r' :: rest ∧ Filled rs ids rest := by
      intro r' acts
      refine Ensures.bind (ih acts) fun rest => Ensures.pure fun st hst => ?_
      obtain ⟨ids, hids, hfilled⟩ := hst
      exact ⟨ids, rest, hids, rfl, hfilled⟩
    unfold Command.withIds
    dsimp only
    split
    · next hid =>
      refine Ensures.bind (Q := fun r' st => ∃ id, r' = { r with id := id } ∧
        st.2 = acts ++ [.newId id]) ?_ fun r' => ?_
      · refine Ensures.bind (ensures_noting _ _ acts) fun id => Ensures.pure fun st hst => ?_
        exact ⟨id, rfl, hst⟩
      · rintro st ⟨id, rfl, hst⟩
        obtain ⟨ids, rest, hids, hrecords, hfilled⟩ := goOn _ _ st hst
        refine ⟨id :: ids, ?_, ?_⟩
        · rw [hids, List.append_assoc]
          rfl
        · rw [hrecords]
          exact .blank hid hfilled
    · next hid =>
      refine (goOn r acts).imp fun records st hst => ?_
      obtain ⟨ids, rest, hids, rfl, hfilled⟩ := hst
      exact ⟨ids, hids, .known hid hfilled⟩

end Import

end Registrar
