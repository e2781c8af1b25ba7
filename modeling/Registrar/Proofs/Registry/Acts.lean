import Registrar.Proofs.Chunks
import Registrar.Registry.Table

/-!
What is done outside, in order. A watched database keeps a list of what was done with it and what
came of it; otherwise it does what the database does. An insert executes the statements of its
chunks in turn and stops behind the first one that fails (`Inserted`).
-/

namespace Registrar

/-- Something that was done outside, with what came of it. -/
inductive Act
  | read (path : String) (text : Option String)
  | print (text : String)
  | newId (id : String)
  | connect (login : Login) (answer : Except String Unit)
  | probe (statement : Sql.Statement) (answer : Except String Unit)
  | select (statement : Sql.Statement) (answer : Except String (List Row))
  | execute (statement : Sql.Statement) (answer : Except String Nat)
  | transact (t : Transaction) (answer : Except String Unit)
  deriving DecidableEq

namespace Act

/-- The act did not fail. A query whose rows make no sense has failed. -/
def succeeded : Act → Bool
  | read _ text => text.isSome
  | print _ | newId _ => true
  | connect _ answer | probe _ answer | transact _ answer => answer.isOk
  | select _ answer => (answer >>= Row.records).isOk
  | execute _ answer => answer.isOk

def isSelect : Act → Bool
  | select .. => true
  | _ => false

/-- The statement of an act that asks for rows. -/
def selected? : Act → Option Sql.Statement
  | select statement _ => some statement
  | _ => none

def executed? : Act → Option Sql.Statement
  | execute statement _ => some statement
  | _ => none

/-- The act writes rows, or makes what was written last. -/
def writes : Act → Bool
  | execute .. | transact .commit _ => true
  | _ => false

/-- How many rows an act wrote, by the count of the database. -/
def count : Act → Nat
  | execute _ (.ok n) => n
  | _ => 0

end Act

/-- Nothing stops an insert with these acts: none fails, and the counts add up to a word. -/
structure Unbroken (acts : List Act) : Prop where
  succeeded : ∀ act ∈ acts, act.succeeded = true
  word : (acts.map Act.count).sum < UInt64.size

/-- Nothing is written by the acts. -/
def Quiet (acts : List Act) : Prop := ∀ act ∈ acts, act.writes = false

theorem quiet_nil : Quiet [] := by simp [Quiet]

theorem Quiet.append {acts acts' : List Act} (h : Quiet acts) (h' : Quiet acts') :
    Quiet (acts ++ acts') :=
  List.forall_mem_append.2 ⟨h, h'⟩

theorem Quiet.concat {acts : List Act} {act : Act} (h : Quiet acts) (hact : act.writes = false) :
    Quiet (acts ++ [act]) :=
  h.append (List.forall_mem_singleton.2 hact)

variable {σ α : Type}

/-- The action, and a note of what came of it. -/
def noting (note : α → Act) (x : StateM σ α) : StateM (σ × List Act) α := do
  let (st, acts) ← get
  let (a, st') := x.run st
  set (st', acts ++ [note a])
  return a

theorem ensures_noting (note : α → Act) (x : StateM σ α) (acts : List Act) :
    Ensures (fun st => st.2 = acts) (noting note x) fun a st => st.2 = acts ++ [note a] := by
  rintro ⟨st, _⟩ rfl
  rfl

namespace Database

/-- The database with a list of what was done with it. -/
def watched (db : Database (StateM σ)) : Database (StateM (σ × List Act)) where
  connect login := noting (.connect login) (db.connect login)
  probe statement := noting (.probe statement) (db.probe statement)
  select statement := noting (.select statement) (db.select statement)
  execute statement := noting (.execute statement) (db.execute statement)
  transact t := noting (.transact t) (db.transact t)

/-! ### Inserts -/

/-- The records that one statement of an insert writes, statement by statement, or why there is
none. -/
def insertChunks (limit : Nat) (records : List Record) : Except CutError (List (List Record)) :=
  if records.isEmpty then .ok []
  else Chunks.cut (limit / Sql.valuesPerRecord) (fun _ => 1) (records.map Record.normalize)

/-- The statements that wrote chunks, with the counts of the rows. -/
def wrote (sent : List (List Record × Nat)) : List Act :=
  sent.map fun (chunk, n) => .execute (Sql.insert chunk) (.ok n)

variable {db : Database (StateM σ)} {limit : Nat} {records : List Record} {acts : List Act}

theorem flatten_insertChunks {chunks : List (List Record)}
    (h : insertChunks limit records = .ok chunks) :
    chunks.flatten = records.map Record.normalize := by
  unfold insertChunks at h
  split at h
  · next hempty =>
    cases h
    rw [List.isEmpty_iff.1 hempty]
    rfl
  · exact Chunks.flatten_cut h

theorem length_le_of_insertChunks {chunks : List (List Record)}
    (h : insertChunks limit records = .ok chunks) :
    ∀ chunk ∈ chunks, chunk.length ≤ limit / Sql.valuesPerRecord := by
  unfold insertChunks at h
  split at h
  · cases h
    simp
  · intro chunk hchunk
    have hsum := Chunks.sum_le_of_cut h chunk hchunk
    rwa [Chunks.sum_map_one] at hsum

theorem length_values_le {chunks : List (List Record)}
    (h : insertChunks limit records = .ok chunks) {chunk : List Record} (hchunk : chunk ∈ chunks) :
    (Sql.insert chunk).values.length ≤ limit := by
  rw [Sql.length_values_insert]
  calc chunk.length * Sql.valuesPerRecord
      ≤ limit / Sql.valuesPerRecord * Sql.valuesPerRecord :=
        Nat.mul_le_mul_right _ (length_le_of_insertChunks h chunk hchunk)
    _ ≤ limit := Nat.div_mul_le_self limit Sql.valuesPerRecord

theorem ne_nil_of_insertChunks {chunks : List (List Record)}
    (h : insertChunks limit records = .ok chunks) : ∀ chunk ∈ chunks, chunk ≠ [] := by
  unfold insertChunks at h
  split at h
  · cases h
    simp
  · exact Chunks.ne_nil_of_mem_cut h

theorem executed_wrote (sent : List (List Record × Nat)) :
    (wrote sent).filterMap Act.executed? = (sent.map (·.1)).map Sql.insert := by
  rw [wrote, List.filterMap_map, List.map_map, ← List.filterMap_eq_map]
  rfl

theorem counts_wrote (sent : List (List Record × Nat)) :
    (wrote sent).map Act.count = sent.map (·.2) := by
  rw [wrote, List.map_map]
  rfl

theorem succeeded_wrote {sent : List (List Record × Nat)} {act : Act} (h : act ∈ wrote sent) :
    act.succeeded = true := by
  obtain ⟨⟨chunk, n⟩, -, rfl⟩ := List.mem_map.1 h
  rfl

/-- How the insert of chunks ends, and what it does. Every chunk is written, and what is told is the
sum of the counts; or one is refused, or its count takes the sum past the last word, and no chunk
behind it is sent. -/
inductive Inserted (chunks : List (List Record)) : Except StoreError Nat → List Act → Prop
  | written (sent : List (List Record × Nat)) (h : sent.map (·.1) = chunks)
      (hword : (sent.map (·.2)).sum < UInt64.size) :
      Inserted chunks (.ok (sent.map (·.2)).sum) (wrote sent)
  | refused (sent : List (List Record × Nat)) (chunk : List Record)
      (h : sent.map (·.1) ++ [chunk] <+: chunks) (reason : String) :
      Inserted chunks (.error (.database reason))
        (wrote sent ++ [.execute (Sql.insert chunk) (.error reason)])
  | overflowed (sent : List (List Record × Nat)) (chunk : List Record)
      (h : sent.map (·.1) ++ [chunk] <+: chunks) (n : Nat)
      (hover : UInt64.size ≤ (sent.map (·.2)).sum + n) :
      Inserted chunks (.error (.chunking .overflow))
        (wrote sent ++ [.execute (Sql.insert chunk) (.ok n)])

theorem ensures_insertChunk_watched (counts : List Nat) (n : Nat) (chunk : List Record)
    (acts : List Act) :
    Ensures (fun st => st.2 = acts) (db.watched.insertChunk counts n chunk) fun answer st =>
      (∀ count, answer.value = .ok count → counts.sum + count < UInt64.size ∧
        st.2 = acts ++ [.execute (Sql.insert chunk) (.ok count)]) ∧
      ∀ e, answer.value = .error e →
        (∃ reason, e = .database reason ∧
          st.2 = acts ++ [.execute (Sql.insert chunk) (.error reason)]) ∨
        ∃ count, e = .chunking .overflow ∧ UInt64.size ≤ counts.sum + count ∧
          st.2 = acts ++ [.execute (Sql.insert chunk) (.ok count)] := by
  unfold insertChunk
  dsimp only
  refine Ensures.bind (ensures_noting _ _ acts) fun outcome => ?_
  cases outcome with
  | error reason =>
    refine Ensures.pure fun st hst => ⟨fun count h => by simp at h, fun e h => .inl ?_⟩
    cases h
    exact ⟨reason, rfl, hst⟩
  | ok rows =>
    dsimp only
    rw [← List.sum_eq_foldl]
    split
    · next hover =>
      refine Ensures.pure fun st hst => ⟨fun count h => by simp at h, fun e h => .inr ?_⟩
      cases h
      exact ⟨rows, rfl, hover, hst⟩
    · next hword =>
      refine Ensures.pure fun st hst => ⟨fun count h => ?_, fun e h => by cases h⟩
      cases h
      exact ⟨Nat.lt_of_not_le hword, hst⟩

/-- The chunks of an insert in turn: each statement stands behind those that wrote. -/
theorem ensures_run_insertChunk_watched (limit : Nat) (records : List Record) (acts : List Act) :
    Ensures (fun st => st.2 = acts) (Chunks.run limit (fun _ => 1) db.watched.insertChunk records)
      fun outcome st =>
        (∀ cause, outcome = .error cause →
          Chunks.cut limit (fun _ => 1) records = .error cause ∧ st.2 = acts) ∧
        ∀ answers, outcome = .ok answers → ∃ chunks more,
          Chunks.cut limit (fun _ => 1) records = .ok chunks ∧ st.2 = acts ++ more ∧
            Inserted chunks ((Chunks.results answers).map (·.foldl (· + ·) 0)) more := by
  have run := @Chunks.ensures_run_zip _ _ _ _ limit (fun _ => 1) records
    (fun done st => st.2 = acts ++ wrote done ∧ (done.map (·.2)).sum < UInt64.size)
    (fun e st => ∀ chunks, Chunks.cut limit (fun _ => 1) records = .ok chunks →
      ∃ more, st.2 = acts ++ more ∧ Inserted chunks (.error e) more)
    db.watched.insertChunk
    (by
      rintro chunks hcut done n chunk hbefore st ⟨hacts, -⟩
      obtain ⟨hok, herr⟩ := ensures_insertChunk_watched (done.map (·.2)) n chunk _ st hacts
      refine ⟨fun count hcount => ?_, fun e he chunks' hchunks => ?_⟩
      · obtain ⟨hword, hst⟩ := hok count hcount
        rw [hst, List.map_append, List.sum_append, wrote, wrote, List.map_append,
          List.append_assoc]
        exact ⟨rfl, by simpa using hword⟩
      · cases hchunks.symm.trans hcut
        rcases herr e he with ⟨reason, rfl, hst⟩ | ⟨count, rfl, hover, hst⟩
        · exact ⟨_, hst.trans (List.append_assoc _ _ _), .refused done chunk hbefore reason⟩
        · exact ⟨_, hst.trans (List.append_assoc _ _ _),
            .overflowed done chunk hbefore count hover⟩)
  have hstart : ∀ st : σ × List Act, st.2 = acts →
      st.2 = acts ++ wrote [] ∧ (([] : List (List Record × Nat)).map (·.2)).sum < UInt64.size := by
    intro st hst
    rw [wrote, List.map_nil, List.append_nil, hst]
    exact ⟨rfl, by decide⟩
  refine run.mono hstart fun outcome st hst => ⟨fun cause hcause => ?_, fun answers hanswers => ?_⟩
  · obtain ⟨⟨hacts, -⟩, hcut⟩ := hst.1 cause hcause
    rw [wrote, List.map_nil, List.append_nil] at hacts
    exact ⟨hcut, hacts⟩
  · obtain ⟨chunks, hcut, hok, herr⟩ := hst.2 answers hanswers
    cases hresults : Chunks.results answers with
    | error e =>
      obtain ⟨more, hmore, hinserted⟩ := herr e hresults chunks hcut
      exact ⟨chunks, more, hcut, hmore, hinserted⟩
    | ok counts =>
      obtain ⟨hlength, hacts, hword⟩ := hok counts hresults
      have hdone := Inserted.written (chunks.zip counts)
        (List.map_fst_zip (Nat.le_of_eq hlength)) hword
      rw [List.map_snd_zip (Nat.le_of_eq hlength.symm), List.sum_eq_foldl] at hdone
      exact ⟨chunks, _, hcut, hacts, hdone⟩

/-- An insert without chunks sends nothing and fails; any other one executes the statements of its
chunks. -/
theorem ensures_insert_watched (limit : Nat) (records : List Record) (acts : List Act) :
    Ensures (fun st => st.2 = acts) (db.watched.insert limit records) fun answer st =>
      (∀ cause, insertChunks limit records = .error cause →
        answer.value = .error (.chunking cause) ∧ st.2 = acts) ∧
      ∀ chunks, insertChunks limit records = .ok chunks →
        ∃ more, st.2 = acts ++ more ∧ Inserted chunks answer.value more := by
  unfold insert insertChunks
  split
  · refine Ensures.pure fun st hst => ⟨fun cause h => (by cases h), fun chunks h => ?_⟩
    cases h
    exact ⟨[], by rw [hst, List.append_nil], .written [] rfl (by decide)⟩
  · refine Ensures.bind (ensures_run_insertChunk_watched _ _ acts) fun outcome => ?_
    cases outcome with
    | error cause =>
      refine Ensures.pure fun st hst => ?_
      obtain ⟨hcut, hacts⟩ := hst.1 cause rfl
      rw [hcut]
      refine ⟨fun cause' h => ?_, fun chunks h => (by cases h)⟩
      cases h
      exact ⟨rfl, hacts⟩
    | ok answers =>
      dsimp only
      -- a failure and a sum are both told as the end of the chunks in turn
      cases hresults : Chunks.results answers
      all_goals
        refine Ensures.pure fun st hst => ?_
        obtain ⟨chunks, more, hcut, hmore, hinserted⟩ := hst.2 answers rfl
        rw [hresults] at hinserted
        rw [hcut]
        refine ⟨fun cause h => (by cases h), fun chunks' h => ?_⟩
        cases h
        exact ⟨more, hmore, hinserted⟩

/-- What an insert does with the database. -/
def insertActs (db : Database (StateM σ)) (limit : Nat) (records : List Record) (st : σ) :
    List Act :=
  ((db.watched.insert limit records).run (st, [])).2.2

/-- The statements of an insert in which none fails. -/
def insertStatements (limit : Nat) (records : List Record) : List Sql.Statement :=
  match insertChunks limit records with
  | .error _ => []
  | .ok chunks => chunks.map Sql.insert

theorem inserted_watched {chunks : List (List Record)}
    (h : insertChunks limit records = .ok chunks) (st : σ) :
    Inserted chunks ((db.watched.insert limit records).run (st, [])).1.value
      (db.insertActs limit records st) := by
  obtain ⟨more, hmore, hinserted⟩ :=
    (ensures_insert_watched limit records [] (st, []) rfl).2 chunks h
  rwa [insertActs, hmore, List.nil_append]

theorem insert_of_no_chunks {cause : CutError} (h : insertChunks limit records = .error cause)
    (st : σ) :
    ((db.watched.insert limit records).run (st, [])).1.value = .error (.chunking cause) ∧
      db.insertActs limit records st = [] :=
  (ensures_insert_watched limit records [] (st, []) rfl).1 cause h

theorem Inserted.executed_prefix {chunks : List (List Record)} {answer : Except StoreError Nat}
    (h : Inserted chunks answer acts) :
    acts.filterMap Act.executed? <+: chunks.map Sql.insert := by
  -- the last statement is one of the insert whatever comes of it
  have hlast : ∀ (sent : List (List Record × Nat)) (chunk : List Record) (outcome),
      sent.map (·.1) ++ [chunk] <+: chunks →
        (wrote sent ++ [Act.execute (Sql.insert chunk) outcome]).filterMap Act.executed? <+:
          chunks.map Sql.insert := by
    intro sent chunk outcome hbefore
    rw [List.filterMap_append, executed_wrote]
    have hstatements := hbefore.map Sql.insert
    rwa [List.map_append] at hstatements
  cases h with
  | written sent hsent => exact hsent ▸ executed_wrote sent ▸ List.prefix_rfl
  | refused sent chunk hbefore reason => exact hlast sent chunk _ hbefore
  | overflowed sent chunk hbefore n hover => exact hlast sent chunk _ hbefore

/-- The statements of the chunks are executed in order, and all of them where nothing stops the
insert. -/
theorem Inserted.executed {chunks : List (List Record)} {answer : Except StoreError Nat}
    (h : Inserted chunks answer acts) :
    acts.filterMap Act.executed? <+: chunks.map Sql.insert ∧
      (Unbroken acts → acts.filterMap Act.executed? = chunks.map Sql.insert) := by
  refine ⟨h.executed_prefix, fun hacts => ?_⟩
  cases h with
  | written sent hsent => rw [executed_wrote, hsent]
  | refused sent chunk hbefore reason =>
    have hlast := hacts.succeeded (.execute (Sql.insert chunk) (.error reason)) (by simp)
    cases hlast
  | overflowed sent chunk hbefore n hover =>
    have hword := hacts.word
    rw [List.map_append, counts_wrote, List.sum_append, List.map_singleton, List.sum_singleton]
      at hword
    exact absurd hword (Nat.not_lt_of_le hover)

theorem executed_insertActs (db : Database (StateM σ)) (limit : Nat) (records : List Record)
    (st : σ) :
    (db.insertActs limit records st).filterMap Act.executed? <+: insertStatements limit records ∧
      (Unbroken (db.insertActs limit records st) →
        (db.insertActs limit records st).filterMap Act.executed? =
          insertStatements limit records) := by
  unfold insertStatements
  cases hchunks : insertChunks limit records with
  | error cause =>
    rw [(insert_of_no_chunks hchunks st).2]
    exact ⟨List.prefix_rfl, fun _ => rfl⟩
  | ok chunks => exact (inserted_watched hchunks st).executed

theorem length_le_of_executed {st : σ} {q : Sql.Statement}
    (hq : q ∈ (db.insertActs limit records st).filterMap Act.executed?) :
    q.values.length ≤ limit := by
  have hmem := (db.executed_insertActs limit records st).1.subset hq
  unfold insertStatements at hmem
  cases hchunks : insertChunks limit records with
  | error cause =>
    rw [hchunks] at hmem
    cases hmem
  | ok chunks =>
    rw [hchunks] at hmem
    obtain ⟨chunk, hchunk, rfl⟩ := List.mem_map.1 hmem
    exact length_values_le hchunks hchunk

/-- Records that the limit has room for are written with one statement. -/
theorem executed_insertActs_of_fits (db : Database (StateM σ)) (st : σ)
    (hlimit : limit < UInt64.size) (hne : records ≠ [])
    (hfits : records.length ≤ limit / Sql.valuesPerRecord) :
    (db.insertActs limit records st).filterMap Act.executed? =
      [Sql.insert (records.map Record.normalize)] := by
  have hchunks : insertChunks limit records = .ok [records.map Record.normalize] := by
    have hpos : 0 < records.length := List.length_pos_iff.2 hne
    rw [insertChunks, if_neg (by simpa using hne)]
    refine Chunks.cut_of_sum_le ?_ (by omega) (by simpa using hne) ?_
    · exact Nat.lt_of_le_of_lt (Nat.div_le_self limit _) hlimit
    · rwa [Chunks.sum_map_one, List.length_map]
  -- the one chunk is sent, whatever comes of it
  have honly : ∀ (sent : List (List Record × Nat)) (chunk : List Record),
      sent.map (·.1) ++ [chunk] <+: [records.map Record.normalize] →
        sent = [] ∧ chunk = records.map Record.normalize := by
    rintro (_ | ⟨_, _⟩) chunk hbefore <;> simp_all
  have hdone := @inserted_watched _ db _ _ _ hchunks st
  generalize ((db.watched.insert limit records).run (st, [])).1.value = answer,
    db.insertActs limit records st = acts at hdone ⊢
  cases hdone with
  | written sent hsent =>
    rw [executed_wrote, hsent]
    rfl
  | refused sent chunk hbefore reason =>
    obtain ⟨rfl, rfl⟩ := honly sent chunk hbefore
    rfl
  | overflowed sent chunk hbefore n hover =>
    obtain ⟨rfl, rfl⟩ := honly sent chunk hbefore
    rfl

end Database

end Registrar
