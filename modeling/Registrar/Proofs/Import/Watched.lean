import Registrar.Proofs.Import.Acts

/-!
Watching changes nothing. A watched action ends with the value and in the state that the action ends
with, and only adds to the list of acts. Commands use a host by its actions alone, so that an import
on the watched host is the import on the host, with its acts told (`watches_runInsert`).
-/

namespace Registrar

variable {σ ε α β : Type}

/-- The first action does what the second one does, and adds to the list. -/
def Watches (x' : StateM (σ × List Act) α) (x : StateM σ α) : Prop :=
  ∀ st acts, ∃ more, x'.run (st, acts) = ((x.run st).1, (x.run st).2, acts ++ more)

namespace Watches

theorem pure (a : α) : Watches (Pure.pure a : StateM (σ × List Act) α) (Pure.pure a) :=
  fun st acts => ⟨[], by rw [List.append_nil]; rfl⟩

theorem bind {x' : StateM (σ × List Act) α} {x : StateM σ α} {f' : α → StateM (σ × List Act) β}
    {f : α → StateM σ β} (hx : Watches x' x) (hf : ∀ a, Watches (f' a) (f a)) :
    Watches (x' >>= f') (x >>= f) := by
  intro st acts
  obtain ⟨more, hmore⟩ := hx st acts
  obtain ⟨more', hmore'⟩ := hf (x.run st).1 (x.run st).2 (acts ++ more)
  refine ⟨more ++ more', ?_⟩
  rw [StateT.run_bind, hmore, ← List.append_assoc]
  exact hmore'

theorem noting (note : α → Act) (x : StateM σ α) : Watches (noting note x) x :=
  fun st _ => ⟨[note (x.run st).1], rfl⟩

/-! ### Actions that may fail -/

theorem bind_except {x' : ExceptT ε (StateM (σ × List Act)) α} {x : ExceptT ε (StateM σ) α}
    {f' : α → ExceptT ε (StateM (σ × List Act)) β} {f : α → ExceptT ε (StateM σ) β}
    (hx : Watches x'.run x.run) (hf : ∀ a, Watches (f' a).run (f a).run) :
    Watches (x' >>= f').run (x >>= f).run := by
  show Watches (x'.run >>= fun outcome => ExceptT.bindCont f' outcome)
    (x.run >>= fun outcome => ExceptT.bindCont f outcome)
  refine Watches.bind hx fun outcome => ?_
  cases outcome with
  | error e => exact Watches.pure _
  | ok a => exact hf a

theorem lift {x' : StateM (σ × List Act) α} {x : StateM σ α} (hx : Watches x' x) :
    Watches (ExceptT.lift x' : ExceptT ε _ α).run (ExceptT.lift x : ExceptT ε _ α).run :=
  Watches.bind hx fun _ => Watches.pure _

theorem orEnd {outcome : ε → Outcome} {x' : StateM (σ × List Act) (Except ε α)}
    {x : StateM σ (Except ε α)} (hx : Watches x' x) :
    Watches (Command.orEnd outcome x').run (Command.orEnd outcome x).run := by
  refine Watches.bind hx fun answer => ?_
  cases answer <;> exact Watches.pure _

end Watches

/-! ### Chunks, lookups and inserts -/

theorem watches_inTurn {ι : Type} {step' : List β → ι → StateM (σ × List Act) (Noted (Except ε β))}
    {step : List β → ι → StateM σ (Noted (Except ε β))}
    (h : ∀ done i, Watches (step' done i) (step done i)) (done : List β) (is : List ι) :
    Watches (Chunks.inTurn step' done is) (Chunks.inTurn step done is) := by
  induction is generalizing done with
  | nil => exact Watches.pure _
  | cons i is ih =>
    unfold Chunks.inTurn
    refine Watches.bind (h done i) fun answer => ?_
    cases answer.value with
    | error e => exact Watches.pure _
    | ok b => exact Watches.bind (ih _) fun answers => Watches.pure _

theorem watches_chunks {limit : Nat} {weight : α → Nat} {items : List α}
    {step' : List β → Nat → List α → StateM (σ × List Act) (Noted (Except ε β))}
    {step : List β → Nat → List α → StateM σ (Noted (Except ε β))}
    (h : ∀ done n chunk, Watches (step' done n chunk) (step done n chunk)) :
    Watches (Chunks.run limit weight step' items) (Chunks.run limit weight step items) := by
  unfold Chunks.run
  cases Chunks.cut limit weight items with
  | error cause => exact Watches.pure _
  | ok chunks =>
    exact Watches.bind (watches_inTurn (fun done (i : List α × Nat) => h done i.2 i.1) _ _)
      fun answers => Watches.pure _

variable {db : Database (StateM σ)} {limit : Nat} {country : String} {s : Selection}
  {batch records : List Record}

theorem watches_find (c : Criterion) :
    Watches ((db.watched.registry limit).find country c) ((db.registry limit).find country c) := by
  unfold Database.registry
  dsimp only
  split
  · exact Watches.pure _
  · refine Watches.bind (Watches.noting _ _) fun outcome => ?_
    cases outcome with
    | error reason => exact Watches.pure _
    | ok rows =>
      dsimp only
      split <;> exact Watches.pure _

theorem watches_lookup :
    Watches (Lookup.run (db.watched.registry limit) s country batch)
      (Lookup.run (db.registry limit) s country batch) := by
  have hchunk : ∀ n chunk, Watches (Lookup.askChunk (db.watched.registry limit) country n chunk)
      (Lookup.askChunk (db.registry limit) country n chunk) := by
    intro n chunk
    refine Watches.bind (watches_find _) fun answer => ?_
    cases answer.value <;> exact Watches.pure _
  have hlimit : (db.watched.registry limit).limit = (db.registry limit).limit := rfl
  unfold Lookup.run
  rw [hlimit]
  dsimp only
  split
  · exact Watches.pure _
  · exact Watches.pure _
  · refine Watches.bind (watches_chunks fun _ => hchunk) fun outcome => ?_
    cases outcome <;> exact Watches.pure _

theorem watches_search :
    Watches (Report.search (db.watched.registry limit) s country batch)
      (Report.search (db.registry limit) s country batch) := by
  unfold Report.search
  refine Watches.bind watches_lookup fun found => ?_
  cases found.value <;> exact Watches.pure _

theorem watches_insert : Watches (db.watched.insert limit records) (db.insert limit records) := by
  have hchunk : ∀ counts n chunk, Watches (db.watched.insertChunk counts n chunk)
      (db.insertChunk counts n chunk) := by
    intro counts n chunk
    refine Watches.bind (Watches.noting _ _) fun outcome => ?_
    cases outcome with
    | error reason => exact Watches.pure _
    | ok rows =>
      dsimp only
      split <;> exact Watches.pure _
  unfold Database.insert
  split
  · exact Watches.pure _
  · refine Watches.bind (watches_chunks hchunk) fun outcome => ?_
    cases outcome with
    | error cause => exact Watches.pure _
    | ok answers =>
      dsimp only
      cases Chunks.results answers <;> exact Watches.pure _

/-! ### Imports -/

namespace Import

variable {host : Host (StateM σ)}

theorem watches_withIds (batch : List Record) :
    Watches (Command.withIds host.watched batch) (Command.withIds host batch) := by
  induction batch with
  | nil => exact Watches.pure _
  | cons r rs ih =>
    have goOn : ∀ r' : Record, Watches (do return r' :: (← Command.withIds host.watched rs))
        (do return r' :: (← Command.withIds host rs)) :=
      fun r' => Watches.bind ih fun rest => Watches.pure _
    unfold Command.withIds
    dsimp only
    split
    · exact Watches.bind (Watches.bind (Watches.noting _ _) fun id => Watches.pure _) goOn
    · exact goOn r

variable {request : Request} {settings : Settings} {env : Environment}

theorem watches_batchOf : Watches (Command.batchOf host.watched request).run
    (Command.batchOf host request).run := by
  unfold Command.batchOf
  refine Watches.bind_except (Watches.lift (Watches.noting _ _)) fun text => ?_
  cases text with
  | none => exact Watches.pure _
  | some text =>
    dsimp only
    split <;> exact Watches.pure _

theorem watches_connect : Watches (Command.connect db.watched env).run
    (Command.connect db env).run :=
  Watches.bind_except (Watches.orEnd (Watches.noting _ _)) fun _ =>
    Watches.orEnd (Watches.noting _ _)

theorem watches_commandSearch : Watches (Command.search db.watched settings s country batch).run
    (Command.search db settings s country batch).run :=
  Watches.orEnd (Watches.bind watches_search fun _ => Watches.pure _)

theorem watches_printFindings (report : Report) :
    Watches (Command.printFindings host.watched s batch report).run
      (Command.printFindings host s batch report).run := by
  have hprint (text : String) : Watches (host.watched.print text) (host.print text) :=
    Watches.noting (fun _ => .print text) (host.print text)
  exact Watches.bind_except (Watches.lift (hprint _)) fun _ => Watches.pure _

/-- An import on the watched host is the import on the host. -/
theorem watches_runInsert (host : Host (StateM σ)) (env : Environment) (catalog : Catalog)
    (settings : Settings) (request : Request) (allow : Bool) :
    Watches (Command.runInsert host.watched env catalog settings request allow).run
      (Command.runInsert host env catalog settings request allow).run := by
  have hselection : Watches
      (Command.selectionOf catalog settings request : Command.Attempt (StateM (σ × List Act)) _).run
      (Command.selectionOf catalog settings request : Command.Attempt (StateM σ) _).run := by
    unfold Command.selectionOf
    split <;> exact Watches.pure _
  unfold Command.runInsert
  refine Watches.bind_except hselection fun s => Watches.bind_except watches_batchOf fun read =>
    Watches.bind_except watches_connect fun _ =>
    Watches.bind_except (Watches.orEnd (Watches.noting _ _)) fun _ =>
    Watches.bind_except watches_commandSearch fun report =>
    Watches.bind_except (watches_printFindings report) fun clean => ?_
  split
  · exact Watches.bind_except (Watches.orEnd (Watches.noting _ _)) fun _ => Watches.pure _
  · refine Watches.bind_except (Watches.lift (watches_withIds _)) fun records =>
      Watches.bind_except (Watches.orEnd (Watches.bind watches_insert fun _ => Watches.pure _))
        fun _ => Watches.bind_except (Watches.orEnd (Watches.noting _ _)) fun _ => ?_
    exact Watches.pure _

end Import

end Registrar
