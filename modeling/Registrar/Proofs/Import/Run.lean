import Registrar.Command.Run
import Registrar.Proofs.Import.Faithful

/-!
One import, step by step. An import that commits anything has searched the committed rows before and
found its batch clean, so that the rows it leaves are sound if those before it were
(`attempts_runInsert`).
-/

namespace Registrar.Import

variable {σ : Type} {db : Database (StateM σ)} {host : Host (StateM σ)} {contents : σ → Contents}
  {country : String} {wellFormed : String → Prop} {s : Selection} {batch : List Record}
  {K : Contents} {C : List Record}

/-- Files, printing and new ids have nothing to do with the rows of the database. -/
structure Beside (host : Host (StateM σ)) (contents : σ → Contents) : Prop where
  fileText : ∀ path K, Ensures (fun st => contents st = K) (host.fileText path)
    fun _ st => contents st = K
  print : ∀ text K, Ensures (fun st => contents st = K) (host.print text)
    fun _ st => contents st = K
  newId : ∀ K, Ensures (fun st => contents st = K) host.newId fun _ st => contents st = K

theorem attempts_orEnd {ε α : Type} {P E : σ → Prop} {Q : α → σ → Prop} {outcome : ε → Outcome}
    {action : StateM σ (Except ε α)}
    (h : Ensures P action fun answer st =>
      (∀ a, answer = .ok a → Q a st) ∧ ∀ e, answer = .error e → E st) :
    Attempts P (Command.orEnd outcome action) Q E := by
  refine Ensures.bind h fun answer => ?_
  cases answer with
  | error e => exact Ensures.pure fun st hst => hst.2 e rfl
  | ok a => exact Ensures.pure fun st hst => hst.1 a rfl

/-- An action that ensures the same however it ends. -/
theorem attempts_orEnd_either {ε α : Type} {P E : σ → Prop} {outcome : ε → Outcome}
    {action : StateM σ (Except ε α)} (h : Ensures P action fun _ st => E st) :
    Attempts P (Command.orEnd outcome action) (fun _ st => E st) E := by
  refine attempts_orEnd (h.imp fun answer st hst => ?_)
  exact ⟨fun _ _ => hst, fun _ _ => hst⟩

/-! ### New ids -/

/-- The record is the candidate, with an id of its own if the candidate had none. -/
structure Identified (candidate r : Record) : Prop where
  country : r.country = candidate.country
  values : r.values = candidate.values
  id : Batch.knownId candidate ≠ "" → r.id = candidate.id

theorem ensures_withIds (hhost : Beside host contents) (batch : List Record) :
    Ensures (fun st => contents st = K) (Command.withIds host batch) fun records st =>
      contents st = K ∧ List.Forall₂ Identified batch records := by
  induction batch with
  | nil => exact Ensures.pure fun st hst => ⟨hst, .nil⟩
  | cons candidate batch ih =>
    have goOn : ∀ r, Identified candidate r → Ensures (fun st => contents st = K)
        (do return r :: (← Command.withIds host batch)) fun records st =>
          contents st = K ∧ List.Forall₂ Identified (candidate :: batch) records := by
      intro r hr
      refine Ensures.bind ih fun records => Ensures.pure fun st hst => ⟨hst.1, ?_⟩
      exact .cons hr hst.2
    unfold Command.withIds
    dsimp only
    split
    · next hblank =>
      refine Ensures.bind (Q := fun r st => contents st = K ∧ Identified candidate r) ?_ fun r => ?_
      · refine Ensures.bind (hhost.newId K) fun id => Ensures.pure fun st hst => ⟨hst, rfl, rfl, ?_⟩
        exact fun hne => absurd hblank hne
      · intro st hst
        exact goOn r hst.2 st hst.1
    · exact goOn candidate ⟨rfl, rfl, fun _ => rfl⟩

theorem forall₂_trans {α β γ : Type} {R : α → β → Prop} {S : β → γ → Prop} {T : α → γ → Prop}
    (h : ∀ a b c, R a b → S b c → T a c) {as : List α} {bs : List β} {cs : List γ}
    (hR : List.Forall₂ R as bs) (hS : List.Forall₂ S bs cs) : List.Forall₂ T as cs := by
  induction hR generalizing cs with
  | nil =>
    rw [List.forall₂_nil_left_iff] at hS
    rw [hS]
    exact .nil
  | cons hab _ ih =>
    obtain ⟨c, cs', hbc, hS', rfl⟩ := List.forall₂_cons_left_iff.1 hS
    exact .cons (h _ _ _ hab hbc) (ih hS')

/-- What is stored of a record with its id is what its candidate was entered with. -/
theorem entered (htrim : ∀ id, wellFormed id → Text.trim id = id) {rows : List Record}
    {candidate r row : Record} (hr : Identified candidate r)
    (hrow : StoredAs wellFormed country rows r.normalize row) :
    Entered country rows candidate row := by
  constructor
  case country => exact hrow.country
  case value =>
    intro f
    rw [hrow.value, Record.value_normalize, Record.value, hr.values]
    rfl
  case trimmed => exact htrim row.id hrow.wellFormed
  case unknown =>
    intro hne
    have hid : r.id = candidate.id := hr.id hne
    -- a well-formed id is not blank at its ends, so that what is entered is what was compared
    have hunpad : Text.trim candidate.id = Text.unpad r.id := by
      rw [← hid, ← Text.trim_unpad]
      exact htrim _ hrow.given
    rw [hunpad]
    exact hrow.unknown

/-! ### The steps of an import -/

theorem attempts_batchOf (hhost : Beside host contents) (request : Request) :
    Attempts (fun st => (contents st).committed = C) (Command.batchOf host request)
      (fun _ st => (contents st).committed = C) (fun st => (contents st).committed = C) := by
  unfold Command.batchOf
  have hfile : Ensures (fun st => (contents st).committed = C) (host.fileText request.input)
      fun _ st => (contents st).committed = C :=
    Ensures.of_contents contents (p := fun K => K.committed = C) fun K hK =>
      (hhost.fileText request.input K).imp fun _ st hst => hst ▸ hK
  refine Attempts.bind (Attempts.lift hfile) fun text => ?_
  cases text with
  | none => exact Attempts.throw fun _ h => h
  | some text =>
    dsimp only
    split
    · exact Attempts.pure fun _ h => h
    · exact Attempts.throw fun _ h => h

theorem attempts_connect (hdb : Faithful db contents country wellFormed) (env : Environment) :
    Attempts (fun st => (contents st).committed = C) (Command.connect db env)
      (fun _ st => (contents st).committed = C) (fun st => (contents st).committed = C) := by
  refine Attempts.bind (Q := fun _ st => (contents st).committed = C) ?_ fun _ => ?_
  · exact attempts_orEnd_either (hdb.connect _ C)
  · exact attempts_orEnd_either (hdb.probe _ C)

theorem attempts_begin (hdb : Faithful db contents country wellFormed) (message : String) :
    Attempts (fun st => (contents st).committed = C)
      (Command.orFail message (db.transact .begin)) (fun _ st => contents st = ⟨C, C⟩)
      (fun st => (contents st).committed = C) := by
  refine attempts_orEnd ((hdb.begin C).imp fun outcome st h => ?_)
  refine ⟨fun _ hok => ?_, fun _ _ => h.1⟩
  have hst : contents st = ⟨(contents st).committed, (contents st).seen⟩ := rfl
  rw [hst, h.1, h.2 hok]

theorem attempts_search (hdb : Faithful db contents country wellFormed)
    (hK : ∀ r ∈ K.seen, r.normalize = r) (settings : Settings) :
    Attempts (fun st => contents st = K) (Command.search db settings s country batch)
      (fun report st => contents st = K ∧
        ((Findings.ofReport s batch report).clean = true → Clear s country batch K.seen))
      (fun st => contents st = K) := by
  refine attempts_orEnd (Ensures.bind (ensures_search hdb hK) fun found => ?_)
  refine Ensures.pure fun st hst => ⟨fun report h => ⟨hst.1, hst.2 report h⟩, fun _ _ => hst.1⟩

theorem attempts_printFindings (hhost : Beside host contents) (report : Report) {p : Prop}
    (hp : (Findings.ofReport s batch report).clean = true → p) :
    Attempts (fun st => contents st = K) (Command.printFindings host s batch report)
      (fun clean st => contents st = K ∧ (clean = true → p)) (fun st => contents st = K) := by
  refine Attempts.bind (Attempts.lift (hhost.print _ K)) fun _ => ?_
  exact Attempts.pure fun st hst => ⟨hst, hp⟩

theorem ensures_entered (hdb : Faithful db contents country wellFormed)
    (hs : ∃ catalog names connective, Selection.ofNames catalog names connective = .ok s)
    (hunpad : Text.unpad country = country) (hsound : Sound s country C)
    (hclear : Clear s country batch C) (hcountry : ∀ r ∈ batch, r.country = country)
    {records : List Record} (hrecords : List.Forall₂ Identified batch records) (limit : Nat) :
    Ensures (fun st => contents st = ⟨C, C⟩) (db.insert limit records) fun answer st =>
      (contents st).committed = C ∧
        ∀ n, answer.value = .ok n → Sound s country (contents st).seen := by
  obtain ⟨catalog, names, connective, hs⟩ := hs
  have hnormal : ∀ r ∈ records, r.normalize.country = country := by
    intro r hr
    obtain ⟨candidate, hcandidate, h⟩ := exists_of_forall₂ hrecords hr
    show Text.unpad r.country = country
    rw [h.country, hcountry candidate hcandidate, hunpad]
  refine (ensures_insert hdb hnormal).imp fun answer st h => ⟨h.1, fun n e => ?_⟩
  obtain ⟨new, hseen, hstored, hfresh⟩ := h.2 n e
  have hentered : List.Forall₂ (Entered country C) batch new := by
    rw [List.forall₂_map_left_iff] at hstored
    refine forall₂_trans ?_ hrecords hstored
    intro candidate r row hr hrow
    exact entered hdb.trim hr hrow
  rw [hseen]
  exact hsound.append hs hunpad hclear hentered hfresh

theorem attempts_commit (hdb : Faithful db contents country wellFormed) (message : String) :
    Attempts
      (fun st => Sound s country (contents st).committed ∧ Sound s country (contents st).seen)
      (Command.orFail message (db.transact .commit))
      (fun _ st => Sound s country (contents st).committed)
      (fun st => Sound s country (contents st).committed) := by
  have hcommit : Ensures
      (fun st => Sound s country (contents st).committed ∧ Sound s country (contents st).seen)
      (db.transact .commit) fun _ st => Sound s country (contents st).committed := by
    refine Ensures.of_contents contents
      (p := fun K => Sound s country K.committed ∧ Sound s country K.seen) fun K hK => ?_
    refine (hdb.commit K).imp fun _ st h => ?_
    rcases h with h | h
    · exact h ▸ hK.1
    · exact h ▸ hK.2
  exact attempts_orEnd_either hcommit

theorem exists_ofNames {settings : Settings} {catalog : Catalog} {groups connective : Option String}
    (h : (settings.select catalog groups connective).value = .ok s) :
    ∃ catalog names connective, Selection.ofNames catalog names connective = .ok s := by
  unfold Settings.select Selection.make at h
  split at h
  · cases h
  · next k _ =>
    refine ⟨catalog, groups.elim settings.groups Selection.names, k, ?_⟩
    split at h
    · next hs =>
      rw [hs]
      exact h
    · cases h

theorem attempts_enter (hdb : Faithful host.database contents country wellFormed)
    (hhost : Beside host contents)
    (hs : ∃ catalog names connective, Selection.ofNames catalog names connective = .ok s)
    (hunpad : Text.unpad country = country) (hsound : Sound s country C)
    (hclear : Clear s country batch C) (hcountry : ∀ r ∈ batch, r.country = country) (limit : Nat) :
    Attempts (fun st => contents st = ⟨C, C⟩)
      (do
        let records ← (Command.withIds host batch : StateM σ _)
        let _ ← Command.orEnd (Command.registryOutcome "Failed to insert individuals") do
          return (← host.database.insert limit records).value
        Command.orFail "Failed to commit import" (host.database.transact .commit)
        return true : Command.Attempt (StateM σ) Bool)
      (fun _ st => Sound s country (contents st).committed)
      (fun st => Sound s country (contents st).committed) := by
  have hcommitted : ∀ st, (contents st).committed = C → Sound s country (contents st).committed :=
    fun st h => h ▸ hsound
  refine Attempts.bind (Attempts.lift (ensures_withIds hhost batch)) fun records =>
    Attempts.of_imp fun hrecords => ?_
  have hinsert := ensures_entered hdb hs hunpad hsound hclear hcountry hrecords limit
  refine Attempts.bind (Q := fun _ st => Sound s country (contents st).committed ∧
    Sound s country (contents st).seen) (attempts_orEnd (Ensures.bind hinsert fun answer => ?_))
    fun _ => ?_
  · refine Ensures.pure fun st hst => ⟨fun n e => ⟨hcommitted st hst.1, hst.2 n e⟩, fun _ _ => ?_⟩
    exact hcommitted st hst.1
  · refine Attempts.bind (attempts_commit hdb _) fun _ => ?_
    exact Attempts.pure fun _ h => h

theorem attempts_runInsert {env : Environment} {catalog : Catalog} {settings : Settings}
    {request : Request} (hdb : Faithful host.database contents country wellFormed)
    (hhost : Beside host contents) (hunpad : Text.unpad country = country)
    (hselect : (settings.select catalog request.groups request.connective).value = .ok s)
    (hcountry : request.country = country) (hsound : Sound s country C) :
    Attempts (fun st => (contents st).committed = C)
      (Command.runInsert host env catalog settings request false)
      (fun _ st => Sound s country (contents st).committed)
      (fun st => Sound s country (contents st).committed) := by
  have hcommitted : ∀ st, (contents st).committed = C → Sound s country (contents st).committed :=
    fun st h => h ▸ hsound
  have hkept : ∀ st, contents st = ⟨C, C⟩ → Sound s country (contents st).committed :=
    fun st h => h ▸ hsound
  have hselection : Command.selectionOf (m := StateM σ) catalog settings request = pure s := by
    unfold Command.selectionOf
    rw [hselect]
  unfold Command.runInsert
  dsimp only
  rw [hselection, pure_bind]
  refine Attempts.bind ((attempts_batchOf hhost request).imp_error hcommitted) fun read => ?_
  refine Attempts.bind ((attempts_connect hdb env).imp_error hcommitted) fun _ => ?_
  refine Attempts.bind ((attempts_begin hdb _).imp_error hcommitted) fun _ => ?_
  have hbatch : ∀ r ∈ read.map (fun r => { r with country := request.country }),
      r.country = country := by
    intro r hr
    obtain ⟨r', -, rfl⟩ := List.mem_map.1 hr
    exact hcountry
  generalize read.map (fun r => { r with country := request.country }) = batch at hbatch ⊢
  rw [hcountry]
  have hsearch : Attempts (fun st => contents st = ⟨C, C⟩)
      (Command.search host.database settings s country batch) _ _ :=
    attempts_search hdb hsound.normal settings
  refine Attempts.bind (hsearch.imp_error hkept) fun report => Attempts.of_imp fun hreport => ?_
  have hprint := attempts_printFindings (K := ⟨C, C⟩) hhost report hreport
  refine Attempts.bind (hprint.imp_error hkept) fun clean => Attempts.of_imp fun hclean => ?_
  cases clean with
  | false =>
    rw [if_pos (by decide)]
    have hrollback := (hdb.rollback ⟨C, C⟩).imp fun _ st h => hcommitted st h
    refine Attempts.bind (attempts_orEnd_either hrollback) fun _ => ?_
    exact Attempts.pure fun _ h => h
  | true =>
    rw [if_neg (by decide)]
    exact attempts_enter hdb hhost (exists_ofNames hselect) hunpad hsound (hclean rfl) hbatch _

end Registrar.Import
