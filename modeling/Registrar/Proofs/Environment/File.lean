import Mathlib.Data.List.ReduceOption
import Registrar.Environment.File
import Registrar.Proofs.Environment.Line

/-!
What files of variables leave behind. A file only adds variables, and those that it adds stay when
it turns out that a later line makes no sense and the file is passed over. So the first file that
can be read to its end is read on top of what the files before it left behind: that is nothing
exactly if each name that they give a value to, before their bad line, has one already
(`takeFirst_traceless_iff`).
-/

namespace Registrar.Environment

/-! ### Variables -/

section Variables

variable {env env' : Environment} {name value : String}

/-- A variable keeps its value when others come behind it. -/
theorem get?_eq_some_mono (h : env <+: env') (hvalue : env.get? name = some value) :
    env'.get? name = some value := by
  obtain ⟨new, rfl⟩ := h
  unfold get? at hvalue ⊢
  rw [List.lookup_append, hvalue, Option.some_or]

theorem get?_ne_none_mono (h : env <+: env') (hset : env.get? name ≠ none) :
    env'.get? name ≠ none := by
  obtain ⟨value, hvalue⟩ := Option.ne_none_iff_exists'.1 hset
  rw [get?_eq_some_mono h hvalue]
  exact Option.some_ne_none value

theorem get?_supply_ne_none (env : Environment) (name value : String) :
    (env.supply name value).get? name ≠ none := by
  unfold supply
  split
  · next old hold => simp [hold]
  · next hnone => simp [get?]

theorem exists_supply (env : Environment) (name value : String) : ∃ new,
    env.supply name value = env ++ new ∧ ∀ v ∈ new, v = (name, value) ∧ env.get? name = none := by
  unfold supply
  split
  · exact ⟨[], by simp, by simp⟩
  · next hnone => exact ⟨[(name, value)], rfl, by simp [hnone]⟩

end Variables

/-! ### Lines -/

/-- The names that lines give values to, up to the first line that makes no sense. -/
def namesOf : List (List Char) → List String
  | [] => []
  | line :: lines =>
    match outline line with
    | .nothing => namesOf lines
    | .variable name _ => name :: namesOf lines
    | .malformed => []

theorem outline_eq {env : Environment} {given : Given} {line : List Char} {said : Line}
    (h : readLine env given line = said) : outline line = said.outline := by
  rw [← outline_readLine env given, h]

/-- What is left of an environment after the reading of lines, and where the reading ended. -/
structure Taken (env : Environment) (lines : List (List Char)) (taken : Environment × Ending) :
    Prop where
  /-- Everything stays, and what is new was not there and is named in the lines. -/
  adds : ∃ new, taken.1 = env ++ new ∧ ∀ v ∈ new, env.get? v.1 = none ∧ v.1 ∈ namesOf lines
  /-- Every name has a value in the end. -/
  named : taken.2 ≠ .impossible → ∀ name ∈ namesOf lines, taken.1.get? name ≠ none
  /-- The end is reached if all lines make sense. -/
  complete : taken.2 ≠ .impossible →
    (taken.2 = .complete ↔ ∀ line ∈ lines, outline line ≠ .malformed)

theorem taken_takeLines (env : Environment) (given : Given) (lines : List (List Char)) :
    Taken env lines (takeLines env given lines) := by
  fun_induction takeLines env given lines with
  | case1 env given => exact ⟨⟨[], by simp⟩, by simp [namesOf], by simp⟩
  | case2 env given line lines hline ih =>
    have houtline := outline_eq hline
    have hnames : namesOf (line :: lines) = namesOf lines := by
      rw [namesOf, houtline]
      rfl
    refine ⟨by rw [hnames]; exact ih.adds, by rw [hnames]; exact ih.named, fun hpossible => ?_⟩
    rw [ih.complete hpossible]
    simp [houtline, Line.outline]
  | case3 env given line lines name value hline text himpossible =>
    exact ⟨⟨[], by simp⟩, by simp, by simp⟩
  | case4 env given line lines name value hline text hpossible ih =>
    -- the other lines are read on top of this one, so what they add was not there before it either
    have houtline := outline_eq hline
    have hnames : namesOf (line :: lines) = name :: namesOf lines := by
      rw [namesOf, houtline]
      rfl
    obtain ⟨one, hone, hsupplied⟩ := exists_supply env name text
    obtain ⟨new, hnew, hadded⟩ := ih.adds
    refine ⟨⟨one ++ new, by rw [hnew, hone, List.append_assoc], fun v hv => ?_⟩,
      fun hpossible other hother => ?_, fun hpossible => ?_⟩
    · rw [hnames]
      rcases List.mem_append.1 hv with hv | hv
      · obtain ⟨rfl, hnone⟩ := hsupplied v hv
        exact ⟨hnone, List.mem_cons_self⟩
      · obtain ⟨hnone, hmem⟩ := hadded v hv
        rw [hone] at hnone
        have hunset : env.get? v.1 = none :=
          not_not.1 fun hset => get?_ne_none_mono (List.prefix_append env one) hset hnone
        exact ⟨hunset, List.mem_cons_of_mem _ hmem⟩
    · rw [hnames, List.mem_cons] at hother
      rcases hother with rfl | hother
      · exact get?_ne_none_mono ⟨new, hnew.symm⟩ (get?_supply_ne_none env other text)
      · exact ih.named hpossible other hother
    · rw [ih.complete hpossible]
      simp [houtline, Line.outline]
  | case5 env given line lines hline =>
    -- nothing is undone here
    have houtline := outline_eq hline
    refine ⟨⟨[], by simp⟩, fun _ => by simp [namesOf, houtline, Line.outline], fun _ => ?_⟩
    simp [houtline, Line.outline]

/-! ### Lines without a NUL -/

theorem canHold_eq_true_iff {value : String} : canHold value = true ↔ '\x00' ∉ value.toList := by
  simp [canHold]

theorem nul_notMem_getD {value : Option String}
    (h : ∀ text, value = some text → '\x00' ∉ text.toList) : '\x00' ∉ (value.getD "").toList := by
  cases value with
  | none => simp
  | some text => exact h text rfl

theorem NulFree.supply {env : Environment} {given : Given} (h : NulFree env given)
    {name : String} {value : Option String} (hname : '\x00' ∉ name.toList)
    (hvalue : ∀ text, value = some text → '\x00' ∉ text.toList) :
    NulFree (env.supply name (value.getD "")) ((name, value) :: given) := by
  obtain ⟨one, hone, hsupplied⟩ := exists_supply env name (value.getD "")
  refine ⟨fun v hv => ?_, fun other text hmem => ?_⟩
  · rw [hone, List.mem_append] at hv
    rcases hv with hv | hv
    · exact h.env v hv
    · obtain ⟨rfl, -⟩ := hsupplied v hv
      exact ⟨hname, nul_notMem_getD hvalue⟩
  · rcases List.mem_cons.1 hmem with heq | hmem
    · cases heq
      exact hvalue text rfl
    · exact h.given other text hmem

/-- Lines without a NUL are read to their end, or to the first that makes no sense. -/
theorem NulFree.takeLines {env : Environment} {given : Given} (h : NulFree env given)
    {lines : List (List Char)} (hlines : ∀ line ∈ lines, '\x00' ∉ line) :
    (takeLines env given lines).2 ≠ .impossible ∧ NulFree (takeLines env given lines).1 [] := by
  fun_induction Environment.takeLines env given lines with
  | case1 env given => exact ⟨by simp, h.env, by simp⟩
  | case2 env given line lines hline ih => exact ih h (List.forall_mem_cons.1 hlines).2
  | case3 env given line lines name value hline text himpossible =>
    obtain ⟨hline', -⟩ := List.forall_mem_cons.1 hlines
    obtain ⟨-, hvalue⟩ := h.readLine hline' hline
    have hhold : canHold text = true := canHold_eq_true_iff.2 (nul_notMem_getD hvalue)
    simp [hhold] at himpossible
  | case4 env given line lines name value hline text hpossible ih =>
    obtain ⟨hline', hlines⟩ := List.forall_mem_cons.1 hlines
    obtain ⟨hname, hvalue⟩ := h.readLine hline' hline
    exact ih (h.supply hname hvalue) hlines
  | case5 env given line lines hline => exact ⟨by simp, h.env, by simp⟩

/-! ### Files -/

/-- The names that a file gives values to, up to the first line that makes no sense. -/
def names (text : String) : List String := namesOf (text.toList.splitOn '\n')

/-- All lines of the file make sense. -/
def readable (text : String) : Bool :=
  (text.toList.splitOn '\n').all fun line => outline line != .malformed

/-- The files that are passed over: those before the first that can be read to its end. -/
def failed (texts : List (Option String)) : List String :=
  texts.reduceOption.takeWhile fun text => !readable text

/-- The first file that can be read to its end. -/
def firstReadable? (texts : List (Option String)) : Option String :=
  texts.reduceOption.find? readable

/-- What files leave behind, one after another. -/
def leftBehind (env : Environment) (texts : List String) : Environment :=
  texts.foldl (fun env text => (env.takeFile text).1) env

/-- The environment with what a file supplies, if there is one. -/
def loaded (env : Environment) : Option String → Environment
  | none => env
  | some text => (env.takeFile text).1

variable {env env' : Environment} {text : String} {texts : List (Option String)}

theorem taken_takeFile (env : Environment) (text : String) :
    Taken env (text.toList.splitOn '\n') (env.takeFile text) :=
  taken_takeLines env [] (text.toList.splitOn '\n')

theorem takeFile_eq_complete_iff (h : (env.takeFile text).2 ≠ .impossible) :
    (env.takeFile text).2 = .complete ↔ readable text = true := by
  rw [(taken_takeFile env text).complete h, readable, List.all_eq_true]
  simp only [bne_iff_ne]

theorem prefix_takeFile (env : Environment) (text : String) : env <+: (env.takeFile text).1 := by
  obtain ⟨new, hnew, -⟩ := (taken_takeFile env text).adds
  exact ⟨new, hnew.symm⟩

theorem prefix_leftBehind (env : Environment) (files : List String) :
    env <+: leftBehind env files := by
  induction files generalizing env with
  | nil => exact List.prefix_rfl
  | cons text files ih => exact (prefix_takeFile env text).trans (ih (env.takeFile text).1)

theorem prefix_loaded (env : Environment) (text : Option String) : env <+: env.loaded text := by
  cases text with
  | none => exact List.prefix_rfl
  | some text => exact prefix_takeFile env text

theorem leftBehind_eq_self {files : List String}
    (h : ∀ text ∈ files, ∀ name ∈ names text, env.get? name ≠ none) :
    leftBehind env files = env := by
  induction files with
  | nil => rfl
  | cons text files ih =>
    obtain ⟨htext, hfiles⟩ := List.forall_mem_cons.1 h
    obtain ⟨new, hnew, hadded⟩ := (taken_takeFile env text).adds
    have hnil : new = [] := List.eq_nil_iff_forall_not_mem.2 fun v hv =>
      htext v.1 (hadded v hv).2 (hadded v hv).1
    rw [hnil, List.append_nil] at hnew
    rw [leftBehind, List.foldl_cons, hnew]
    exact ih hfiles

/-- The first readable file is read on top of what the files before it left behind, and these have
given a value to all their names. -/
theorem of_takeFirst_eq_some (h : takeFirst env texts = some env') :
    env' = (leftBehind env (failed texts)).loaded (firstReadable? texts) ∧
      ∀ text ∈ failed texts, ∀ name ∈ names text,
        (leftBehind env (failed texts)).get? name ≠ none := by
  fun_induction takeFirst env texts with
  | case1 env =>
    cases h
    exact ⟨rfl, by simp [failed]⟩
  | case2 env texts ih => exact ih h
  | case3 env text texts taken htaken =>
    cases h
    have hpossible : (env.takeFile text).2 ≠ .impossible := by simp [htaken]
    have hreadable : readable text = true :=
      (takeFile_eq_complete_iff hpossible).1 (by rw [htaken])
    have hfailed : failed (some text :: texts) = [] := by simp [failed, hreadable]
    have hfirst : firstReadable? (some text :: texts) = some text := by
      simp [firstReadable?, hreadable]
    rw [hfailed, hfirst]
    exact ⟨by rw [leftBehind, List.foldl_nil, loaded, htaken], by simp⟩
  | case4 env text texts taken htaken ih =>
    have hpossible : (env.takeFile text).2 ≠ .impossible := by simp [htaken]
    have hreadable : ¬ readable text = true := fun hr => by
      have hcomplete := (takeFile_eq_complete_iff hpossible).2 hr
      rw [htaken] at hcomplete
      cases hcomplete
    have hfailed : failed (some text :: texts) = text :: failed texts := by simp [failed, hreadable]
    have hfirst : firstReadable? (some text :: texts) = firstReadable? texts := by
      simp [firstReadable?, hreadable]
    have hleft : leftBehind env (text :: failed texts) = leftBehind taken (failed texts) := by
      rw [leftBehind, List.foldl_cons, htaken]
      rfl
    obtain ⟨heq, hnamed⟩ := ih h
    rw [hfailed, hfirst, hleft]
    refine ⟨heq, List.forall_mem_cons.2 ⟨fun name hname => ?_, hnamed⟩⟩
    -- what the file gave stays under all that is read after it
    have hset := (taken_takeFile env text).named hpossible name hname
    rw [htaken] at hset
    exact get?_ne_none_mono (prefix_leftBehind taken (failed texts)) hset
  | case5 env text texts taken htaken => cases h

theorem subset_of_mem_splitOn {c : Char} {cs line : List Char} (h : line ∈ cs.splitOn c) :
    line ⊆ cs := by
  induction cs generalizing line with
  | nil => simpa using h
  | cons d cs ih =>
    rw [List.splitOn_cons_eq_if_modifyHead] at h
    split at h
    · rcases List.mem_cons.1 h with rfl | h
      · exact List.nil_subset _
      · exact List.Subset.trans (ih h) (List.subset_cons_self _ _)
    · obtain ⟨first, more, hsplit⟩ := List.exists_cons_of_ne_nil (List.splitOn_ne_nil c cs)
      rw [hsplit] at h ih
      rcases List.mem_cons.1 h with rfl | h
      · exact List.cons_subset_cons d (ih List.mem_cons_self)
      · exact List.Subset.trans (ih (List.mem_cons_of_mem first h)) (List.subset_cons_self _ _)

theorem NulFree.takeFile (h : NulFree env []) (htext : '\x00' ∉ text.toList) :
    (takeFile env text).2 ≠ .impossible ∧ NulFree (takeFile env text).1 [] :=
  h.takeLines fun _ hline hnul => htext (subset_of_mem_splitOn hline hnul)

theorem NulFree.exists_takeFirst (h : NulFree env [])
    (htexts : ∀ text, some text ∈ texts → '\x00' ∉ text.toList) :
    ∃ env', takeFirst env texts = some env' := by
  fun_induction takeFirst env texts with
  | case1 env => exact ⟨env, rfl⟩
  | case2 env texts ih => exact ih h fun text htext => htexts text (List.mem_cons_of_mem _ htext)
  | case3 env text texts taken htaken => exact ⟨taken, rfl⟩
  | case4 env text texts taken htaken ih =>
    obtain ⟨-, hfree⟩ := h.takeFile (htexts text List.mem_cons_self)
    rw [htaken] at hfree
    exact ih hfree fun text htext => htexts text (List.mem_cons_of_mem _ htext)
  | case5 env text texts taken htaken =>
    obtain ⟨hpossible, -⟩ := h.takeFile (htexts text List.mem_cons_self)
    rw [htaken] at hpossible
    exact absurd rfl hpossible

/-- **When files that are passed over leave no trace.** Where no text holds a NUL there is an
environment in the end. In it every variable keeps the value that it had, and so does every variable
that the files before the first readable one left behind, for the readable one is read on top of
these. So the files that are passed over contribute nothing, and every other variable is as the
readable one alone would have it, exactly if each name that they give a value to, before their bad
line, had one already. -/
theorem takeFirst_traceless_iff (env : Environment) (texts : List (Option String)) :
    ((∀ v ∈ env, '\x00' ∉ v.1.toList ∧ '\x00' ∉ v.2.toList) →
      (∀ text, some text ∈ texts → '\x00' ∉ text.toList) →
      ∃ env', takeFirst env texts = some env') ∧
    ∀ env', takeFirst env texts = some env' →
      (∀ name value, env.get? name = some value → env'.get? name = some value) ∧
      env' = (leftBehind env (failed texts)).loaded (firstReadable? texts) ∧
      (∀ name value, (leftBehind env (failed texts)).get? name = some value →
        env'.get? name = some value) ∧
      (((∀ name, (leftBehind env (failed texts)).get? name = env.get? name) ∧
          ∀ name, env'.get? name = (env.loaded (firstReadable? texts)).get? name) ↔
        ∀ text ∈ failed texts, ∀ name ∈ names text, env.get? name ≠ none) := by
  refine ⟨fun henv htexts => NulFree.exists_takeFirst ⟨henv, by simp⟩ htexts, fun env' h => ?_⟩
  obtain ⟨heq, hnamed⟩ := of_takeFirst_eq_some h
  have hleft : leftBehind env (failed texts) <+: env' := heq ▸ prefix_loaded _ _
  have henv : env <+: env' := (prefix_leftBehind env (failed texts)).trans hleft
  refine ⟨fun name value => get?_eq_some_mono henv, heq,
    fun name value => get?_eq_some_mono hleft, fun htrace text htext name hname => ?_,
    fun hset => ?_⟩
  · rw [← htrace.1 name]
    exact hnamed text htext name hname
  · rw [leftBehind_eq_self hset] at heq ⊢
    exact ⟨fun _ => rfl, fun name => by rw [heq]⟩

/-- A file with a bad line behind a good one, a readable file, and a missing one. -/
def badThenGood : List (Option String) :=
  [some "POSTGRES_USER=ghost\nbroken\n", some "POSTGRES_USER=real\nPOSTGRES_DB=real\n", none]

/-- Where the user is set already, the bad file leaves no trace. -/
theorem takeFirst_traceless_iff_ownUser :
    ∃ env', takeFirst [("POSTGRES_USER", "own")] badThenGood = some env' ∧
      env'.get? "POSTGRES_USER" = some "own" ∧
      ∀ name, env'.get? name = (loaded [("POSTGRES_USER", "own")]
        (some "POSTGRES_USER=real\nPOSTGRES_DB=real\n")).get? name := by
  obtain ⟨htotal, hend⟩ := takeFirst_traceless_iff [("POSTGRES_USER", "own")] badThenGood
  have hnul : ∀ text, some text ∈ badThenGood → '\x00' ∉ text.toList := by
    intro text htext
    simp only [badThenGood, List.mem_cons, Option.some.injEq, reduceCtorEq, List.not_mem_nil,
      or_false] at htext
    rcases htext with rfl | rfl <;> decide
  obtain ⟨env', h⟩ := htotal (by decide) hnul
  obtain ⟨hkept, -, -, hiff⟩ := hend env' h
  have hfailed : failed badThenGood = ["POSTGRES_USER=ghost\nbroken\n"] := by decide +kernel
  have hfirst : firstReadable? badThenGood = some "POSTGRES_USER=real\nPOSTGRES_DB=real\n" := by
    decide +kernel
  have hnames : names "POSTGRES_USER=ghost\nbroken\n" = ["POSTGRES_USER"] := by decide +kernel
  have hset : ∀ text ∈ failed badThenGood, ∀ name ∈ names text,
      get? [("POSTGRES_USER", "own")] name ≠ none := by
    rw [hfailed]
    simp [hnames, get?]
  exact ⟨env', h, hkept _ _ rfl, hfirst ▸ (hiff.2 hset).2⟩

/-- Where it is not, the user of the bad file stays, though the readable one names another. -/
theorem get?_takeFirst_ghost :
    ∃ env', takeFirst [] badThenGood = some env' ∧
      firstReadable? badThenGood = some "POSTGRES_USER=real\nPOSTGRES_DB=real\n" ∧
      (loaded [] (some "POSTGRES_USER=real\nPOSTGRES_DB=real\n")).get? "POSTGRES_USER" =
        some "real" ∧
      env'.get? "POSTGRES_USER" = some "ghost" :=
  ⟨[("POSTGRES_USER", "ghost"), ("POSTGRES_DB", "real")], by decide +kernel⟩

end Registrar.Environment
